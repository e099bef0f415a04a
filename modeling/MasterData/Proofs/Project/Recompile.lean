-- SUMMARY: Compiling again changes nothing, and the aggregate can be restored.
import MasterData.Proofs.Project.OneByOne
import MasterData.Proofs.Project.Outputs

/-! # Compiling again

A run that succeeds leaves a settled disk: the survey of its workbooks is finished, every file that the
survey makes is there, and no other file is marked as generated source. On a settled disk a run finds
nothing to do, and the manifest alone is enough to make the aggregate again. A disk stays settled
whatever happens to files that are neither workbooks nor in the folder of generated source. Main
statement: `compile_again`.
-/

namespace MasterData

namespace Config

/-- The path of the aggregate module of a project. -/
def aggregatePath (c : Config) : String := Path.join c.generatedFolder aggregateFileName

/-- The location of a workbook of a project. -/
def IsWorkbook (c : Config) (l : Location) : Prop :=
  Disk.destination c.workbooksFolder = some l.pop
    ∧ ∃ name, l.back? = some name ∧ Workbook.isWorkbookName name

/-- The location of a file that is neither a workbook nor in the folder of generated source. -/
def IsElsewhere (c : Config) (l : Location) : Prop :=
  ¬ c.IsWorkbook l ∧ Disk.destination c.generatedFolder ≠ some l.pop

end Config

/-! ## Surveys on other disks -/

section Survey

variable {c : Config} {d d' : Disk} {paths : List String} {survey : Survey}

theorem Config.isWorkbook_push {f : Location} {name : String}
    (hf : Disk.destination c.workbooksFolder = some f) (hname : Workbook.isWorkbookName name) :
    c.IsWorkbook (f.push name) :=
  ⟨by rw [hf, Array.pop_push], name, Array.back?_push .., hname⟩

/-- The listed paths lead to workbooks of the project. -/
theorem Config.isWorkbook_of_mem_listIn {path : String} (hd : d.HasNamedFiles c.workbooksFolder)
    (hpaths : Workbook.listIn d c.workbooksFolder = .ok paths) (hpath : path ∈ paths) {l : Location}
    (hl : Disk.destination path = some l) : c.IsWorkbook l := by
  obtain ⟨hname, hworkbook, hjoin⟩ := Workbook.exists_of_mem_listIn hd hpaths hpath
  rw [hjoin, Disk.destination_join _ hname, Option.map_eq_some_iff] at hl
  obtain ⟨f, hf, rfl⟩ := hl
  exact Config.isWorkbook_push hf hworkbook

/-- Where the workbooks are kept, their survey is the same. -/
theorem Survey.of_keeps (hd : d.HasNamedFiles c.workbooksFolder)
    (h : Disk.Keeps (fun l => ¬ c.IsWorkbook l) d d')
    (hpaths : Workbook.listIn d c.workbooksFolder = .ok paths)
    (hsurvey : Survey.ofWorkbooks c d paths = (.ok (), survey)) :
    Workbook.listIn d' c.workbooksFolder = .ok paths
      ∧ Survey.ofWorkbooks c d' paths = (.ok (), survey) := by
  constructor
  · refine h.listIn (fun f name hf hname hnot => ?_) hpaths
    exact hnot (Config.isWorkbook_push hf hname)
  · refine h.scanWorkbooks (fun path hpath l hl hnot => hnot ?_) hsurvey
    exact Config.isWorkbook_of_mem_listIn hd hpaths hpath hl

end Survey

/-! ## Settled disks -/

/-- A disk that holds every file that the finished survey of its workbooks makes, and no other
generated source. -/
structure IsSettled (c : Config) (d : Disk) (paths : List String) (survey : Survey) : Prop where
  listed : Workbook.listIn d c.workbooksFolder = .ok paths
  surveyed : Survey.ofWorkbooks c d paths = (.ok (), survey)
  named : d.HasNamedFiles c.generatedFolder
  readText : ∀ file ∈ c.outputs survey.masters,
    d.readText (Path.join c.generatedFolder file.1) = .ok file.2
  marked : ∀ name, d.HasMarked c.generatedFolder name →
    name ∈ outputNames (survey.masters.map (·.schema.masterName))

variable {c : Config} {d d' middle : Disk} {paths : List String} {survey : Survey}

theorem Disk.InFolder.not_isElsewhere {l : Location} (h : Disk.InFolder c.generatedFolder l) :
    ¬ c.IsElsewhere l :=
  fun helsewhere => helsewhere.2 h.destination_eq

/-- The disk behind a run that succeeds is settled, and changes elsewhere keep it so. -/
theorem isSettled_of_compile (hc : c.IsValid) (hd : d.WellNamed)
    (hfolders : Disk.destination c.workbooksFolder ≠ Disk.destination c.generatedFolder)
    {report : CompileReport} (h : compile c .apply d = (.ok report, middle))
    (hkeeps : Disk.Keeps c.IsElsewhere middle d') :
    ∃ paths survey, report.masters = survey.masters.map (·.schema.masterName)
      ∧ IsSettled c d' paths survey := by
  obtain ⟨paths, survey, published, f, removed, hpaths, hsurvey, -, hmasters, -, hrun⟩ :=
    exists_isRun_of_compile hc (hd.hasNamedFiles _) h
  have hpublish := hrun.keeps
  have hremove := Published.keeps_removeFiles_isPlace hrun.removeFiles
  have hnames : ∀ n ∈ outputNames (survey.masters.map (·.schema.masterName)), Path.IsName n :=
    fun n => isName_of_mem_outputNames
  have hgone : ∀ n ∈ removed, Path.IsName n := fun n hn => ((hrun.mem_removed n).1 hn).1.1
  -- No file of the run is a workbook, as it is in another folder.
  have hother {names : List String} (hnames : ∀ n ∈ names, Path.IsName n) (l : Location)
      (hl : Disk.IsPlace c.generatedFolder names l) : ¬ c.IsWorkbook l := by
    rintro ⟨hworkbooks, -⟩
    exact hfolders (hworkbooks.trans (hl.inFolder hnames).destination_eq.symm)
  have hworkbooks : Disk.Keeps (fun l => ¬ c.IsWorkbook l) d d' :=
    ((hpublish.mono (hother hnames)).trans (hremove.mono (hother hgone))).trans
      (hkeeps.mono fun _ hl => hl.1)
  obtain ⟨hlisted, hsurveyed⟩ := Survey.of_keeps (hd.hasNamedFiles _) hworkbooks hpaths hsurvey
  refine ⟨paths, survey, hmasters, hlisted, hsurveyed, ?_, fun file hfile => ?_, fun name hname => ?_⟩
  · have hnamed := ((hd.hasNamedFiles _).of_keeps_isPlace hnames hpublish).of_keeps_isPlace hgone
      hremove
    refine hnamed.of_keeps hkeeps fun f name hf helsewhere => ?_
    exact absurd (by rw [hf, Array.pop_push]) helsewhere.2
  · have hmem : file.1 ∈ outputNames (survey.masters.map (·.schema.masterName)) := by
      rw [← Config.names_outputs c]
      exact List.mem_map_of_mem hfile
    have hkept : file.1 ∉ removed := fun hin => ((hrun.mem_removed _).1 hin).2 hmem
    have hread := hremove.readText (fun l hl => Disk.not_isPlace (hnames _ hmem) hgone hkept hl)
      (hrun.readText file hfile)
    exact hkeeps.readText (fun l hl => Disk.InFolder.not_isElsewhere ⟨_, hnames _ hmem, hl⟩) hread
  · rw [hkeeps.hasMarked_iff (hremove.find hrun.find) fun _ hl hin => hin.not_isElsewhere hl] at hname
    exact ((hrun.hasMarked_iff name).1 hname).2

namespace IsSettled

theorem sound (h : IsSettled c d paths survey) : survey.IsSound c d paths := by
  have hsound := Survey.isSound_ofWorkbooks c d paths
  rwa [h.surveyed] at hsound

theorem leftovers (h : IsSettled c d paths survey) (hc : c.IsValid) {p : Published}
    (hp : p.names = (outputNames (survey.masters.map (·.schema.masterName))).reverse) :
    p.leftovers c.generatedFolder d = .ok [] := by
  obtain ⟨f, hf⟩ := Config.exists_find hc.generatedFolder_ne_empty h.readText
  obtain ⟨left, hleft⟩ := Published.leftovers_eq_ok (p := p) hf
  obtain ⟨names, rfl, -, hmem⟩ :=
    Published.exists_of_leftovers h.named hc.generatedFolder_ne_empty hleft
  have hnone : names = [] := by
    refine List.eq_nil_iff_forall_not_mem.2 fun name hname => ?_
    obtain ⟨hmarked, hnot⟩ := (hmem name).1 hname
    refine hnot ?_
    rw [hp, List.mem_reverse]
    exact h.marked name hmarked
  rw [hleft, hnone]
  rfl

/-- A run on a settled disk finds nothing to do, in both modes. -/
theorem compile_eq (h : IsSettled c d paths survey) (hc : c.IsValid) (mode : WriteMode) :
    compile c mode d
      = (.ok ⟨survey.masters.map (·.schema.masterName), [], survey.masters.length + 2, []⟩, d) := by
  rw [compile_eq_publish h.listed h.surveyed, publish,
    Published.addAll_of_current mode .empty h.readText]
  simp only
  rw [Published.prune_of_no_leftovers mode (h.leftovers hc ?_)]
  · rw [Config.length_outputs, Published.empty, Nat.zero_add]
    cases mode <;> rfl
  · simp [Published.empty, Config.names_outputs]

theorem readText_manifest (h : IsSettled c d paths survey) :
    d.readText c.manifestPath
      = .ok (Manifest.ofSchemas (survey.masters.map (·.schema))).render := by
  have hread := h.readText _ (c.manifest_mem_outputs survey.masters)
  exact hread

theorem readText_aggregate (h : IsSettled c d paths survey) :
    d.readText c.aggregatePath
      = .ok (aggregateSource c (survey.masters.map (·.schema.masterName))) := by
  have hread := h.readText _ (c.aggregate_mem_outputs survey.masters)
  exact hread

/-- Where its manifest is still read, the aggregate of a settled disk is made again. -/
theorem aggregate_eq (h : IsSettled c d paths survey)
    (htext : d'.readText c.manifestPath = d.readText c.manifestPath) {p : Published}
    (hadd : Published.empty.add .apply c.generatedFolder aggregateFileName
      (aggregateSource c (survey.masters.map (·.schema.masterName))) d' = (.ok p, middle)) :
    aggregate c d' = (.ok (!p.changed.isEmpty), middle) := by
  have hload := (h.sound.isCompiled h.listed).load_manifest (htext.trans h.readText_manifest)
  have hnames : (Manifest.ofSchemas (survey.masters.map (·.schema))).masterNames
      = survey.masters.map (·.schema.masterName) := by
    simp only [Manifest.masterNames, Manifest.ofSchemas, List.map_map, Function.comp_def]
  unfold aggregate
  simp only [hload, hnames, hadd]

/-- The aggregate on a settled disk is the one that its manifest makes. -/
theorem aggregate_unchanged (h : IsSettled c d paths survey) : aggregate c d = (.ok false, d) := by
  rw [h.aggregate_eq rfl (Published.add_of_current .apply .empty h.readText_aggregate)]
  rfl

/-- An aggregate that was altered or removed is made again as it was. -/
theorem aggregate_restores (h : IsSettled c d paths survey) (hc : c.IsValid)
    (hkeeps : Disk.Keeps (fun l => Disk.destination c.aggregatePath = some l) d d')
    (hfile : ∀ l, Disk.destination c.aggregatePath = some l → d'.entry? l ≠ some .folder)
    (haltered : d'.readText c.aggregatePath ≠ d.readText c.aggregatePath) :
    ∃ d'', aggregate c d' = (.ok true, d'')
      ∧ d''.readText c.aggregatePath = d.readText c.aggregatePath
      ∧ Disk.Keeps (fun _ => False) d d'' := by
  have hread := h.readText_aggregate
  obtain ⟨l, hl, hentry⟩ := Disk.readText_eq_ok_iff.1 hread
  have hdestination := Disk.destination_of_locate hl
  have hplace := hfile l hdestination
  have hmanifest : d'.readText c.manifestPath = d.readText c.manifestPath := by
    refine (hkeeps.readText (fun l hl haggregate => ?_) h.readText_manifest).trans
      h.readText_manifest.symm
    have hname := Disk.name_eq_of_destination_join isName_manifest isName_aggregateFileName hl
      haggregate
    exact absurd hname (by decide)
  rw [hread] at haltered
  have hadd := Published.add_of_locate .empty isName_aggregateFileName hc.generatedFolder_ne_empty
    (hkeeps.locate hl) hplace haltered
  have hone : Disk.Keeps (· = l) d d' :=
    hkeeps.mono fun l' hl' => Option.some.inj (hl'.symm.trans hdestination)
  have hback := hone.put_back hentry hplace
  refine ⟨_, ?_, (hback.readText (fun _ _ hin => hin) hread).trans hread.symm, hback⟩
  rw [h.aggregate_eq hmanifest hadd]
  rfl

end IsSettled

/-! ## Runs -/

/-- Compiling is a fixpoint. Behind a run that succeeds, as long as the workbooks and the folder of
generated source are left alone, every further run finds the same masters, writes and removes nothing
and agrees with a check; and the aggregate is the one that the manifest makes, also where it was altered
or removed before. -/
theorem compile_again {c : Config} (hc : c.IsValid) {d d₁ d₂ : Disk} (hd : d.WellNamed)
    (hfolders : Disk.destination c.workbooksFolder ≠ Disk.destination c.generatedFolder)
    {report : CompileReport} (h : compile c .apply d = (.ok report, d₁))
    (hkeeps : Disk.Keeps c.IsElsewhere d₁ d₂) :
    (∀ mode, compile c mode d₂ = (.ok ⟨report.masters, [], report.masters.length + 2, []⟩, d₂))
      ∧ aggregate c d₂ = (.ok false, d₂)
      ∧ ∀ d₃, Disk.Keeps (fun l => Disk.destination c.aggregatePath = some l) d₂ d₃ →
          (∀ l, Disk.destination c.aggregatePath = some l → d₃.entry? l ≠ some .folder) →
          d₃.readText c.aggregatePath ≠ d₂.readText c.aggregatePath →
          ∃ d₄, aggregate c d₃ = (.ok true, d₄)
            ∧ d₄.readText c.aggregatePath = d₂.readText c.aggregatePath
            ∧ Disk.Keeps (fun _ => False) d₂ d₄ := by
  obtain ⟨paths, survey, hmasters, hsettled⟩ := isSettled_of_compile hc hd hfolders h hkeeps
  refine ⟨fun mode => ?_, hsettled.aggregate_unchanged, fun d₃ hkept hfile haltered => ?_⟩
  · rw [hsettled.compile_eq hc mode, hmasters, List.length_map]
  · exact hsettled.aggregate_restores hc hkept hfile haltered

theorem compile_again_stale :
    ∃ d₁ d₂, compile .small .apply staleDisk
        = (.ok ⟨["Item"], ["src/item.rs", "src/masters.json", "src/mod.rs"], 0, ["src/old.rs"]⟩, d₁)
      ∧ (∀ mode, compile .small mode d₁ = (.ok ⟨["Item"], [], 3, []⟩, d₁))
      ∧ aggregate .small d₁ = (.ok false, d₁)
      ∧ aggregate .small (d₁.keep (· ≠ #["src", "mod.rs"])) = (.ok true, d₂)
      ∧ d₂.readText "src/mod.rs" = d₁.readText "src/mod.rs" := by
  have hc : Config.small.IsValid := by decide +kernel
  have hd : staleDisk.WellNamed := fun e he name hname => (isTree_staleDisk.named e he name hname).1
  have hfolders : Disk.destination Config.small.workbooksFolder
      ≠ Disk.destination Config.small.generatedFolder := by decide +kernel
  have hcompile : compile .small .apply staleDisk
      = (.ok ⟨["Item"], ["src/item.rs", "src/masters.json", "src/mod.rs"], 0, ["src/old.rs"]⟩,
          (compile .small .apply staleDisk).2) :=
    eq_mk_of_fst_eq (by decide +kernel)
  obtain ⟨hagain, haggregate, hrestores⟩ := compile_again hc hd hfolders hcompile (.refl _)
  have hpath : Config.small.aggregatePath = "src/mod.rs" := by decide +kernel
  have hplace : Disk.destination "src/mod.rs" = some #["src", "mod.rs"] := by decide +kernel
  have hfile : Disk.entry? (compile .small .apply staleDisk).2 #["src", "mod.rs"]
      ≠ some .folder := by decide +kernel
  have haltered : ((compile .small .apply staleDisk).2.keep (· ≠ #["src", "mod.rs"])).readText
      "src/mod.rs" ≠ (compile .small .apply staleDisk).2.readText "src/mod.rs" := by decide +kernel
  rw [hpath, hplace] at hrestores
  generalize (compile .small .apply staleDisk).2 = d₁ at *
  obtain ⟨d₂, hrestored, hread, -⟩ := hrestores _ (Disk.keeps_keep_file hfile rfl)
    (fun l hl => by simp [Disk.entry?_keep, ← Option.some.inj hl, Disk.isBase]) haltered
  exact ⟨d₁, d₂, hcompile, hagain, haggregate, hrestored, hread⟩

end MasterData
