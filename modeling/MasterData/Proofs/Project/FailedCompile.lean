-- SUMMARY: A compilation that fails publishes the masters accepted before it failed and nothing else.
import MasterData.Proofs.Project.Confinement
import MasterData.Proofs.Project.Pruning

/-! # Compilations that fail

Where no write fails, a compilation fails over the folder of the workbooks, over a workbook, or over a
sheet. What it has published by then are the modules of the masters that it accepted before; the manifest,
the aggregate and what is left over from earlier runs stay as they are. A master whose names are taken is
refused before its module is written, so the module of the master that took them stays. Main statement:
`failed_compile_publishes_accepted`.
-/

namespace MasterData

/-! ## Pruning goes through -/

theorem Disk.exists_removeFile {d : Disk} {path text : String} (h : d.readText path = .ok text) :
    ∃ d', d.removeFile path = .ok d' := by
  obtain ⟨l, hl, hentry⟩ := readText_eq_ok_iff.1 h
  exact ⟨_, by rw [removeFile, find_eq_ok_iff.2 ⟨hl, hentry⟩]⟩

namespace Published

variable {folder : String} {d : Disk} {names : List String}

/-- Files that can be read and have names of their own can all be removed. -/
theorem exists_removeFiles (hnodup : names.Nodup) (hnames : ∀ n ∈ names, Path.IsName n)
    (hread : ∀ n ∈ names, ∃ text, d.readText (Path.join folder n) = .ok text) :
    ∃ d', removeFiles (names.map (Path.join folder)) d = (.ok (), d') := by
  induction names generalizing d with
  | nil => exact ⟨d, rfl⟩
  | cons name rest ih =>
    rw [List.nodup_cons] at hnodup
    rw [List.forall_mem_cons] at hnames hread
    obtain ⟨text, htext⟩ := hread.1
    obtain ⟨d₁, hremoved⟩ := Disk.exists_removeFile htext
    have hkeeps : Disk.Keeps (Disk.IsPlace folder [name]) d d₁ :=
      Disk.keeps_removeFile hremoved fun l hl => ⟨name, List.mem_singleton_self _, hl⟩
    have hrest : ∀ n ∈ rest, ∃ text, d₁.readText (Path.join folder n) = .ok text := by
      intro n hn
      obtain ⟨text, htext⟩ := hread.2 n hn
      have hne : n ∉ [name] := by
        rw [List.mem_singleton]
        rintro rfl
        exact hnodup.1 hn
      refine ⟨text, hkeeps.readText (fun l hl => ?_) htext⟩
      exact Disk.not_isPlace (hnames.2 n hn) (List.forall_mem_singleton.2 hnames.1) hne hl
    obtain ⟨d', hd'⟩ := ih hnodup.2 hnames.2 hrest
    exact ⟨d', by rw [List.map_cons, removeFiles_cons, hremoved]; exact hd'⟩

/-- In a folder that is found pruning does not fail. -/
theorem exists_prune (hd : d.HasNamedFiles folder) (hfolder : folder ≠ "") {f : Location}
    (hf : d.find folder = .ok (f, .folder)) (p : Published) :
    ∃ pruned d', p.prune .apply folder d = (.ok pruned, d') := by
  obtain ⟨paths, hleft⟩ := leftovers_eq_ok (p := p) hf
  obtain ⟨names, rfl, hsorted, hmem⟩ := exists_of_leftovers hd hfolder hleft
  have hmarked : ∀ n ∈ names, d.HasMarked folder n := fun n hn => ((hmem n).1 hn).1
  have hread : ∀ n ∈ names, ∃ text, d.readText (Path.join folder n) = .ok text := by
    intro n hn
    obtain ⟨-, -, text, htext, -⟩ := hmarked n hn
    exact ⟨text, htext⟩
  obtain ⟨d', hremoved⟩ := exists_removeFiles (hsorted.imp fun h => String.ne_of_lt h)
    (fun n hn => (hmarked n hn).1) hread
  refine ⟨names.map (Path.join folder), d', ?_⟩
  unfold prune
  simp only [hleft, hremoved]

end Published

/-! ## Masters and files of a run -/

section Runs

variable {c : Config} {d d' : Disk} {e : ProjectError}

/-- The paths of the workbooks of a project, if their folder can be listed. -/
def Config.workbookPaths (c : Config) (d : Disk) : List String :=
  match Workbook.listIn d c.workbooksFolder with
  | .error _ => []
  | .ok paths => paths

/-- The masters that the survey of the workbooks accepts, up to the failure that ends it if there is
one. -/
def acceptedMasters (c : Config) (d : Disk) : List CompiledMaster :=
  match Workbook.listIn d c.workbooksFolder with
  | .error _ => []
  | .ok paths => (Survey.ofWorkbooks c d paths).2.masters

/-- The files that a run has to write. -/
def Config.filesOfRun (c : Config) (d : Disk) : List (String × String) :=
  match Workbook.listIn d c.workbooksFolder with
  | .error _ => []
  | .ok paths =>
    match Survey.ofWorkbooks c d paths with
    | (.ok (), survey) => c.outputs survey.masters
    | (.error _, survey) => survey.masters.map fun m => (m.fileName, m.source)

/-- No write of a run fails. -/
def Config.CanWrite (c : Config) (d : Disk) : Prop :=
  ∃ p d₁, Published.addAll .apply c.generatedFolder (c.filesOfRun d) .empty d = (.ok p, d₁)

/-- A compilation that fails over anything but the system has made its writes. -/
theorem Config.canWrite_of_ne_system (h : compile c .apply d = (.error e, d'))
    (he : ∀ path, e ≠ .system path) : c.CanWrite d := by
  rcases hadded : Published.addAll .apply c.generatedFolder (c.filesOfRun d) .empty d with
    ⟨e' | p, d₁⟩
  · obtain ⟨path, rfl⟩ := Published.system_of_addAll hadded
    exfalso
    unfold filesOfRun at hadded
    cases hpaths : Workbook.listIn d c.workbooksFolder with
    | error failure =>
      rw [hpaths] at hadded
      cases hadded
    | ok paths =>
      rcases hsurvey : Survey.ofWorkbooks c d paths with ⟨failure | _, survey⟩
      · simp only [hpaths, hsurvey] at hadded
        rw [compile_of_survey_error hpaths hsurvey, hadded] at h
        cases h
        exact he path rfl
      · simp only [hpaths, hsurvey] at hadded
        rw [compile_eq_publish hpaths hsurvey, publish, hadded] at h
        cases h
        exact he path rfl
  · exact ⟨p, d₁, hadded⟩

/-- Why a compilation fails whose writes do not. -/
inductive Config.Refuses (c : Config) (d : Disk) (accepted : List CompiledMaster) :
    ProjectError → Prop where
  | folder {failure : WorkbookError} (h : Workbook.listIn d c.workbooksFolder = .error failure) :
    Refuses c d accepted (.discovery c.workbooksFolder failure)
  | workbook {path : String} {failure : WorkbookError} (hpath : path ∈ c.workbookPaths d)
    (h : Workbook.FailsAt d path failure) : Refuses c d accepted (.workbook failure)
  | header {hit : ScanHit} {failure : HeaderError} (hin : hit.IsIn d (c.workbookPaths d))
    (h : hit.schema? c.typeTable = .error (.header hit.workbook failure)) :
    Refuses c d accepted (.header hit.workbook failure)
  | name {hit : ScanHit} {m : CompiledMaster} {fault : NameFault}
    (hin : hit.IsIn d (c.workbookPaths d)) (h : hit.master? c = some m)
    (hfault : (Registry.ofConfig c).nameFault? m.schema.masterName = some fault) :
    Refuses c d accepted
      (.invalidMasterName m.schema.masterName (Registry.originOf m.schema) fault)
  /-- An accepted master has taken the module or the type of the next one. -/
  | duplicate {hit : ScanHit} {m first : CompiledMaster} (hin : hit.IsIn d (c.workbookPaths d))
    (h : hit.master? c = some m) (hfirst : first ∈ accepted)
    (htaken : Naming.moduleName first.schema.masterName = Naming.moduleName m.schema.masterName
      ∨ Naming.typeName first.schema.masterName = Naming.typeName m.schema.masterName) :
    Refuses c d accepted (.duplicateMaster m.schema.masterName (Registry.originOf first.schema)
      (Registry.originOf m.schema))

/-- A master whose names are refused has a faulty name, or an accepted one has taken its names. -/
theorem Config.refuses_of_claim {accepted : List CompiledMaster} {hit : ScanHit}
    {m : CompiledMaster} {registry : Registry} (hrecorded : Survey.IsRecorded c ⟨registry, accepted⟩)
    (hin : hit.IsIn d (c.workbookPaths d)) (hm : hit.master? c = some m)
    (h : registry.claim m.schema = .error e) : c.Refuses d accepted e := by
  rcases Registry.claim_eq_error h with ⟨fault, hfault, rfl⟩ | ⟨origin, hmodule | htype, rfl⟩
  · rw [Registry.nameFault?_congr hrecorded.enums] at hfault
    exact .name hin hm hfault
  · obtain ⟨first, hfirst, hname, rfl⟩ := hrecorded.modules _ _ hmodule
    exact .duplicate hin hm hfirst (.inl hname)
  · obtain ⟨first, hfirst, hname, rfl⟩ := hrecorded.types _ _ htype
    exact .duplicate hin hm hfirst (.inr hname)

theorem Config.workbookPaths_eq {paths : List String}
    (hpaths : Workbook.listIn d c.workbooksFolder = .ok paths) : c.workbookPaths d = paths := by
  unfold workbookPaths
  rw [hpaths]

theorem acceptedMasters_eq {paths : List String}
    (hpaths : Workbook.listIn d c.workbooksFolder = .ok paths) :
    acceptedMasters c d = (Survey.ofWorkbooks c d paths).2.masters := by
  unfold acceptedMasters
  rw [hpaths]

/-- The accepted masters are those that sheets of the workbooks declare, from the first one on. -/
theorem exists_hits_of_acceptedMasters (c : Config) (d : Disk) :
    ∃ hits : List ScanHit, (∀ hit ∈ hits, hit.IsIn d (c.workbookPaths d))
      ∧ acceptedMasters c d = hits.filterMap (·.master? c) := by
  cases hpaths : Workbook.listIn d c.workbooksFolder with
  | error failure =>
    refine ⟨[], by simp, ?_⟩
    unfold acceptedMasters
    rw [hpaths]
    rfl
  | ok paths =>
    obtain ⟨hits, before, hhits, hvisits, hend⟩ :=
      exists_visitEach_of_scanWorkbooks (Survey.visit c) d paths ⟨.ofConfig c, []⟩
    rw [← Survey.ofWorkbooks] at hend
    rw [Config.workbookPaths_eq hpaths, acceptedMasters_eq hpaths]
    refine ⟨hits, hhits, ?_⟩
    have hmasters := Survey.masters_of_visitEach hvisits
    rw [List.nil_append] at hmasters
    rw [← hmasters]
    generalize Survey.ofWorkbooks c d paths = result at hend ⊢
    rcases result with ⟨e | _, survey⟩
    · rcases hend with ⟨hsurvey, -⟩ | ⟨hit, -, hvisit⟩
      · exact congrArg Survey.masters hsurvey
      · exact congrArg Survey.masters (Survey.visit_eq_error hvisit).1
    · exact congrArg Survey.masters hend

/-- A survey fails over a workbook or over the sheet behind those that it has taken in. -/
theorem Survey.refuses_of_ofWorkbooks {paths : List String} {survey : Survey}
    (hpaths : Workbook.listIn d c.workbooksFolder = .ok paths)
    (h : Survey.ofWorkbooks c d paths = (.error e, survey)) : c.Refuses d survey.masters e := by
  have hrecorded := Survey.isRecorded_ofWorkbooks c d paths
  obtain ⟨hits, before, -, -, hend⟩ :=
    exists_visitEach_of_scanWorkbooks (Survey.visit c) d paths ⟨.ofConfig c, []⟩
  rw [← Survey.ofWorkbooks, h] at hend
  rw [h] at hrecorded
  rw [← Config.workbookPaths_eq hpaths] at hend
  rcases hend with ⟨-, path, hpath, failure, hfails, rfl⟩ | ⟨hit, hin, hvisit⟩
  · exact .workbook hpath hfails
  · obtain ⟨rfl, hschema | ⟨m, hm, hclaim⟩⟩ := Survey.visit_eq_error hvisit
    · obtain ⟨failure, rfl⟩ := ScanHit.eq_header_of_schema? hschema
      exact .header hin hschema
    · exact Config.refuses_of_claim hrecorded hin hm hclaim

/-- A run on a finished survey whose writes do not fail succeeds. -/
theorem exists_publish (hc : c.IsValid) (hd : d.HasNamedFiles c.generatedFolder)
    {paths : List String} {survey : Survey} (hsound : survey.IsSound c d paths) {p : Published}
    {d₁ : Disk}
    (hadded : Published.addAll .apply c.generatedFolder (c.outputs survey.masters) .empty d
      = (.ok p, d₁)) :
    ∃ report d', publish c .apply survey.masters d = (.ok report, d') := by
  have hread := Published.readText_of_addAll (Config.areOutputs hsound) hadded
  obtain ⟨f, hf⟩ := Config.exists_find hc.generatedFolder_ne_empty hread
  have hkeeps := (Published.keeps_addAll_isPlace .apply c.generatedFolder (c.outputs survey.masters)
    .empty d).of_eq hadded
  rw [Config.names_outputs] at hkeeps
  have hmiddle := hd.of_keeps_isPlace (fun _ => isName_of_mem_outputNames) hkeeps
  obtain ⟨pruned, d', hpruned⟩ :=
    Published.exists_prune hmiddle hc.generatedFolder_ne_empty hf p
  refine ⟨⟨survey.masters.map (·.schema.masterName), p.changed, p.unchanged, pruned⟩, d', ?_⟩
  unfold publish
  simp only [hadded, hpruned]
  rfl

/-- The modules of the accepted masters have files of their own. -/
theorem areOutputs_acceptedMasters (c : Config) (d : Disk) :
    AreOutputs ((acceptedMasters c d).map fun m => (m.fileName, m.source)) := by
  cases hpaths : Workbook.listIn d c.workbooksFolder with
  | error failure =>
    unfold acceptedMasters
    rw [hpaths]
    exact ⟨by simp, by simp⟩
  | ok paths =>
    rw [acceptedMasters_eq hpaths]
    exact (Config.areOutputs (Survey.isSound_ofWorkbooks c d paths)).left

/-- A run that fails and whose writes do not has written the modules of the accepted masters. -/
theorem exists_addAll_of_failed_compile (hc : c.IsValid) (hd : d.HasNamedFiles c.generatedFolder)
    (hwrites : c.CanWrite d) (h : compile c .apply d = (.error e, d')) :
    c.Refuses d (acceptedMasters c d) e
      ∧ ∃ p, Published.addAll .apply c.generatedFolder
        ((acceptedMasters c d).map fun m => (m.fileName, m.source)) .empty d = (.ok p, d') := by
  obtain ⟨p, d₁, hadded⟩ := hwrites
  unfold Config.filesOfRun at hadded
  cases hpaths : Workbook.listIn d c.workbooksFolder with
  | error failure =>
    rw [compile_of_listIn_error hpaths] at h
    cases h
    unfold acceptedMasters
    rw [hpaths]
    exact ⟨.folder hpaths, .empty, rfl⟩
  | ok paths =>
    have hsound := Survey.isSound_ofWorkbooks c d paths
    rw [acceptedMasters_eq hpaths]
    rcases hsurvey : Survey.ofWorkbooks c d paths with ⟨e' | _, survey⟩
    · simp only [hpaths, hsurvey] at hadded
      rw [compile_of_survey_error hpaths hsurvey, hadded] at h
      cases h
      exact ⟨Survey.refuses_of_ofWorkbooks hpaths hsurvey, p, hadded⟩
    · simp only [hpaths, hsurvey] at hadded
      rw [hsurvey] at hsound
      obtain ⟨report, d₂, hpublish⟩ := exists_publish hc hd hsound hadded
      rw [compile_eq_publish hpaths hsurvey, hpublish] at h
      cases h

end Runs

/-! ## What a failed compilation leaves -/

/-- A compilation that fails, though none of its writes does, leaves the manifest, the aggregate and the
files that are left over as they are: behind it the modules of the masters that it accepted hold their
new source, and no other file is created, rewritten or removed. It accepts the masters that the sheets
declare one after the other, up to a workbook that fails, a header that is refused, a name with a fault
or a master whose names an accepted one has taken. -/
theorem failed_compile_publishes_accepted {c : Config} (hc : c.IsValid) {d d' : Disk}
    (hd : d.WellNamed) (hwrites : c.CanWrite d) {e : ProjectError}
    (h : compile c .apply d = (.error e, d')) :
    (∃ hits : List ScanHit, (∀ hit ∈ hits, hit.IsIn d (c.workbookPaths d))
        ∧ acceptedMasters c d = hits.filterMap (·.master? c))
      ∧ c.Refuses d (acceptedMasters c d) e
      ∧ (∀ m ∈ acceptedMasters c d,
        d'.readText (Path.join c.generatedFolder m.fileName) = .ok m.source)
      ∧ (∀ l, Disk.Changes d d' l →
        Disk.IsPlace c.generatedFolder ((acceptedMasters c d).map (·.fileName)) l)
      ∧ (∀ name ∈ [Manifest.fileName, aggregateFileName], ∀ l,
        Disk.destination (Path.join c.generatedFolder name) = some l → ¬ Disk.Changes d d' l)
      ∧ ∀ name, d.HoldsMarked c.generatedFolder name →
        name ∉ (acceptedMasters c d).map (·.fileName) → ∀ l,
        Disk.destination (Path.join c.generatedFolder name) = some l → ¬ Disk.Changes d d' l := by
  have houtputs := areOutputs_acceptedMasters c d
  obtain ⟨hrefuses, p, hadded⟩ :=
    exists_addAll_of_failed_compile hc (hd.hasNamedFiles _) hwrites h
  have hread := Published.readText_of_addAll houtputs hadded
  have hkeeps := (Published.keeps_addAll_isPlace .apply c.generatedFolder
    ((acceptedMasters c d).map fun m => (m.fileName, m.source)) .empty d).of_eq hadded
  rw [List.forall_mem_map] at hread
  rw [List.map_map] at hkeeps
  have hmodule : ∀ name ∈ (acceptedMasters c d).map (·.fileName), ∃ master,
      name = moduleFile master := by
    intro name hname
    obtain ⟨m, -, rfl⟩ := List.mem_map.1 hname
    exact ⟨m.schema.masterName, rfl⟩
  have hnames : ∀ name ∈ (acceptedMasters c d).map (·.fileName), Path.IsName name := by
    intro name hname
    obtain ⟨master, rfl⟩ := hmodule name hname
    exact isName_moduleFile master
  -- A file under a name of its own in the folder is not touched.
  have hkept : ∀ name, Path.IsName name → name ∉ (acceptedMasters c d).map (·.fileName) → ∀ l,
      Disk.destination (Path.join c.generatedFolder name) = some l → ¬ Disk.Changes d d' l :=
    fun name hname hnot l hl hchanges =>
      Disk.not_isPlace hname hnames hnot hl (hkeeps.of_changes hchanges)
  refine ⟨exists_hits_of_acceptedMasters c d, hrefuses, hread, fun l hl => hkeeps.of_changes hl,
    ?_, fun name hmarked => hkept name hmarked.1⟩
  simp only [List.forall_mem_cons, List.not_mem_nil, false_implies, implies_true, and_true]
  refine ⟨hkept _ isName_manifest fun hmem => ?_, hkept _ isName_aggregateFileName fun hmem => ?_⟩
  · obtain ⟨master, hmaster⟩ := hmodule _ hmem
    exact not_extensionOf?_manifest (hmaster ▸ extensionOf?_moduleFile master)
  · obtain ⟨master, hmaster⟩ := hmodule _ hmem
    exact moduleFile_ne_aggregateFileName master hmaster.symm

/-- A project with two sheets that declare a master of the same name, and with files of earlier runs. -/
def twiceDisk : Disk where
  entries := [(#["data"], .folder),
    (#["data", "book.xlsx"], .file (.spreadsheet ⟨[
      ⟨"Sheet", some (.around [(⟨0, 0⟩, .text "Item"), (⟨1, 0⟩, .text "@"), (⟨2, 0⟩, .text "int"),
        (⟨3, 0⟩, .text "id")])⟩,
      ⟨"Again", some (.around [(⟨0, 0⟩, .text "Item"), (⟨1, 0⟩, .text "@"), (⟨2, 0⟩, .text "long"),
        (⟨3, 0⟩, .text "code")])⟩]⟩)),
    (#["src"], .folder),
    (#["src", "masters.json"], .file (.text "")),
    (#["src", "old.rs"], .file (.text "// @generated by sheetmaster. Do not edit.\n"))]
  nodup := by simp

/-- The module that is published is that of the first sheet, and the file that is left over stays. -/
theorem failed_compile_publishes_accepted_twice :
    Config.small.IsValid ∧ twiceDisk.WellNamed ∧ Config.small.CanWrite twiceDisk
      ∧ ∃ d', compile .small .apply twiceDisk
          = (.error (.duplicateMaster "Item" "book.xlsx/Sheet" "book.xlsx/Again"), d')
        ∧ (∃ m, acceptedMasters .small twiceDisk = [m] ∧ m.schema.source.sheet = "Sheet"
          ∧ d'.readText "src/item.rs" = .ok m.source)
        ∧ ¬ Disk.Changes twiceDisk d' #["src", "masters.json"]
        ∧ ¬ Disk.Changes twiceDisk d' #["src", "old.rs"] := by
  have hc : Config.small.IsValid := by decide +kernel
  have hd : twiceDisk.WellNamed := by
    simp only [Disk.WellNamed, twiceDisk, List.forall_mem_cons]
    decide
  have hcompile : compile .small .apply twiceDisk
      = (.error (.duplicateMaster "Item" "book.xlsx/Sheet" "book.xlsx/Again"),
          (compile .small .apply twiceDisk).2) := eq_mk_of_fst_eq (by decide +kernel)
  have hwrites := Config.canWrite_of_ne_system hcompile fun _ => ProjectError.noConfusion
  have haccepted : (acceptedMasters .small twiceDisk).map
      (fun m => (m.fileName, m.schema.source.sheet)) = [("item.rs", "Sheet")] := by decide +kernel
  obtain ⟨m, hm, hmodule⟩ := List.map_eq_singleton_iff.1 haccepted
  obtain ⟨hfile, hsheet⟩ := Prod.mk.inj hmodule
  have hfolder : Config.small.generatedFolder = "src" := by decide +kernel
  obtain ⟨-, -, hread, -, hfixed, hleft⟩ := failed_compile_publishes_accepted hc hd hwrites hcompile
  rw [hfolder] at hread hfixed hleft
  rw [hm, List.forall_mem_singleton, hfile] at hread
  refine ⟨hc, hd, hwrites, _, hcompile, ⟨m, hm, hsheet, hread⟩, ?_, ?_⟩
  · exact hfixed Manifest.fileName (List.mem_cons_self ..) _ (by decide +kernel)
  · refine hleft "old.rs" ⟨?_, by decide +kernel, _, ⟨by decide +kernel, #["src", "old.rs"], ?_, rfl⟩, ?_⟩
      ?_ _ (by decide +kernel)
    · exact ⟨by decide, by decide, by decide⟩
    · decide +kernel
    · decide +kernel
    · simp [hm, hfile]

end MasterData
