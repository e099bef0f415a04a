-- SUMMARY: Which runs replace a workbook, and what they put in its place.
import MasterData.Proofs.Project.Acceptance
import MasterData.Proofs.Project.CarryForward
import MasterData.Proofs.Project.CheckMode
import MasterData.Proofs.Project.Confinement

/-! # Workbooks of a project

The workbooks of a project are what its runs read. A run leaves the file of a listed workbook as it is
unless the run has a file of its own at the same place: compiling its manifest, when the survey of the
workbooks is finished, and materializing the asset of a master. Both need a folder that is used twice,
and a run that succeeds has then replaced the workbook. Main statement:
`workbooks_stay_unless_replaced`.
-/

namespace MasterData

/-! ## Listed workbooks -/

theorem Workbook.not_suffix_of_isWorkbookName {name : String} (hname : Path.IsName name)
    (h : isWorkbookName name) : ¬ sourceEnding <:+ name.toList := by
  rw [isWorkbookName, Bool.and_eq_true] at h
  obtain ⟨format, hformat⟩ := Option.isSome_iff_exists.1 h.2
  have hfile : Path.fileName? name = some name := by
    have hjoin := @Path.fileName?_join "" name hname
    rwa [Path.join_empty] at hjoin
  exact WorkbookFormat.not_suffix_of_ofPath? hfile hformat

/-- A listed workbook has a file directly inside the folder, and no ending of source. -/
theorem Workbook.exists_file_of_mem_listIn {d : Disk} {folder : String} (hd : d.HasNamedFiles folder)
    {paths : List String} (h : listIn d folder = .ok paths) {path : String} (hpath : path ∈ paths) :
    ∃ l content, Disk.destination path = some l ∧ d.entry? l = some (.file content)
      ∧ ¬ Disk.EndsWith sourceEnding l := by
  obtain ⟨f, entries, hf, -, hfiles, rfl⟩ := exists_of_listIn h
  obtain ⟨name, hname, rfl⟩ := List.mem_map.1 hpath
  obtain ⟨hworkbook, content, hmem⟩ := Disk.mem_selectFiles.1 hname
  have hentry := (hfiles name content).1 hmem
  have hslash := hd f name content (Disk.destination_of_find hf) hentry
  have hstep := isName_of_isWorkbookName hslash hworkbook
  have hplace := Disk.destination_join_of_find hstep hf
  exact ⟨f.push name, content, hplace, hentry,
    Disk.not_endsWith_of_name hstep (not_suffix_of_isWorkbookName hstep hworkbook) hplace⟩

/-! ## Replacements -/

/-- Compiling has its manifest at a location, and gets as far as to publish it. -/
def Config.ManifestReplaces (c : Config) (d : Disk) (paths : List String) (l : Location) : Prop :=
  (Survey.ofWorkbooks c d paths).1 = .ok () ∧ Disk.destination c.manifestPath = some l

/-- Materializing has the asset of a master at a location, whose file, if the path of the asset leads to
it, is read as an asset. -/
def Config.AssetReplaces (c : Config) (d : Disk) (l : Location) (content : Content) : Prop :=
  ∃ m, Manifest.load d c.generatedFolder = .ok m
    ∧ ∃ s ∈ m.masters, c.store.IsFileOf s.masterName l
      ∧ (d.locate (c.store.assetPath s.masterName) = .ok l →
        ∃ text a, content = .text text ∧ Asset.parse? text = some a)

section Compile

variable {c : Config} {d : Disk} {paths : List String} {l : Location} {content : Content}

theorem entry?_compile (hpaths : Workbook.listIn d c.workbooksFolder = .ok paths)
    (hentry : d.entry? l = some (.file content)) (hsource : ¬ Disk.EndsWith sourceEnding l)
    (mode : WriteMode) :
    Disk.entry? (compile c mode d).2 l = some (.file content)
      ∨ mode = .apply ∧ c.ManifestReplaces d paths l := by
  cases mode with
  | check =>
    rw [compile_check_snd]
    exact .inl hentry
  | apply =>
    cases hsurvey : Survey.ofWorkbooks c d paths with
    | mk outcome survey =>
      cases outcome with
      | error e =>
        -- Only modules are published, and a workbook has another ending.
        have hkeeps : Disk.Keeps (Disk.EndsWith sourceEnding) d (compile c .apply d).2 :=
          keeps_compile_of_survey_error hpaths hsurvey fun m _ l hl =>
            endsWith_of_suffix (suffix_sourceFileName _) hl
        exact .inl ((hkeeps.file hsource).2 hentry)
      | ok u =>
        by_cases hmanifest : Disk.destination c.manifestPath = some l
        · exact .inr ⟨rfl, by rw [hsurvey], hmanifest⟩
        · have hkeeps := keeps_compile_isGenerated c .apply d
          exact .inl ((hkeeps.file fun h => h.elim hsource hmanifest).2 hentry)

theorem entry?_aggregate (c : Config) (hentry : d.entry? l = some (.file content))
    (hsource : ¬ Disk.EndsWith sourceEnding l) :
    Disk.entry? (aggregate c d).2 l = some (.file content) := by
  refine ((keeps_aggregate c d).file fun hplace => ?_).2 hentry
  obtain ⟨name, hname, hl⟩ := hplace
  obtain rfl := List.mem_singleton.1 hname
  exact hsource (endsWith_of_suffix (suffix_sourceFileName _) hl)

/-- A compilation that succeeds has its manifest where it says. -/
theorem entry?_manifest_of_compile {d' : Disk} {report : CompileReport}
    (h : compile c .apply d = (.ok report, d')) (hl : Disk.destination c.manifestPath = some l) :
    d'.entry? l = some (.file (.text (Manifest.ofSchemas (declaredSchemas c d)).render)) := by
  obtain ⟨-, -, htext, -⟩ := compile_eq_ok h
  obtain ⟨l', hlocate, hentry⟩ := Disk.readText_eq_ok_iff.1 htext
  obtain rfl := Option.some.inj (hl.symm.trans (Disk.destination_of_locate hlocate))
  exact hentry

end Compile

/-! ## Assets -/

namespace FolderStore

variable {store : FolderStore} {d : Disk} {master : String} {l : Location} {content : Content}

/-- What is not read as an asset cannot be loaded. -/
theorem load_ne_ok (hfile : store.IsFileOf master l)
    (hlocate : d.locate (store.assetPath master) = .ok l) (hentry : d.entry? l = some (.file content))
    (hnot : ¬ ∃ text a, content = .text text ∧ Asset.parse? text = some a) (prior : Option Asset) :
    store.load d master ≠ .ok prior := by
  have hread := Disk.read_eq hlocate hentry
  rw [load_eq hfile.1]
  cases content with
  | text text =>
    rw [Disk.readText_of_read hread]
    cases hparse : Asset.parse? text with
    | none => simp [hparse]
    | some a => exact absurd ⟨text, a, rfl, hparse⟩ hnot
  | damaged | spreadsheet => simp [Disk.readText, hread, Content.text?]

/-- The file of a master holds an asset of that master. -/
def HoldsAsset (store : FolderStore) (d : Disk) (master : String) : Prop :=
  isValidAssetName master
    ∧ ∃ a : Asset, a.master = master ∧ d.readText (store.assetPath master) = .ok a.render

end FolderStore

section Materialize

variable {c : Config} {store : FolderStore} {w : Workbook} {path : String} {d d' : Disk}
  {l : Location} {content : Content}

theorem MasterSchema.materializeFrom_of_load {s : MasterSchema}
    (h : ∀ prior, store.load d s.masterName ≠ .ok prior) :
    (s.materializeFrom store w path d).2 = d := by
  unfold materializeFrom
  cases hasset : s.assetFrom store w path d with
  | error e => rfl
  | ok a =>
    obtain ⟨-, prior, -, -, hload, -⟩ := exists_of_assetFrom hasset
    exact absurd hload (h prior)

theorem entry?_materialize (hentry : d.entry? l = some (.file content)) :
    Disk.entry? (materialize c d).2 l = some (.file content) ∨ c.AssetReplaces d l content := by
  cases hm : Manifest.load d c.generatedFolder with
  | error e =>
    rw [materialize_of_load_error hm]
    exact .inl hentry
  | ok m =>
    by_cases hreplaces : c.AssetReplaces d l content
    · exact .inr hreplaces
    · -- The run keeps the file, so whenever it comes to a master with that file it cannot load it.
      have hkeeps : Disk.Keeps (· ≠ l) d (materialize c d).2 := by
        refine keeps_materialize hm fun s hs w path d₁ hd₁ => ?_
        by_cases hfile : c.store.IsFileOf s.masterName l
        · have hblocked := fun h => hreplaces ⟨m, hm, s, hs, hfile, h⟩
          obtain ⟨hlocate, hnot⟩ := Classical.not_imp.1 hblocked
          have hload := FolderStore.load_ne_ok hfile (hd₁.locate hlocate)
            ((hd₁.file (by simp)).2 hentry) hnot
          rw [MasterSchema.materializeFrom_of_load hload]
          exact .refl d₁
        · refine (s.keeps_materializeFrom c.store w path d₁).mono fun l' hl' => ?_
          rintro rfl
          exact hfile hl'
      exact .inl ((hkeeps.file (by simp)).2 hentry)

/-- A step of materializing that succeeds leaves its asset, and keeps those of other masters. -/
theorem holdsAsset_of_materializeMaster {s : MasterSchema} {report : MasterReport}
    (h : materializeMaster store w path s d = (.ok report, d')) :
    store.HoldsAsset d' s.masterName
      ∧ ∀ master, store.HoldsAsset d master → store.HoldsAsset d' master := by
  have hkeeps : Disk.Keeps (store.IsFileOf s.masterName) d d' :=
    (keeps_materializeMaster store w path s d).of_eq h
  have hown : store.HoldsAsset d' s.masterName := by
    obtain ⟨sheet, prior, -, hload, htext⟩ := exists_of_materializeMaster h
    exact ⟨FolderStore.isValidAssetName_of_load hload, _, rfl, htext⟩
  refine ⟨hown, fun master ⟨hvalid, a, ha, htext⟩ => ?_⟩
  by_cases hsame : master = s.masterName
  · rw [hsame]
    exact hown
  · refine ⟨hvalid, a, ha, hkeeps.readText (fun l hl hfile => ?_) htext⟩
    exact hsame (FolderStore.IsFileOf.master_eq ⟨hvalid, hl⟩ hfile)

/-- A run that succeeds leaves an asset of each of its masters. -/
theorem Session.holdsAsset_of_run {x x' : Session} {entries : List MasterSchema} {reports : List MasterReport}
    (h : Session.run c entries x = (.ok reports, x')) :
    (∀ s ∈ entries, c.store.HoldsAsset x'.disk s.masterName)
      ∧ ∀ master, c.store.HoldsAsset x.disk master → c.store.HoldsAsset x'.disk master := by
  induction entries generalizing x reports with
  | nil =>
    cases h
    exact ⟨by simp, fun _ => id⟩
  | cons s rest ih =>
    obtain ⟨report, x₁, more, hstep, hrest, -⟩ := Session.run_cons_eq_ok_iff.1 h
    obtain ⟨w, -, hmaster, -⟩ := Session.step_eq_ok_iff.1 hstep
    obtain ⟨hown, hfirst⟩ := holdsAsset_of_materializeMaster hmaster
    obtain ⟨hothers, hlater⟩ := ih hrest
    exact ⟨List.forall_mem_cons.2 ⟨hlater _ hown, hothers⟩,
      fun master hmaster => hlater master (hfirst master hmaster)⟩

/-- Materializing, if it succeeds, leaves an asset of each master of the manifest. -/
theorem holdsAsset_of_materialize {m : Manifest} (hm : Manifest.load d c.generatedFolder = .ok m)
    {reports : List MasterReport} (h : materialize c d = (.ok reports, d')) :
    ∀ s ∈ m.masters, c.store.HoldsAsset d' s.masterName := by
  rw [materialize_eq_run hm] at h
  obtain ⟨hreports, rfl⟩ := Prod.mk.inj h
  exact (Session.holdsAsset_of_run (Prod.ext hreports rfl)).1

theorem FolderStore.HoldsAsset.exists_entry {master : String} (h : store.HoldsAsset d master)
    (hl : store.IsFileOf master l) :
    ∃ a : Asset, a.master = master ∧ d.entry? l = some (.file (.text a.render)) := by
  obtain ⟨-, a, ha, htext⟩ := h
  obtain ⟨l', hlocate, hentry⟩ := Disk.readText_eq_ok_iff.1 htext
  obtain rfl := Option.some.inj (hl.2.symm.trans (Disk.destination_of_locate hlocate))
  exact ⟨a, ha, hentry⟩

end Materialize

/-! ## Workbooks stay -/

/-- No run changes a listed workbook, except that compiling replaces the one in whose place it publishes
the manifest, and materializing may replace one in whose place it saves an asset. What stands there once
such a run succeeded is the manifest or an asset. -/
theorem workbooks_stay_unless_replaced {c : Config} {d : Disk} (hd : d.WellNamed)
    {paths : List String} (hpaths : Workbook.listIn d c.workbooksFolder = .ok paths) :
    ∀ path ∈ paths, ∃ l content, Disk.destination path = some l ∧ d.entry? l = some (.file content)
      ∧ (∀ mode, Disk.entry? (compile c mode d).2 l = some (.file content)
        ∨ mode = .apply ∧ c.ManifestReplaces d paths l)
      ∧ Disk.entry? (aggregate c d).2 l = some (.file content)
      ∧ (Disk.entry? (materialize c d).2 l = some (.file content) ∨ c.AssetReplaces d l content)
      ∧ (∀ report d', compile c .apply d = (.ok report, d') → c.ManifestReplaces d paths l →
        d'.entry? l = some (.file (.text (Manifest.ofSchemas (declaredSchemas c d)).render)))
      ∧ ∀ reports d', materialize c d = (.ok reports, d') → c.AssetReplaces d l content →
        ∃ a : Asset, d'.entry? l = some (.file (.text a.render)) := by
  intro path hpath
  obtain ⟨l, content, hl, hentry, hsource⟩ :=
    Workbook.exists_file_of_mem_listIn (hd.hasNamedFiles _) hpaths hpath
  refine ⟨l, content, hl, hentry, entry?_compile hpaths hentry hsource,
    entry?_aggregate c hentry hsource, entry?_materialize hentry, ?_, ?_⟩
  · intro report d' h hreplaces
    exact entry?_manifest_of_compile h hreplaces.2
  · rintro reports d' h ⟨m, hm, s, hs, hfile, -⟩
    obtain ⟨a, -, ha⟩ := (holdsAsset_of_materialize hm h s hs).exists_entry hfile
    exact ⟨a, ha⟩

theorem workbooks_stay_unless_replaced_stale :
    Workbook.listIn staleDisk Config.small.workbooksFolder = .ok ["data/book.xlsx"]
      ∧ staleDisk.WellNamed
      ∧ Disk.entry? (compile .small .apply staleDisk).2 #["data", "book.xlsx"]
        = staleDisk.entry? #["data", "book.xlsx"] := by
  have hd : staleDisk.WellNamed := fun e he name hname => (isTree_staleDisk.named e he name hname).1
  have hpaths : Workbook.listIn staleDisk Config.small.workbooksFolder = .ok ["data/book.xlsx"] := by
    decide +kernel
  obtain ⟨l, content, hl, hentry, hcompile, -⟩ :=
    workbooks_stay_unless_replaced hd hpaths "data/book.xlsx" (List.mem_singleton_self _)
  obtain rfl : #["data", "book.xlsx"] = l := Option.some.inj ((by decide +kernel : _ = _).trans hl)
  refine ⟨hpaths, hd, ?_⟩
  rw [hentry]
  rcases hcompile .apply with hkept | ⟨-, -, hmanifest⟩
  · exact hkept
  · exact absurd hmanifest (by decide +kernel)

/-- A project that publishes into the folder of its workbooks. -/
def sharedConfig : Config := { Config.small with generatedSource := "data" }

/-- A workbook with a note, in one sheet without a master. -/
def noteText : String :=
  "\x7b\"sheets\": [\x7b\"name\": \"Notes\", \"cells\": [\x7b\"row\": 0, \"col\": 0, \"value\": "
    ++ "\x7b\"type\": \"Text\", \"value\": \"to do\"\x7d\x7d]\x7d]\x7d"

/-- A folder with one workbook, which has the name of the manifest. -/
def sharedDisk : Disk where
  entries := [(#["data"], .folder), (#["data", "masters.json"], .file (.text noteText))]
  nodup := by simp

/-- Compiling replaces the workbook. -/
theorem not_workbooks_stay_shared :
    sharedConfig.IsValid
      ∧ Workbook.listIn sharedDisk sharedConfig.workbooksFolder = .ok ["data/masters.json"]
      ∧ Disk.destination "data/masters.json" = some #["data", "masters.json"]
      ∧ Disk.Changes sharedDisk (compile sharedConfig .apply sharedDisk).2
        #["data", "masters.json"] := by
  refine ⟨by decide +kernel, by decide +kernel, by decide +kernel, .text noteText, ?_⟩
  decide +kernel

end MasterData
