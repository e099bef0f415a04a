-- SUMMARY: What compiling accepts, materializing accepts.
import MasterData.Proofs.Project.OneByOne

/-! # From compiling to materializing

The stages share nothing but the manifest: materializing finds the workbook of a master by the name of
its file, the sheet by its name and the anchor by another search. After a compilation that succeeded
all of them are found, so that a run over the same workbooks stops only where the system refuses an
asset or where a stored asset cannot be read. Main statement: `compile_then_materialize`.
-/

namespace MasterData

/-! ## Sheets of masters -/

/-- The sheet that materializing reads for a master, if it finds it. -/
def Config.sheetOf? (c : Config) (d : Disk) (s : MasterSchema) : Option Sheet :=
  match Workbook.openAt d (c.workbookPath s) with
  | .error _ => none
  | .ok w => (s.sheetIn w (c.workbookPath s)).toOption

theorem Config.sheetOf?_eq_some {c : Config} {d : Disk} {s : MasterSchema} {sheet : Sheet} :
    c.sheetOf? d s = some sheet
      ↔ ∃ w, Workbook.openAt d (c.workbookPath s) = .ok w
        ∧ s.sheetIn w (c.workbookPath s) = .ok sheet := by
  unfold sheetOf?
  cases Workbook.openAt d (c.workbookPath s) with
  | error e => simp
  | ok w => cases hsheet : s.sheetIn w (c.workbookPath s) <;> simp [Except.toOption, hsheet]

theorem Config.sheetOf?_congr {c : Config} {d d' : Disk} {s : MasterSchema}
    (h : d'.read (c.workbookPath s) = d.read (c.workbookPath s)) :
    c.sheetOf? d' s = c.sheetOf? d s := by
  unfold sheetOf?
  rw [Workbook.openAt_congr h]

theorem Disk.Keeps.sheetOf? {S : Location → Prop} {d d' : Disk} {c : Config} {s : MasterSchema}
    {sheet : Sheet} (h : Disk.Keeps S d d')
    (hpath : ∀ l, Disk.destination (c.workbookPath s) = some l → ¬ S l)
    (hsheet : c.sheetOf? d s = some sheet) : c.sheetOf? d' s = some sheet := by
  obtain ⟨w, hw, hfound⟩ := Config.sheetOf?_eq_some.1 hsheet
  exact Config.sheetOf?_eq_some.2 ⟨w, h.openAt hpath hw, hfound⟩

/-! ## Ready masters -/

/-- Nothing but the system can keep a master from being materialized from a sheet. -/
structure IsReady (c : Config) (d : Disk) (s : MasterSchema) (sheet : Sheet) : Prop where
  valid : isValidAssetName s.masterName
  loadable : c.store.IsLoadable d s.masterName
  sheet_eq : c.sheetOf? d s = some sheet

/-- The asset of a master has a record for each row of the data block of a sheet. -/
structure MasterSchema.IsFullAsset (s : MasterSchema) (sheet : Sheet) (a : Asset) : Prop where
  master_eq : a.master = s.masterName
  length_records : a.records.length = s.rowCount sheet

section Ready

variable {c : Config} {d d' : Disk} {s : MasterSchema} {sheet : Sheet}

theorem IsReady.of_keeps {S : Location → Prop} (h : IsReady c d s sheet)
    (hkeeps : Disk.Keeps S d d')
    (hworkbook : ∀ l, Disk.destination (c.workbookPath s) = some l → ¬ S l)
    (hasset : ∀ l, c.store.IsFileOf s.masterName l → ¬ S l) : IsReady c d' s sheet where
  valid := h.valid
  loadable := h.loadable.of_keeps hkeeps hasset
  sheet_eq := hkeeps.sheetOf? hworkbook h.sheet_eq

/-- A ready master gets its asset, or the system refuses. -/
theorem IsReady.assetFrom {w : Workbook} {path : String} (h : IsReady c d s sheet)
    (hsheet : s.sheetIn w path = .ok sheet) :
    (∃ prior, s.assetFrom c.store w path d = .ok (s.assetOf (s.materializeSheet sheet prior)))
      ∨ ∃ refused, s.assetFrom c.store w path d = .error (.asset (.system refused)) := by
  unfold MasterSchema.assetFrom
  rw [hsheet, FolderStore.pathFor_eq_ok h.valid]
  rcases h.loadable.load h.valid with ⟨prior, hload⟩ | ⟨refused, hload⟩
  · exact .inl ⟨prior, by rw [hload]⟩
  · exact .inr ⟨refused, by rw [hload]⟩

theorem keepAsset_progress (store : FolderStore) {a : Asset} (hvalid : isValidAssetName a.master)
    (d : Disk) :
    (∃ d', store.keepAsset a d = (.ok a, d'))
      ∨ ∃ refused d', store.keepAsset a d = (.error (.asset (.system refused)), d') := by
  unfold FolderStore.keepAsset
  cases hsave : store.save d a with
  | mk result d₁ =>
    cases result with
    | ok _ => exact .inl ⟨d₁, rfl⟩
    | error e =>
      obtain ⟨refused, rfl⟩ := FolderStore.system_of_save_eq_error hvalid hsave
      exact .inr ⟨refused, d₁, rfl⟩

/-- A ready master gets a full asset, or the system refuses. -/
theorem IsReady.materializeOne (h : IsReady c d s sheet) :
    (∃ a d', materializeOne c s d = (.ok a, d') ∧ s.IsFullAsset sheet a)
      ∨ ∃ refused d', materializeOne c s d = (.error (.asset (.system refused)), d') := by
  obtain ⟨w, hw, hfound⟩ := Config.sheetOf?_eq_some.1 h.sheet_eq
  rw [materializeOne_of_openAt hw, MasterSchema.materializeFrom]
  rcases h.assetFrom hfound with ⟨prior, hmade⟩ | ⟨refused, hmade⟩
  · rw [hmade]
    have hfull : s.IsFullAsset sheet (s.assetOf (s.materializeSheet sheet prior)) :=
      ⟨rfl, s.length_materializeSheet sheet prior⟩
    have hvalid : isValidAssetName (s.assetOf (s.materializeSheet sheet prior)).master := h.valid
    rcases keepAsset_progress c.store hvalid d with ⟨d', hkept⟩ | ⟨refused, d', hkept⟩
    · exact .inl ⟨_, d', hkept, hfull⟩
    · exact .inr ⟨refused, d', hkept⟩
  · rw [hmade]
    exact .inr ⟨refused, d, rfl⟩

/-- A run over ready masters gives each of them a full asset, or the system refuses. The masters that
are still to come stay ready, as each step writes only the file of its own master. -/
theorem materializeEach_progress {schemas : List MasterSchema} {sheets : MasterSchema → Sheet}
    (hnodup : (schemas.map (·.masterName)).Nodup) (happart : ∀ s ∈ schemas, c.IsApart s)
    (hready : ∀ s ∈ schemas, IsReady c d s (sheets s)) :
    (∃ assets d', materializeEach c schemas d = (.ok assets, d')
        ∧ List.Forall₂ (fun s a => s.IsFullAsset (sheets s) a) schemas assets)
      ∨ ∃ refused d', materializeEach c schemas d = (.error (.asset (.system refused)), d') := by
  induction schemas generalizing d with
  | nil => exact .inl ⟨[], d, materializeEach_nil c d, .nil⟩
  | cons s rest ih =>
    rw [List.map_cons, List.nodup_cons] at hnodup
    have happart' : ∀ s' ∈ rest, c.IsApart s' :=
      fun s' hs' => happart s' (List.mem_cons_of_mem _ hs')
    rcases (hready s (List.mem_cons_self ..)).materializeOne with
      ⟨a, d₁, hone, hfull⟩ | ⟨refused, d₁, hone⟩
    · have hkeeps := keeps_materializeOne c s d
      rw [hone] at hkeeps
      -- The step wrote the file of `s` alone, which is no workbook and belongs to no other master.
      have hready' : ∀ s' ∈ rest, IsReady c d₁ s' (sheets s') := by
        intro s' hs'
        refine (hready s' (List.mem_cons_of_mem _ hs')).of_keeps hkeeps ?_ ?_
        · exact fun l hl hfile => happart' s' hs' l hl hfile.inFolder
        · exact fun l hl hfile => hnodup.1 (List.mem_map.2 ⟨s', hs', hl.master_eq hfile⟩)
      rw [materializeEach_cons_of_ok hone]
      rcases ih hnodup.2 happart' hready' with ⟨assets, d', hrest, hall⟩ | ⟨refused, d', hrest⟩
      · exact .inl ⟨a :: assets, d', by rw [hrest]; rfl, .cons hfull hall⟩
      · exact .inr ⟨refused, d', by rw [hrest]; rfl⟩
    · exact .inr ⟨refused, d₁, materializeEach_cons_of_error hone rest⟩

end Ready

/-! ## Compiled masters -/

/-- No extension of workbooks is that of generated source. -/
theorem WorkbookFormat.not_suffix_of_ofPath? {path name : String} {format : WorkbookFormat}
    (hname : Path.fileName? path = some name) (h : ofPath? path = some format) :
    ¬ sourceEnding <:+ name.toList := by
  rintro ⟨stem, hstem⟩
  -- A name that ends like source has that extension, or none if the ending is all there is of it.
  have hextension : Path.extensionOf? name = none
      ∨ Path.extensionOf? name = some Published.sourceExtension := by
    unfold Path.extensionOf?
    simp only [← hstem, sourceEnding]
    split
    · exact .inr (by simp [Published.sourceExtension])
    · exact .inl rfl
  have hformat : ofPath? path = none := by
    simp only [ofPath?, Path.extension?, hname, Option.bind_some]
    rcases hextension with h | h
    · rw [h]
      rfl
    · rw [h]
      decide
  rw [hformat] at h
  cases h

theorem Workbook.not_suffix_of_openAt {d : Disk} {path : String} {w : Workbook}
    (hw : openAt d path = .ok w) : ¬ sourceEnding <:+ (workbookName path).toList := by
  cases hformat : WorkbookFormat.ofPath? path with
  | none =>
    unfold openAt at hw
    rw [hformat] at hw
    cases hw
  | some format => exact WorkbookFormat.not_suffix_of_ofPath? (fileName?_of_openAt hw) hformat

section Compiled

variable {c : Config} {d d' : Disk} {schemas : List MasterSchema} {s : MasterSchema}

/-- The workbook of a compiled master is found by the name that its schema keeps, and is none of the
files that compiling touches. -/
theorem IsCompiled.exists_openAt (h : IsCompiled c d schemas) (hd : d.WellNamed) (hs : s ∈ schemas) :
    Path.IsName s.source.workbook ∧ ¬ sourceEnding <:+ s.source.workbook.toList
      ∧ ∃ sheet, c.sheetOf? d s = some sheet := by
  obtain ⟨paths, hpaths, hdeclared⟩ := h.exists_paths
  obtain ⟨path, hpath, w, sheet, hw, hsource, hsheet⟩ := (hdeclared s hs).exists_sheet
  obtain ⟨hname, -, hjoin⟩ := Workbook.exists_of_mem_listIn (hd.hasNamedFiles _) hpaths hpath
  have hworkbook : c.workbookPath s = path := by
    rw [Config.workbookPath, hsource, ← hjoin]
  rw [hsource]
  refine ⟨hname, Workbook.not_suffix_of_openAt hw, sheet, ?_⟩
  exact Config.sheetOf?_eq_some.2 ⟨w, by rwa [hworkbook], hsheet _⟩

theorem IsCompiled.not_isGenerated (h : IsCompiled c d schemas) (hd : d.WellNamed)
    (hfolders : Disk.destination c.workbooksFolder ≠ Disk.destination c.generatedFolder)
    (hs : s ∈ schemas) :
    ∀ l, Disk.destination (c.workbookPath s) = some l → ¬ c.IsGenerated l := by
  obtain ⟨hname, hending, -⟩ := h.exists_openAt hd hs
  rintro l hl (hsource | hmanifest)
  · exact Disk.not_endsWith_of_name hname hending hl hsource
  · exact Disk.not_inFolder_of_ne hname hfolders hl ⟨_, isName_manifest, hmanifest⟩

/-- No asset is touched by compiling. -/
theorem not_isGenerated_of_isFileOf {master : String}
    (hfolders : Disk.destination c.assetsFolder ≠ Disk.destination c.generatedFolder) :
    ∀ l, c.store.IsFileOf master l → ¬ c.IsGenerated l := by
  rintro l ⟨hvalid, hl⟩ (hsource | hmanifest)
  · have hname := FolderStore.isName_assetFileName hvalid
    refine Disk.not_endsWith_of_name hname (fun hsuffix => ?_) hl hsource
    have hjson : ".json".toList <:+ (FolderStore.assetFileName master).toList :=
      ⟨master.toList, by simp [FolderStore.assetFileName, String.toList_append]⟩
    exact absurd (List.suffix_of_suffix_length_le hsuffix hjson (by decide)) (by decide)
  · exact Disk.not_inFolder_of_ne isName_manifest (Ne.symm hfolders) hmanifest
      ⟨_, FolderStore.isName_assetFileName hvalid, hl⟩

/-- The schemas of a compilation that succeeded are ready on every later disk that has the same
workbooks and assets that can be loaded. -/
theorem IsCompiled.exists_isReady {d₀ : Disk} (h : IsCompiled c d₀ schemas) (hd : d₀.WellNamed)
    (hfolders : Disk.destination c.workbooksFolder ≠ Disk.destination c.generatedFolder)
    (hkeeps : Disk.Keeps c.IsGenerated d₀ d)
    (hread : ∀ name, Path.IsName name →
      d'.read (Path.join c.workbooksFolder name) = d.read (Path.join c.workbooksFolder name))
    (hloadable : ∀ s ∈ schemas, c.store.IsLoadable d' s.masterName) (hs : s ∈ schemas) :
    ∃ sheet, c.sheetOf? d₀ s = some sheet ∧ IsReady c d' s sheet := by
  obtain ⟨hname, -, sheet, hsheet⟩ := h.exists_openAt hd hs
  refine ⟨sheet, hsheet, h.valid s hs, hloadable s hs, ?_⟩
  rw [Config.sheetOf?_congr (hread _ hname)]
  exact hkeeps.sheetOf? (h.not_isGenerated hd hfolders hs) hsheet

end Compiled

/-! ## Projects -/

/-- Compiling spoils no asset. Once it succeeded, a run over the same manifest and workbooks whose
masters have assets that can be loaded, or none, succeeds unless the system refuses to read or write
an asset. It reports the compiled masters in their order, each with as many records as its sheet has
rows from the start of the data block to the last one. -/
theorem compile_then_materialize {c : Config} {d₀ d₁ : Disk} {compiled : CompileReport}
    (hdisk : d₀.WellNamed) (hcompile : compile c .apply d₀ = (.ok compiled, d₁))
    (hassets : Disk.destination c.assetsFolder ≠ Disk.destination c.workbooksFolder)
    (hsource : Disk.destination c.assetsFolder ≠ Disk.destination c.generatedFolder)
    (hworkbooks : Disk.destination c.workbooksFolder ≠ Disk.destination c.generatedFolder) :
    (∀ master, c.store.IsLoadable d₀ master → c.store.IsLoadable d₁ master)
      ∧ ∀ d : Disk, (∀ name, Path.IsName name →
          d.read (Path.join c.workbooksFolder name) = d₁.read (Path.join c.workbooksFolder name)) →
        d.readText c.manifestPath = d₁.readText c.manifestPath →
        (∀ master ∈ compiled.masters, c.store.IsLoadable d master) →
        (∀ path, (materialize c d).1 ≠ .error (.asset (.system path))) →
        ∃ reports, (materialize c d).1 = .ok reports
          ∧ reports.map (·.master) = compiled.masters
          ∧ List.Forall₂ (fun s (r : MasterReport) => r.master = s.masterName
              ∧ ∃ sheet, c.sheetOf? d₀ s = some sheet ∧ c.sheetOf? d s = some sheet
                ∧ r.records = s.rowCount sheet)
            (declaredSchemas c d₀) reports := by
  obtain ⟨hcompiled, hmasters, htext, hkeeps⟩ := compile_eq_ok hcompile
  rw [hmasters]
  generalize declaredSchemas c d₀ = schemas at hcompiled htext
  refine ⟨fun master h => h.of_keeps hkeeps (not_isGenerated_of_isFileOf hsource), ?_⟩
  intro d hread hmanifest hloadable hsystem
  have hready := fun s hs => hcompiled.exists_isReady (s := s) hdisk hworkbooks hkeeps hread
    (fun s hs => hloadable _ (List.mem_map_of_mem hs)) hs
  -- Each master has one sheet, the same when it was compiled and when it is materialized.
  choose! sheets hsheets using hready
  have hrun := hcompiled.materialize_eq hassets (hmanifest.trans htext)
  rcases materializeEach_progress hcompiled.nodup (hcompiled.isApart hassets)
    (fun s hs => (hsheets s hs).2) with ⟨assets, d', heach, hall⟩ | ⟨refused, d', heach⟩
  · have hreports : (materialize c d).1 = .ok (assets.map (Asset.report c.store)) := by
      rw [hrun, heach]
      rfl
    have hall : List.Forall₂ (fun s (r : MasterReport) => r.master = s.masterName
        ∧ r.records = s.rowCount (sheets s)) schemas (assets.map (Asset.report c.store)) :=
      List.forall₂_map_right_iff.2 (hall.imp fun s a h => ⟨h.master_eq, h.length_records⟩)
    refine ⟨_, hreports, ?_, ?_⟩
    · have hnames : List.Forall₂ (· = ·) (schemas.map (·.masterName))
          ((assets.map (Asset.report c.store)).map (·.master)) :=
        List.forall₂_map_left_iff.2 (List.forall₂_map_right_iff.2 (hall.imp fun _ _ h => h.1.symm))
      rw [List.forall₂_eq_eq_eq] at hnames
      exact hnames.symm
    · refine ((List.forall₂_and_left _ _).2 ⟨hsheets, hall⟩).imp fun s r h => ?_
      obtain ⟨⟨hsheet, hready⟩, hmaster, hrecords⟩ := h
      exact ⟨hmaster, sheets s, hsheet, hready.sheet_eq, hrecords⟩
  · refine absurd ?_ (hsystem refused)
    rw [hrun, heach]
    rfl

/-- A master with records in the first and third row of its data block. -/
def sparseCells : List (Address × StoredValue) := [
  (⟨0, 0⟩, .text "Item"), (⟨1, 0⟩, .text "@"),
  (⟨2, 0⟩, .text "int"), (⟨2, 1⟩, .text "string"),
  (⟨3, 0⟩, .text "id"), (⟨3, 1⟩, .text "name"),
  (⟨5, 0⟩, .int 1), (⟨5, 1⟩, .text "Sword"),
  (⟨7, 0⟩, .int 2), (⟨7, 1⟩, .text "Shield")]

/-- The schema of that master. -/
def sparseSchema : MasterSchema where
  masterName := "Item"
  masterDescription := ""
  keyType := "int"
  keyColumn := 0
  fields := [⟨0, "int", .primitive .i32, "id", ""⟩, ⟨1, "string", .string, "name", ""⟩]
  source := ⟨"book.xlsx", "Sheet"⟩
  anchor := ⟨1, 0⟩
  dataStartRow := 5

/-- The disk after compiling it. -/
def sparseDisk : Disk := (compile .small .apply (.ofCells sparseCells)).2

theorem compile_then_materialize_sparse :
    ∃ reports, (materialize .small sparseDisk).1 = .ok reports
      ∧ reports.map (·.master) = ["Item"]
      ∧ List.Forall₂ (fun s (r : MasterReport) => r.master = s.masterName
          ∧ ∃ sheet, Config.small.sheetOf? (.ofCells sparseCells) s = some sheet
            ∧ Config.small.sheetOf? sparseDisk s = some sheet ∧ r.records = s.rowCount sheet)
        [sparseSchema] reports := by
  have hcompile : compile .small .apply (.ofCells sparseCells)
      = (.ok ⟨["Item"], ["src/item.rs", "src/masters.json", "src/mod.rs"], 0, []⟩, sparseDisk) :=
    eq_mk_of_fst_eq (by decide +kernel)
  have hassets : Disk.destination Config.small.assetsFolder
      ≠ Disk.destination Config.small.workbooksFolder := by
    decide +kernel
  have hsource : Disk.destination Config.small.assetsFolder
      ≠ Disk.destination Config.small.generatedFolder := by
    decide +kernel
  have hworkbooks : Disk.destination Config.small.workbooksFolder
      ≠ Disk.destination Config.small.generatedFolder := by
    decide +kernel
  have hschemas : declaredSchemas .small (.ofCells sparseCells) = [sparseSchema] := by
    decide +kernel
  obtain ⟨hloadable, hthen⟩ :=
    compile_then_materialize (Disk.wellNamed_ofCells _) hcompile hassets hsource hworkbooks
  rw [hschemas] at hthen
  refine hthen sparseDisk (fun _ _ => rfl) rfl (fun master hmaster => hloadable master ?_)
    fun path => ?_
  · rw [List.mem_singleton.1 hmaster]
    exact FolderStore.isLoadable_of_missing (by decide +kernel)
  · obtain ⟨hcompiled, -, htext, -⟩ := compile_eq_ok hcompile
    rw [hschemas] at hcompiled htext
    have hreports : (materialize .small sparseDisk).1 = .ok [⟨"Item", 3, [], "assets/Item.json"⟩] := by
      rw [hcompiled.materialize_eq hassets htext]
      decide +kernel
    rw [hreports]
    exact fun h => by cases h

end MasterData
