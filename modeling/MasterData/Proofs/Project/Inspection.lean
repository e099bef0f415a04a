-- SUMMARY: A compilation writes down exactly what inspecting the workbooks shows.
import MasterData.Proofs.Project.Confinement
import MasterData.Proofs.Project.Recompile

/-! # Inspected workbooks

Between the schemas that a sheet gives and those in the manifest stand the making of a module, the
claim of its names and the check of the manifest that is read. In a run that succeeds none of them
drops or changes a schema, so the manifest lists what inspecting the workbooks one by one shows, before
the run and after it. Main statement: `compile_agrees_with_inspect`.
-/

namespace MasterData

/-! ## Declared schemas -/

/-- A schema with fields has a key, so it has a module. -/
theorem MasterSchema.IsWellFormed.exists_source? {t : TypeTable} {s : MasterSchema}
    (h : s.IsWellFormed t) (options : CodeOptions) : ∃ source, s.source? options = some source := by
  obtain ⟨key, rest, hfields⟩ := List.exists_cons_of_ne_nil h.fields_ne_nil
  have hkey : s.keyField? = some key := by rw [keyField?, hfields, List.head?_cons]
  simp only [source?, RecordModule.ofSchema?, hkey, Option.map_some]
  exact ⟨_, rfl⟩

namespace ScanHit

/-- The schema that an anchored sheet declares. -/
def declared? (t : TypeTable) (hit : ScanHit) : Option MasterSchema :=
  match hit.schema? t with
  | .error _ => none
  | .ok found => found

theorem declared?_of_schema? {t : TypeTable} {hit : ScanHit} {found : Option MasterSchema}
    (h : hit.schema? t = .ok found) : hit.declared? t = found := by
  rw [declared?, h]

theorem declared?_eq_some_iff {t : TypeTable} {hit : ScanHit} {s : MasterSchema} :
    hit.declared? t = some s
      ↔ MasterSchema.extract t (workbookName hit.workbook) hit.sheet hit.anchor = .ok (some s) := by
  unfold declared? schema?
  cases MasterSchema.extract t (workbookName hit.workbook) hit.sheet hit.anchor with
  | error failure => simp [Except.mapError]
  | ok found => simp [Except.mapError]

/-- Every schema that a sheet declares makes a module. -/
theorem map_schema_master? (c : Config) (hit : ScanHit) :
    (hit.master? c).map (·.schema) = hit.declared? c.typeTable := by
  unfold master? declared?
  cases hschema : hit.schema? c.typeTable with
  | error e => rfl
  | ok found =>
    cases found with
    | none => rfl
    | some s =>
      have hs := MasterSchema.isExtracted_of_extract (extract_of_schema? hschema)
      obtain ⟨source, hsource⟩ := hs.exists_source? c.codeOptions
      simp only [hsource, Option.map_some]

end ScanHit

/-- The schemas that the anchored sheets of the workbook at a path declare. -/
def Disk.declaredAt (d : Disk) (t : TypeTable) (path : String) : List MasterSchema :=
  (d.hitsAt path).filterMap (·.declared? t)

/-! ## Inspecting -/

section Inspect

variable {t : TypeTable} {d d' : Disk} {path : String} {schemas : List MasterSchema}

/-- The visit of an inspection. -/
def inspectVisit (t : TypeTable) (hit : ScanHit) (schemas : List MasterSchema) :
    Except ProjectError Unit × List MasterSchema :=
  match hit.schema? t with
  | .error e => (.error e, schemas)
  | .ok found => (.ok (), schemas ++ found.toList)

theorem inspect_eq_ok_iff_scanWorkbooks :
    inspect t d path = .ok schemas
      ↔ scanWorkbooks d (inspectVisit t) [path] [] = (.ok (), schemas) := by
  unfold inspect inspectVisit
  simp only
  generalize scanWorkbooks d _ [path] [] = result
  rcases result with ⟨e | _, found⟩ <;> simp

theorem visitEach_inspectVisit_eq_ok_iff {hits : List ScanHit} {before after : List MasterSchema} :
    visitEach (inspectVisit t) hits before = (.ok (), after)
      ↔ (∀ hit ∈ hits, ∃ found, hit.schema? t = .ok found)
        ∧ after = before ++ hits.filterMap (·.declared? t) := by
  induction hits generalizing before with
  | nil => simp [visitEach, eq_comm]
  | cons hit hits ih =>
    rw [visitEach_cons_eq_ok_iff, List.forall_mem_cons, inspectVisit]
    cases hschema : hit.schema? t with
    | error e => simp
    | ok found =>
      have hdeclared : (hit :: hits).filterMap (·.declared? t)
          = found.toList ++ hits.filterMap (·.declared? t) := by
        rw [List.filterMap_cons, ScanHit.declared?_of_schema? hschema]
        cases found <;> rfl
      rw [hdeclared, ← List.append_assoc]
      simp [ih]

/-- An inspection shows the schemas of the anchored sheets of a workbook, if all its sheets can be read
and none of them is refused. -/
theorem inspect_eq_ok_iff :
    inspect t d path = .ok schemas
      ↔ (∃ w, Workbook.openAt d path = .ok w ∧ w.IsReadable)
        ∧ (∀ hit ∈ d.hitsAt path, ∃ found, hit.schema? t = .ok found)
        ∧ schemas = d.declaredAt t path := by
  rw [inspect_eq_ok_iff_scanWorkbooks, scanWorkbooks_eq_ok_iff, visitEach_inspectVisit_eq_ok_iff]
  simp [Disk.declaredAt]

/-- A workbook whose file is kept is inspected as before. -/
theorem Disk.Keeps.inspect {S : Location → Prop} (h : Disk.Keeps S d d')
    (hpath : ∀ l, Disk.destination path = some l → ¬ S l)
    (hinspect : MasterData.inspect t d path = .ok schemas) :
    MasterData.inspect t d' path = .ok schemas := by
  rw [inspect_eq_ok_iff_scanWorkbooks] at hinspect ⊢
  refine h.scanWorkbooks (fun p hp => ?_) hinspect
  rw [List.mem_singleton.1 hp]
  exact hpath

end Inspect

/-! ## Surveys -/

namespace Survey

variable {c : Config} {d : Disk} {paths : List String} {survey survey' : Survey}

/-- Visits that succeed were refused no sheet. -/
theorem exists_schema?_of_visitEach {hits : List ScanHit}
    (h : visitEach (visit c) hits survey = (.ok (), survey')) :
    ∀ hit ∈ hits, ∃ found, hit.schema? c.typeTable = .ok found := by
  induction hits generalizing survey with
  | nil => simp
  | cons hit hits ih =>
    obtain ⟨next, hnext, hrest⟩ := visitEach_cons_eq_ok_iff.1 h
    refine List.forall_mem_cons.2 ⟨?_, ih hrest⟩
    unfold visit at hnext
    split at hnext
    · cases hnext
    · rename_i hschema
      exact ⟨_, hschema⟩
    · rename_i hschema
      exact ⟨_, hschema⟩

/-- The schemas of a survey that succeeds are all that the anchored sheets declare, in order. -/
theorem schemas_of_visitEach {hits : List ScanHit}
    (h : visitEach (visit c) hits survey = (.ok (), survey')) :
    survey'.masters.map (·.schema)
      = survey.masters.map (·.schema) ++ hits.filterMap (·.declared? c.typeTable) := by
  rw [masters_of_visitEach h, List.map_append, List.map_filterMap]
  simp only [ScanHit.map_schema_master?]

/-- A survey that succeeds finds what inspecting the workbooks one by one shows. -/
theorem inspect_of_ofWorkbooks (h : ofWorkbooks c d paths = (.ok (), survey)) :
    (∀ path ∈ paths, inspect c.typeTable d path = .ok (d.declaredAt c.typeTable path))
      ∧ survey.masters.map (·.schema) = paths.flatMap (d.declaredAt c.typeTable) := by
  obtain ⟨hopened, hvisited⟩ := scanWorkbooks_eq_ok_iff.1 h
  have haccepted := exists_schema?_of_visitEach hvisited
  refine ⟨fun path hpath => ?_, ?_⟩
  · refine inspect_eq_ok_iff.2 ⟨hopened path hpath, fun hit hhit => ?_, rfl⟩
    exact haccepted hit (List.mem_flatMap.2 ⟨path, hpath, hhit⟩)
  · rw [schemas_of_visitEach hvisited, List.filterMap_flatMap]
    rfl

end Survey

/-- What is shown of listed workbooks are the schemas that their anchored sheets declare. -/
theorem MasterSchema.isDeclaredIn_iff {c : Config} {d : Disk} {paths : List String}
    {s : MasterSchema} :
    s.IsDeclaredIn c d paths ↔ s ∈ paths.flatMap (d.declaredAt c.typeTable) := by
  have hflat : paths.flatMap (d.declaredAt c.typeTable)
      = (paths.flatMap d.hitsAt).filterMap (·.declared? c.typeTable) := by
    rw [List.filterMap_flatMap]
    rfl
  rw [hflat, List.mem_filterMap]
  simp only [ScanHit.declared?_eq_some_iff, ← ScanHit.isIn_iff]
  rfl

/-! ## Compilations -/

/-- Inspecting and compiling agree. Behind a run that succeeds, the manifest that it wrote is read back
as the schemas that inspecting each of the listed workbooks shows, one after the other, before the run
as well as after it. These are all schemas that the anchored sheets of the workbooks give: none is
dropped on its way into the manifest, and none is changed. -/
theorem compile_agrees_with_inspect {c : Config} {d d' : Disk} (hd : d.WellNamed)
    (hfolders : Disk.destination c.workbooksFolder ≠ Disk.destination c.generatedFolder)
    {report : CompileReport} (h : compile c .apply d = (.ok report, d')) :
    ∃ paths inspected, Workbook.listIn d c.workbooksFolder = .ok paths
      ∧ Workbook.listIn d' c.workbooksFolder = .ok paths
      ∧ List.Forall₂ (fun path schemas => inspect c.typeTable d path = .ok schemas
          ∧ inspect c.typeTable d' path = .ok schemas) paths inspected
      ∧ (∀ s, s ∈ inspected.flatten ↔ s.IsDeclaredIn c d paths)
      ∧ Manifest.load d' c.generatedFolder = .ok (Manifest.ofSchemas inspected.flatten) := by
  obtain ⟨paths, survey, hpaths, hsurvey, -⟩ := exists_survey_of_compile h
  obtain ⟨hcompiled, -, htext, -⟩ := compile_eq_ok h
  obtain ⟨hinspected, hschemas⟩ := Survey.inspect_of_ofWorkbooks hsurvey
  have hdeclared : declaredSchemas c d = paths.flatMap (d.declaredAt c.typeTable) := by
    unfold declaredSchemas
    rw [hpaths, ← hschemas]
    simp only [hsurvey]
  -- The run writes into its own folder, so the workbooks are listed and inspected as before.
  have hkeeps : Disk.Keeps (Disk.InFolder c.generatedFolder) d d' :=
    (keeps_compile_inFolder (hd.hasNamedFiles _) .apply).of_eq h
  have hworkbook (l : Location) (hl : c.IsWorkbook l) : ¬ Disk.InFolder c.generatedFolder l :=
    fun hin => hfolders (hl.1.trans hin.destination_eq.symm)
  refine ⟨paths, paths.map (d.declaredAt c.typeTable), hpaths,
    hkeeps.listIn (fun f name hf hname => ?_) hpaths, ?_, fun s => ?_, ?_⟩
  · exact hworkbook _ (Config.isWorkbook_push hf hname)
  · rw [List.forall₂_map_right_iff, List.forall₂_same]
    intro path hpath
    refine ⟨hinspected path hpath, hkeeps.inspect (fun l hl => ?_) (hinspected path hpath)⟩
    exact hworkbook l (Config.isWorkbook_of_mem_listIn (hd.hasNamedFiles _) hpaths hpath hl)
  · rw [← List.flatMap_def, MasterSchema.isDeclaredIn_iff]
  · rw [← List.flatMap_def, ← hdeclared]
    exact hcompiled.load_manifest htext

/-- A workbook with a sheet without an anchor. -/
def itemsBook : Spreadsheet where
  sheets := [⟨"Notes", some (.around [(⟨0, 0⟩, .text "Draft")])⟩,
    ⟨"Items", some (.around [(⟨0, 0⟩, .text "Item"), (⟨1, 0⟩, .text "@"), (⟨2, 0⟩, .text "int"),
      (⟨3, 0⟩, .text "id")])⟩]

/-- A workbook whose master has an array of a fixed length. -/
def shopsBook : Spreadsheet where
  sheets := [⟨"Shops", some (.around [(⟨0, 0⟩, .text "Shop"), (⟨1, 0⟩, .text "@"),
    (⟨2, 0⟩, .text "string"), (⟨3, 0⟩, .text "name"), (⟨2, 1⟩, .text "int[3]"),
    (⟨3, 1⟩, .text "stock")])⟩]

/-- A project with these workbooks. -/
def shelfDisk : Disk where
  entries := [(#["data"], .folder),
    (#["data", "b.xlsx"], .file (.spreadsheet itemsBook)),
    (#["data", "a.xlsx"], .file (.spreadsheet shopsBook)),
    (#["src"], .folder)]
  nodup := by simp

theorem compile_agrees_with_inspect_shelf :
    shelfDisk.WellNamed
      ∧ ∃ report d' shop item, compile .small .apply shelfDisk = (.ok report, d')
        ∧ inspect Config.small.typeTable shelfDisk "data/a.xlsx" = .ok [shop]
        ∧ inspect Config.small.typeTable d' "data/b.xlsx" = .ok [item]
        ∧ shop.fieldNames = ["name", "stock"]
        ∧ Manifest.load d' Config.small.generatedFolder = .ok (Manifest.ofSchemas [shop, item]) := by
  have hd : shelfDisk.WellNamed := by
    simp only [Disk.WellNamed, shelfDisk, List.forall_mem_cons]
    decide
  have hfolders : Disk.destination Config.small.workbooksFolder
      ≠ Disk.destination Config.small.generatedFolder := by decide +kernel
  have hlisted : Workbook.listIn shelfDisk Config.small.workbooksFolder
      = .ok ["data/a.xlsx", "data/b.xlsx"] := by
    have hfolder : Config.small.workbooksFolder = "data" := by decide +kernel
    have hentries : shelfDisk.list "data"
        = .ok [("b.xlsx", .file (.spreadsheet itemsBook)), ("a.xlsx", .file (.spreadsheet shopsBook))] := by
      decide +kernel
    have hb : Workbook.isWorkbookName "b.xlsx" := by decide +kernel
    have ha : Workbook.isWorkbookName "a.xlsx" := by decide +kernel
    have hjoin : Path.join "data" "a.xlsx" = "data/a.xlsx" ∧ Path.join "data" "b.xlsx" = "data/b.xlsx" := by
      decide +kernel
    simp [Workbook.listIn, hfolder, hentries, Workbook.workbookNames, ha, hb, hjoin, List.mergeSort,
      List.MergeSort.Internal.splitInTwo]
  have hok : (compile .small .apply shelfDisk).1.toOption.isSome := by
    unfold compile
    rw [hlisted]
    decide +kernel
  have hshop : (inspect Config.small.typeTable shelfDisk "data/a.xlsx").map
      (·.map (·.fieldNames)) = .ok [["name", "stock"]] := by decide +kernel
  have hitem : (inspect Config.small.typeTable shelfDisk "data/b.xlsx").map
      (·.map (·.fieldNames)) = .ok [["id"]] := by decide +kernel
  rcases hcompile : compile .small .apply shelfDisk with ⟨e | report, d'⟩
  · rw [hcompile] at hok
    cases hok
  obtain ⟨paths, inspected, hpaths, -, hinspected, -, hload⟩ :=
    compile_agrees_with_inspect hd hfolders hcompile
  obtain rfl := Except.ok.inj (hlisted.symm.trans hpaths)
  rcases hinspected with _ | ⟨⟨hshops, -⟩, _ | ⟨⟨hitems, hitems'⟩, ⟨⟩⟩⟩
  rw [hshops, Except.map, Except.ok.injEq] at hshop
  rw [hitems, Except.map, Except.ok.injEq] at hitem
  obtain ⟨shop, rfl, hfields⟩ := List.map_eq_singleton_iff.1 hshop
  obtain ⟨item, rfl, -⟩ := List.map_eq_singleton_iff.1 hitem
  exact ⟨hd, report, d', shop, item, rfl, hshops, hitems', hfields, hload⟩

end MasterData
