-- SUMMARY: All files of a run, and the steps of a run that succeeds.
import MasterData.Proofs.Code.Generated
import MasterData.Proofs.Config.Validation
import MasterData.Proofs.Project.Leftovers

/-! # The files of a run

A run on a finished survey publishes one list of files and then prunes: the modules of its masters, the
manifest and the aggregate, all under names of their own. What a run that succeeds has done is kept in
`IsRun`. Main statements: `compile_eq_publish` and `exists_isRun_of_compile`.
-/

namespace MasterData

/-! ## Names -/

/-- The names of the files of a run over masters. -/
def outputNames (masters : List String) : List String :=
  masters.map moduleFile ++ [Manifest.fileName, aggregateFileName]

theorem isName_of_mem_outputNames {masters : List String} {name : String}
    (h : name ∈ outputNames masters) : Path.IsName name := by
  simp only [outputNames, List.mem_append, List.mem_map, List.mem_cons, List.not_mem_nil,
    or_false] at h
  rcases h with ⟨master, -, rfl⟩ | rfl | rfl
  · exact isName_moduleFile master
  · exact isName_manifest
  · exact isName_aggregateFileName

theorem not_extensionOf?_manifest :
    Path.extensionOf? Manifest.fileName ≠ some Published.sourceExtension := by
  decide

theorem mem_outputNames {masters : List String} {name : String}
    (hextension : Path.extensionOf? name = some Published.sourceExtension) :
    name ∈ outputNames masters
      ↔ name = aggregateFileName ∨ ∃ master ∈ masters, name = moduleFile master := by
  have hmanifest : name ≠ Manifest.fileName := by
    rintro rfl
    exact not_extensionOf?_manifest hextension
  simp only [outputNames, List.mem_append, List.mem_map, List.mem_cons, List.not_mem_nil, or_false,
    hmanifest, false_or]
  constructor
  · rintro (⟨master, hmaster, rfl⟩ | rfl)
    · exact .inr ⟨master, hmaster, rfl⟩
    · exact .inl rfl
  · rintro (rfl | ⟨master, hmaster, rfl⟩)
    · exact .inr rfl
    · exact .inl ⟨master, hmaster, rfl⟩

theorem nodup_outputNames {masters : List String}
    (h : (masters.map Naming.moduleName).Nodup) : (outputNames masters).Nodup := by
  have hmodules : (masters.map moduleFile).Nodup := by
    have hfiles := h.map fun _ _ => sourceFileName_inj
    rwa [List.map_map] at hfiles
  refine List.nodup_append.2 ⟨hmodules, by decide, ?_⟩
  intro name hname other hother
  obtain ⟨master, -, rfl⟩ := List.mem_map.1 hname
  simp only [List.mem_cons, List.not_mem_nil, or_false] at hother
  rcases hother with rfl | rfl
  · intro heq
    exact not_extensionOf?_manifest (heq ▸ extensionOf?_moduleFile master)
  · exact moduleFile_ne_aggregateFileName master

/-! ## Files -/

namespace Config

/-- The files of a run on a finished survey, in the order in which they are published. -/
def outputs (c : Config) (masters : List CompiledMaster) : List (String × String) :=
  masters.map (fun m => (m.fileName, m.source))
    ++ [(Manifest.fileName, (Manifest.ofSchemas (masters.map (·.schema))).render),
      (aggregateFileName, aggregateSource c (masters.map (·.schema.masterName)))]

theorem names_outputs (c : Config) (masters : List CompiledMaster) :
    (c.outputs masters).map (·.1) = outputNames (masters.map (·.schema.masterName)) := by
  simp [outputs, outputNames, CompiledMaster.fileName, moduleFile, Function.comp_def]

theorem length_outputs (c : Config) (masters : List CompiledMaster) :
    (c.outputs masters).length = masters.length + 2 := by
  simp [outputs]

theorem manifest_mem_outputs (c : Config) (masters : List CompiledMaster) :
    (Manifest.fileName, (Manifest.ofSchemas (masters.map (·.schema))).render) ∈ c.outputs masters :=
  List.mem_append_right _ (List.mem_cons_self ..)

theorem aggregate_mem_outputs (c : Config) (masters : List CompiledMaster) :
    (aggregateFileName, aggregateSource c (masters.map (·.schema.masterName)))
      ∈ c.outputs masters :=
  List.mem_append_right _ (List.mem_cons_of_mem _ (List.mem_cons_self ..))

/-- Where the aggregate was published, the folder is found. -/
theorem exists_find {c : Config} {masters : List CompiledMaster} {d : Disk}
    (hfolder : c.generatedFolder ≠ "")
    (h : ∀ file ∈ c.outputs masters, d.readText (Path.join c.generatedFolder file.1) = .ok file.2) :
    ∃ f, d.find c.generatedFolder = .ok (f, .folder) := by
  obtain ⟨l, hl, -⟩ := Disk.readText_eq_ok_iff.1 (h _ (c.aggregate_mem_outputs masters))
  obtain ⟨-, -, f, hf, -⟩ := (Disk.locate_join_eq_ok_iff isName_aggregateFileName hfolder).1 hl
  exact ⟨f, hf⟩

theorem areOutputs {c : Config} {d : Disk} {paths : List String} {survey : Survey}
    (h : survey.IsSound c d paths) : AreOutputs (c.outputs survey.masters) where
  isName file hfile := by
    have hmem := List.mem_map_of_mem (f := (·.1)) hfile
    rw [names_outputs] at hmem
    exact isName_of_mem_outputNames hmem
  nodup := by
    rw [names_outputs]
    refine nodup_outputNames ?_
    rw [List.map_map]
    exact h.nodup_moduleName

/-- Every source among the files of a run is recognised as generated. -/
theorem isGenerated_of_mem_outputs {c : Config} {d : Disk} {paths : List String} {survey : Survey}
    (h : survey.IsSound c d paths) {file : String × String} (hfile : file ∈ c.outputs survey.masters)
    (hextension : Path.extensionOf? file.1 = some Published.sourceExtension) :
    Code.isGenerated file.2 := by
  simp only [outputs, List.mem_append, List.mem_map, List.mem_cons, List.not_mem_nil,
    or_false] at hfile
  rcases hfile with ⟨m, hm, rfl⟩ | rfl | rfl
  · exact isGenerated_of_source? (h.sourced m hm)
  · exact absurd hextension not_extensionOf?_manifest
  · simp only [aggregateSource]
    exact isGenerated_render_aggregate _

end Config

/-! ## Runs -/

/-- Publishes all files of a run on a finished survey, prunes, and reports. -/
def publish (c : Config) (mode : WriteMode) (masters : List CompiledMaster) (d : Disk) :
    Except ProjectError CompileReport × Disk :=
  match Published.addAll mode c.generatedFolder (c.outputs masters) .empty d with
  | (.error e, d) => (.error e, d)
  | (.ok p, d) =>
    match p.prune mode c.generatedFolder d with
    | (.error e, d) => (.error e, d)
    | (.ok pruned, d) =>
      (CompileReport.finish mode
        ⟨masters.map (·.schema.masterName), p.changed, p.unchanged, pruned⟩, d)

section Compile

variable {c : Config} {d d' : Disk} {paths : List String} {survey : Survey}

/-- On a finished survey a run publishes all its files at once. -/
theorem compile_eq_publish (hpaths : Workbook.listIn d c.workbooksFolder = .ok paths)
    (hsurvey : Survey.ofWorkbooks c d paths = (.ok (), survey)) (mode : WriteMode) :
    compile c mode d = publish c mode survey.masters d := by
  unfold compile publish
  rw [hpaths, Config.outputs, Published.addAll_append]
  simp only [hsurvey]
  cases Published.addAll mode c.generatedFolder (survey.masters.map fun m => (m.fileName, m.source))
      .empty d with
  | mk result d₁ =>
    cases result with
    | error e => rfl
    | ok p =>
      have hnames : (Manifest.ofSchemas (survey.masters.map (·.schema))).masterNames
          = survey.masters.map (·.schema.masterName) := by
        simp only [Manifest.masterNames, Manifest.ofSchemas, List.map_map, Function.comp_def]
      rw [← hnames]
      rfl

/-- On a survey that failed a run publishes the modules of the masters found before. -/
theorem compile_of_survey_error {e : ProjectError}
    (hpaths : Workbook.listIn d c.workbooksFolder = .ok paths)
    (hsurvey : Survey.ofWorkbooks c d paths = (.error e, survey)) (mode : WriteMode) :
    compile c mode d
      = match Published.addAll mode c.generatedFolder
            (survey.masters.map fun m => (m.fileName, m.source)) .empty d with
        | (.error e, d) => (.error e, d)
        | (.ok _, d) => (.error e, d) := by
  unfold compile
  rw [hpaths]
  simp only [hsurvey]
  cases Published.addAll mode c.generatedFolder (survey.masters.map fun m => (m.fileName, m.source))
      .empty d with
  | mk result d₁ => cases result <;> rfl

/-- The survey of a run that succeeds is finished. -/
theorem exists_survey_of_compile {mode : WriteMode} {report : CompileReport}
    (h : compile c mode d = (.ok report, d')) :
    ∃ paths survey, Workbook.listIn d c.workbooksFolder = .ok paths
      ∧ Survey.ofWorkbooks c d paths = (.ok (), survey) ∧ survey.IsSound c d paths := by
  cases hpaths : Workbook.listIn d c.workbooksFolder with
  | error e =>
    unfold compile at h
    rw [hpaths] at h
    cases h
  | ok paths =>
    have hsound := Survey.isSound_ofWorkbooks c d paths
    cases hsurvey : Survey.ofWorkbooks c d paths with
    | mk outcome survey =>
      rw [hsurvey] at hsound
      cases outcome with
      | ok u => exact ⟨paths, survey, rfl, hsurvey, hsound⟩
      | error e =>
        rw [compile_of_survey_error hpaths hsurvey] at h
        split at h <;> cases h

/-- The steps of a publication that succeeds. -/
theorem exists_of_publish {masters : List CompiledMaster} {report : CompileReport}
    (h : publish c .apply masters d = (.ok report, d')) :
    ∃ p d₁ pruned, Published.addAll .apply c.generatedFolder (c.outputs masters) .empty d = (.ok p, d₁)
      ∧ p.leftovers c.generatedFolder d₁ = .ok pruned
      ∧ Published.removeFiles pruned d₁ = (.ok (), d')
      ∧ report = ⟨masters.map (·.schema.masterName), p.changed, p.unchanged, pruned⟩ := by
  unfold publish at h
  split at h
  · cases h
  · rename_i p d₁ hadded
    rcases p.prune_apply_cases c.generatedFolder d₁ with
      ⟨pruned, d₂, hleft, hremoved, hprune⟩ | ⟨path, d₂, hprune⟩
    · rw [hprune] at h
      cases h
      exact ⟨p, d₁, pruned, hadded, hleft, hremoved, rfl⟩
    · rw [hprune] at h
      cases h

/-- What a run over masters has done: it published its files and found its folder on a disk in the
middle of the run, and then it removed the names that are marked there and not published. -/
structure IsRun (c : Config) (d middle d' : Disk) (masters : List CompiledMaster) (f : Location)
    (removed : List String) : Prop where
  keeps : Disk.Keeps
    (Disk.IsPlace c.generatedFolder (outputNames (masters.map (·.schema.masterName)))) d middle
  readText : ∀ file ∈ c.outputs masters,
    middle.readText (Path.join c.generatedFolder file.1) = .ok file.2
  find : middle.find c.generatedFolder = .ok (f, .folder)
  sorted : removed.Pairwise (· < ·)
  mem_removed : ∀ name, name ∈ removed ↔ middle.HasMarked c.generatedFolder name
    ∧ name ∉ outputNames (masters.map (·.schema.masterName))
  removeFiles : Published.removeFiles (removed.map (Path.join c.generatedFolder)) middle = (.ok (), d')

/-- The steps of a run that succeeds. -/
theorem exists_isRun_of_compile (hc : c.IsValid) (hd : d.HasNamedFiles c.generatedFolder)
    {report : CompileReport} (h : compile c .apply d = (.ok report, d')) :
    ∃ paths survey middle f removed, Workbook.listIn d c.workbooksFolder = .ok paths
      ∧ Survey.ofWorkbooks c d paths = (.ok (), survey) ∧ survey.IsSound c d paths
      ∧ report.masters = survey.masters.map (·.schema.masterName)
      ∧ report.pruned = removed.map (Path.join c.generatedFolder)
      ∧ IsRun c d middle d' survey.masters f removed := by
  obtain ⟨paths, survey, hpaths, hsurvey, hsound⟩ := exists_survey_of_compile h
  rw [compile_eq_publish hpaths hsurvey] at h
  obtain ⟨p, middle, pruned, hadded, hleft, hremoved, rfl⟩ := exists_of_publish h
  have hread := Published.readText_of_addAll (Config.areOutputs hsound) hadded
  obtain ⟨f, hf⟩ := Config.exists_find hc.generatedFolder_ne_empty hread
  have hkeeps := (Published.keeps_addAll_isPlace .apply c.generatedFolder (c.outputs survey.masters)
    .empty d).of_eq hadded
  have hknown := Published.names_of_addAll hadded
  rw [Config.names_outputs] at hkeeps hknown
  have hmiddle := hd.of_keeps_isPlace (fun _ => isName_of_mem_outputNames) hkeeps
  obtain ⟨removed, rfl, hsorted, hmem⟩ :=
    Published.exists_of_leftovers hmiddle hc.generatedFolder_ne_empty hleft
  refine ⟨paths, survey, middle, f, removed, hpaths, hsurvey, hsound, rfl, rfl, ?_⟩
  exact ⟨hkeeps, hread, hf, hsorted, by simpa [hknown, Published.empty] using hmem, hremoved⟩

/-- What is marked behind a run was marked before the removal and is one of its files. -/
theorem IsRun.hasMarked_iff {middle : Disk} {masters : List CompiledMaster} {f : Location}
    {removed : List String} (h : IsRun c d middle d' masters f removed) (name : String) :
    d'.HasMarked c.generatedFolder name ↔ middle.HasMarked c.generatedFolder name
      ∧ name ∈ outputNames (masters.map (·.schema.masterName)) := by
  have hnames : ∀ n ∈ removed, Path.IsName n := fun n hn => ((h.mem_removed n).1 hn).1.1
  rw [Published.hasMarked_iff_of_removeFiles hnames h.find h.removeFiles, h.mem_removed]
  constructor
  · rintro ⟨hmarked, hkept⟩
    exact ⟨hmarked, by_contra fun hnot => hkept ⟨hmarked, hnot⟩⟩
  · rintro ⟨hmarked, houtput⟩
    exact ⟨hmarked, fun hremoved => hremoved.2 houtput⟩

end Compile

/-- A project with one master, with a file of generated source that no master makes any more, and with
one that was written by hand. -/
def staleDisk : Disk where
  entries := [(#["data"], .folder),
    (#["data", "book.xlsx"], .file (.spreadsheet ⟨[⟨"Sheet", some (.around [
      (⟨0, 0⟩, .text "Item"), (⟨1, 0⟩, .text "@"), (⟨2, 0⟩, .text "int"), (⟨3, 0⟩, .text "id"),
      (⟨5, 0⟩, .int 1)])⟩]⟩)),
    (#["src"], .folder),
    (#["src", "old.rs"], .file (.text "// @generated by sheetmaster. Do not edit.\n")),
    (#["src", "util.rs"], .file (.text "// Written by hand.\n"))]
  nodup := by simp

theorem isTree_staleDisk : staleDisk.IsTree where
  named := by
    simp only [staleDisk, List.forall_mem_cons]
    decide
  parent := by decide +kernel

end MasterData
