-- SUMMARY: Every run changes files directly inside its own folder only.
import MasterData.Proofs.Project.OneByOne
import MasterData.Proofs.Project.Outputs

/-! # Confinement

Compiling and aggregating create, rewrite and delete files directly inside the folder of generated source
only, and materializing creates and rewrites files directly inside the folder of the assets only: whatever
workbooks and manifest hold, and also where a run fails. Each step of a run is confined on its own, so
the run is. Main statement: `runs_stay_in_folders`.
-/

namespace MasterData

/-! ## Changes -/

namespace Disk

variable {S : Location → Prop} {d d' : Disk}

/-- A file is created, rewritten or deleted between two disks. -/
def Changes (d d' : Disk) (l : Location) : Prop :=
  ∃ content, ¬ (d'.entry? l = some (.file content) ↔ d.entry? l = some (.file content))

theorem Keeps.of_changes (h : Keeps S d d') {l : Location} (hl : Changes d d' l) : S l := by
  obtain ⟨content, hcontent⟩ := hl
  by_contra hS
  exact hcontent (h.file hS)

/-- A run whose files have names of their own in a folder keeps the names of its files. -/
theorem HasNamedFiles.of_keeps_inFolder {folder : String} (hd : d.HasNamedFiles folder)
    (h : Keeps (InFolder folder) d d') : d'.HasNamedFiles folder := by
  refine hd.of_keeps h fun f name hf hin => ?_
  obtain ⟨name', hname', hl⟩ := hin
  rw [destination_join _ hname', hf, Option.map_some, Option.some.injEq, Array.push_eq_push] at hl
  rw [← hl.1]
  exact hname'.no_slash

end Disk

/-! ## Pruning -/

/-- Pruning removes files of its folder only. -/
theorem Published.keeps_prune_inFolder {folder : String} {d : Disk} (hd : d.HasNamedFiles folder)
    (mode : WriteMode) (p : Published) :
    Disk.Keeps (Disk.InFolder folder) d (p.prune mode folder d).2 := by
  cases mode with
  | check =>
    rw [prune_check]
    exact .refl d
  | apply =>
    unfold prune
    cases hleft : p.leftovers folder d with
    | error e => exact .refl d
    | ok paths =>
      have hplaces : ∀ path ∈ paths, ∀ l, Disk.destination path = some l →
          Disk.InFolder folder l := by
        intro path hpath l hl
        by_cases hfolder : folder = ""
        · -- No folder is found by the empty path, so there is nothing in it.
          subst hfolder
          cases hleft
          cases hpath
        · obtain ⟨names, rfl, -, hmem⟩ := exists_of_leftovers hd hfolder hleft
          obtain ⟨name, hname, rfl⟩ := List.mem_map.1 hpath
          exact ⟨name, ((hmem name).1 hname).1.1, hl⟩
      have hremoved := keeps_removeFiles hplaces (d := d)
      simp only
      split
      · rename_i heq
        exact hremoved.of_eq heq
      · rename_i heq
        exact hremoved.of_eq heq

/-! ## Compiling -/

section Compile

variable {S : Location → Prop} {c : Config} {d : Disk}

theorem keeps_publish {mode : WriteMode} {masters : List CompiledMaster}
    (hfiles : ∀ name ∈ outputNames (masters.map (·.schema.masterName)), ∀ l,
      Disk.destination (Path.join c.generatedFolder name) = some l → S l)
    (hprune : ∀ (p : Published) (d₁ : Disk), Disk.Keeps S d d₁ →
      Disk.Keeps S d₁ (p.prune mode c.generatedFolder d₁).2) :
    Disk.Keeps S d (publish c mode masters d).2 := by
  rw [← c.names_outputs, List.forall_mem_map] at hfiles
  have hadded := Published.keeps_addAll mode c.generatedFolder (c.outputs masters) hfiles .empty d
  unfold publish
  cases hresult : Published.addAll mode c.generatedFolder (c.outputs masters) .empty d with
  | mk result d₁ =>
    rw [hresult] at hadded
    cases result with
    | error e => exact hadded
    | ok p =>
      have hpruned := hprune p d₁ hadded
      cases hprunedResult : p.prune mode c.generatedFolder d₁ with
      | mk result d₂ =>
        rw [hprunedResult] at hpruned
        simp only [hprunedResult]
        cases result with
        | error e => exact hadded.trans hpruned
        | ok pruned => exact hadded.trans hpruned

/-- On a survey that failed a compilation touches the modules of the masters found before. -/
theorem keeps_compile_of_survey_error {mode : WriteMode} {paths : List String} {survey : Survey}
    {e : ProjectError} (hpaths : Workbook.listIn d c.workbooksFolder = .ok paths)
    (hsurvey : Survey.ofWorkbooks c d paths = (.error e, survey))
    (hmodules : ∀ m ∈ survey.masters, ∀ l,
      Disk.destination (Path.join c.generatedFolder m.fileName) = some l → S l) :
    Disk.Keeps S d (compile c mode d).2 := by
  have hfiles : ∀ file ∈ survey.masters.map fun m => (m.fileName, m.source), ∀ l,
      Disk.destination (Path.join c.generatedFolder file.1) = some l → S l := by
    intro file hfile
    obtain ⟨m, hm, rfl⟩ := List.mem_map.1 hfile
    exact hmodules m hm
  have hadded := Published.keeps_addAll mode c.generatedFolder _ hfiles .empty d
  rw [compile_of_survey_error hpaths hsurvey]
  split
  · rename_i heq
    exact hadded.of_eq heq
  · rename_i heq
    exact hadded.of_eq heq

theorem compile_of_listIn_error {e : WorkbookError} (h : Workbook.listIn d c.workbooksFolder = .error e)
    (mode : WriteMode) : compile c mode d = (.error (.discovery c.workbooksFolder e), d) := by
  unfold compile
  rw [h]

/-- A compilation touches what its files are and what its pruning touches, also where it fails. -/
theorem keeps_compile {mode : WriteMode}
    (hfiles : ∀ masters, ∀ name ∈ outputNames masters, ∀ l,
      Disk.destination (Path.join c.generatedFolder name) = some l → S l)
    (hprune : ∀ (p : Published) (d₁ : Disk), Disk.Keeps S d d₁ →
      Disk.Keeps S d₁ (p.prune mode c.generatedFolder d₁).2) :
    Disk.Keeps S d (compile c mode d).2 := by
  cases hpaths : Workbook.listIn d c.workbooksFolder with
  | error e =>
    rw [compile_of_listIn_error hpaths]
    exact .refl d
  | ok paths =>
    cases hsurvey : Survey.ofWorkbooks c d paths with
    | mk outcome survey =>
      cases outcome with
      | ok u =>
        rw [compile_eq_publish hpaths hsurvey]
        exact keeps_publish (hfiles _) hprune
      | error e =>
        refine keeps_compile_of_survey_error hpaths hsurvey fun m _ => ?_
        exact hfiles [m.schema.masterName] m.fileName (List.mem_cons_self ..)

theorem keeps_compile_inFolder (hd : d.HasNamedFiles c.generatedFolder) (mode : WriteMode) :
    Disk.Keeps (Disk.InFolder c.generatedFolder) d (compile c mode d).2 :=
  keeps_compile (fun _ name hname _ hl => ⟨name, isName_of_mem_outputNames hname, hl⟩)
    fun p _ hkeeps => Published.keeps_prune_inFolder (hd.of_keeps_inFolder hkeeps) mode p

/-- Told by their endings, the files that a compilation touches are source or the manifest. -/
theorem keeps_compile_isGenerated (c : Config) (mode : WriteMode) (d : Disk) :
    Disk.Keeps c.IsGenerated d (compile c mode d).2 := by
  refine keeps_compile (fun masters name hname l hl => ?_) fun p d₁ _ =>
    (Published.keeps_prune mode c.generatedFolder p d₁).mono fun l hl => .inl hl
  simp only [outputNames, List.mem_append, List.mem_map, List.mem_cons, List.not_mem_nil,
    or_false] at hname
  rcases hname with ⟨master, -, rfl⟩ | rfl | rfl
  · exact .inl (endsWith_of_suffix (suffix_sourceFileName _) hl)
  · exact .inr hl
  · exact .inl (endsWith_of_suffix (suffix_sourceFileName _) hl)

theorem keeps_aggregate (c : Config) (d : Disk) :
    Disk.Keeps (Disk.IsPlace c.generatedFolder [aggregateFileName]) d (aggregate c d).2 := by
  unfold aggregate
  simp only
  split
  · exact .refl d
  · rename_i manifest _
    have hadded := Published.keeps_add .apply c.generatedFolder aggregateFileName
      (aggregateSource c manifest.masterNames) .empty d
      fun l hl => (⟨aggregateFileName, List.mem_singleton_self _, hl⟩ :
        Disk.IsPlace c.generatedFolder [aggregateFileName] l)
    split
    · rename_i heq
      exact hadded.of_eq heq
    · rename_i heq
      exact hadded.of_eq heq

theorem CompileReport.eq_of_finish {mode : WriteMode} {r report : CompileReport}
    (h : finish mode r = .ok report) : report = r := by
  unfold finish at h
  split at h
  · cases h
  · exact (Except.ok.inj h).symm

theorem masters_of_publish {mode : WriteMode} {masters : List CompiledMaster} {d' : Disk}
    {report : CompileReport} (h : publish c mode masters d = (.ok report, d')) :
    report.masters = masters.map (·.schema.masterName) := by
  unfold publish at h
  split at h
  · cases h
  · split at h
    · cases h
    · rw [CompileReport.eq_of_finish (congrArg Prod.fst h)]

/-- The files of a compilation that succeeds have names of their own. -/
theorem nodup_outputNames_of_compile {mode : WriteMode} {d' : Disk} {report : CompileReport}
    (h : compile c mode d = (.ok report, d')) : (outputNames report.masters).Nodup := by
  obtain ⟨paths, survey, hpaths, hsurvey, hsound⟩ := exists_survey_of_compile h
  rw [compile_eq_publish hpaths hsurvey] at h
  rw [masters_of_publish h]
  refine nodup_outputNames ?_
  rw [List.map_map]
  exact hsound.nodup_moduleName

end Compile

/-! ## Materializing -/

section Materialize

variable {S : Location → Prop} {d : Disk}

/-- What the step of each master of the manifest keeps, materializing keeps, also where it fails. -/
theorem keeps_materialize {c : Config} {m : Manifest} (hm : Manifest.load d c.generatedFolder = .ok m)
    (hstep : ∀ s ∈ m.masters, ∀ w path d₁, Disk.Keeps S d d₁ →
      Disk.Keeps S d₁ (s.materializeFrom c.store w path d₁).2) :
    Disk.Keeps S d (materialize c d).2 := by
  rw [materialize_eq_run hm]
  refine Session.run_induction (P := fun x => Disk.Keeps S d x.disk) (.refl d) fun s hs x hx => ?_
  rcases x.disk_step c s with hdisk | ⟨w, hdisk⟩
  · rwa [hdisk]
  · rw [hdisk]
    exact hx.trans (hstep s hs w _ _ hx)

theorem materialize_of_load_error {c : Config} {e : ProjectError}
    (h : Manifest.load d c.generatedFolder = .error e) : materialize c d = (.error e, d) := by
  unfold materialize
  rw [h]

theorem keeps_materialize_inFolder (c : Config) (d : Disk) :
    Disk.Keeps (Disk.InFolder c.assetsFolder) d (materialize c d).2 := by
  cases hm : Manifest.load d c.generatedFolder with
  | error e =>
    rw [materialize_of_load_error hm]
    exact .refl d
  | ok m =>
    refine keeps_materialize hm fun s _ w path d₁ _ => ?_
    exact (s.keeps_materializeFrom c.store w path d₁).mono fun l hl => hl.inFolder

end Materialize

/-! ## Runs -/

/-- Compiling and aggregating change only files directly inside the folder of generated source, and
materializing only files directly inside the folder of the assets, whatever the configuration is and
whatever workbooks and manifest hold. Behind a compilation that succeeds the modules of its masters have
files of their own, none of which is the aggregate or the manifest. -/
theorem runs_stay_in_folders (c : Config) {d : Disk} (hd : d.WellNamed) :
    (∀ mode l, Disk.Changes d (compile c mode d).2 l → Disk.InFolder c.generatedFolder l)
      ∧ (∀ l, Disk.Changes d (aggregate c d).2 l → Disk.InFolder c.generatedFolder l)
      ∧ (∀ l, Disk.Changes d (materialize c d).2 l → Disk.InFolder c.assetsFolder l)
      ∧ ∀ mode report d', compile c mode d = (.ok report, d') →
        (report.masters.map moduleFile).Nodup
          ∧ aggregateFileName ∉ report.masters.map moduleFile
          ∧ Manifest.fileName ∉ report.masters.map moduleFile := by
  refine ⟨fun mode l hl => ?_, fun l hl => ?_, fun l hl => ?_, fun mode report d' h => ?_⟩
  · exact (keeps_compile_inFolder (hd.hasNamedFiles _) mode).of_changes hl
  · obtain ⟨name, hname, hplace⟩ := (keeps_aggregate c d).of_changes hl
    obtain rfl := List.mem_singleton.1 hname
    exact ⟨_, isName_aggregateFileName, hplace⟩
  · exact (keeps_materialize_inFolder c d).of_changes hl
  · obtain ⟨hmodules, -, hapart⟩ := List.nodup_append.1 (nodup_outputNames_of_compile h)
    refine ⟨hmodules, fun hmem => ?_, fun hmem => ?_⟩
    · exact hapart _ hmem aggregateFileName (by simp) rfl
    · exact hapart _ hmem Manifest.fileName (by simp) rfl

/-- A file that is left over is deleted, directly inside its folder. -/
theorem runs_stay_in_folders_stale :
    staleDisk.WellNamed
      ∧ Disk.Changes staleDisk (compile .small .apply staleDisk).2 #["src", "old.rs"]
      ∧ ∀ l, Disk.Changes staleDisk (compile .small .apply staleDisk).2 l → Disk.InFolder "src" l := by
  have hd : staleDisk.WellNamed := fun e he name hname => (isTree_staleDisk.named e he name hname).1
  have hfolder : Config.small.generatedFolder = "src" := by decide +kernel
  obtain ⟨hcompile, -⟩ := runs_stay_in_folders .small hd
  rw [hfolder] at hcompile
  refine ⟨hd, ⟨.text "// @generated by sheetmaster. Do not edit.\n", ?_⟩, hcompile .apply⟩
  decide +kernel

end MasterData
