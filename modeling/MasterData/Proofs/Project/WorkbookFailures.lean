-- SUMMARY: Every failure of a workbook names the workbook, whatever its reader does.
import MasterData.Proofs.Project.FailedMaterialize
import MasterData.Proofs.Project.Inspection
import MasterData.Proofs.Workbook.Backends

/-! # Failures of workbooks

Inspecting, compiling and materializing open workbooks, list their sheets and read them. Each stage is
given here with the backend of spreadsheets left open; with the backend of containers it is the stage as
it is. A stage fails over a workbook exactly if it comes to a call that fails, and its failure is then
that of the call in the context of the workbook that it is at. Main statement:
`workbook_failures_name_their_workbook`.
-/

namespace MasterData

/-! ## Stages behind a backend -/

/-- Makes the records of a master from its sheet and saves them. -/
def MasterSchema.saveRecords (store : FolderStore) (s : MasterSchema) (sheet : Sheet) (d : Disk) :
    Except ProjectError MasterReport × Disk :=
  match store.pathFor s.masterName, store.load d s.masterName with
  | .error e, _ => (.error (.asset e), d)
  | .ok _, .error e => (.error (.asset e), d)
  | .ok assetPath, .ok prior =>
    let records := s.materializeSheet sheet prior
    let index := MasterIndex.build s.masterName records
    match store.save d ⟨s.masterName, s.fieldNames, records⟩ with
    | (.error e, d) => (.error (.asset e), d)
    | (.ok (), d) => (.ok ⟨s.masterName, records.length, index.collisions, assetPath⟩, d)

namespace SpreadsheetBackend

variable {ρ : Type}

/-- The schemas that the sheets of a workbook declare. -/
def inspect (b : SpreadsheetBackend ρ) (t : TypeTable) (d : Disk) (path : String) :
    Except ProjectError (List MasterSchema) :=
  match b.scanWorkbooks d .workbook (inspectVisit t) [path] [] with
  | (.error e, _) => .error e
  | (.ok (), schemas) => .ok schemas

/-- The survey of workbooks, and the failure that ended it if there was one. -/
def survey (b : SpreadsheetBackend ρ) (c : Config) (d : Disk) (paths : List String) :
    Except ProjectError Unit × Survey :=
  b.scanWorkbooks d .workbook (Survey.visit c) paths ⟨.ofConfig c, []⟩

/-- Compiles a project. -/
def compile (b : SpreadsheetBackend ρ) (c : Config) (mode : WriteMode) (d : Disk) :
    Except ProjectError CompileReport × Disk :=
  match Workbook.listIn d c.workbooksFolder with
  | .error e => (.error (.discovery c.workbooksFolder e), d)
  | .ok paths =>
    let (outcome, survey) := b.survey c d paths
    let modules := survey.masters.map fun m => (m.fileName, m.source)
    match Published.addAll mode c.generatedFolder modules .empty d, outcome with
    | (.error e, d), _ => (.error e, d)
    | (.ok _, d), .error e => (.error e, d)
    | (.ok p, d), .ok () => publishAll c mode survey.masters p d

/-- The sheet of a master in a workbook with sheets of these names, which must have its anchor where the
schema says. -/
def sheetIn (b : SpreadsheetBackend ρ) (names : List String) (path : String) (s : MasterSchema)
    (w : OpenedWorkbook ρ) : Except ProjectError Sheet × OpenedWorkbook ρ :=
  if !names.contains s.source.sheet then
    (.error (.missingSheet s.masterName path s.source.sheet), w)
  else
    match b.reader.readSheet w s.source.sheet with
    | (.error e, w) => (.error (.workbook (e.inWorkbook path)), w)
    | (.ok sheet, w) =>
      let found := sheet.findAnchor?
      if found = some s.anchor then (.ok sheet, w)
      else (.error (.anchorMoved s.masterName s.source.sheet s.anchor found), w)

/-- Materializes one master of a workbook. -/
def materializeMaster (b : SpreadsheetBackend ρ) (store : FolderStore) (names : List String)
    (path : String) (s : MasterSchema) (w : OpenedWorkbook ρ) (d : Disk) :
    Except ProjectError MasterReport × OpenedWorkbook ρ × Disk :=
  match b.sheetIn names path s w with
  | (.error e, w) => (.error e, w, d)
  | (.ok sheet, w) =>
    let (report, d) := s.saveRecords store sheet d
    (report, w, d)

/-- Materializes masters of one workbook in order. -/
def materializeMasters (b : SpreadsheetBackend ρ) (store : FolderStore) (names : List String)
    (path : String) : List MasterSchema → OpenedWorkbook ρ → Disk →
      Except ProjectError (List MasterReport) × Disk
  | [], _, d => (.ok [], d)
  | s :: rest, w, d =>
    match b.materializeMaster store names path s w d with
    | (.error e, _, d) => (.error e, d)
    | (.ok report, w, d) =>
      let (reports, d) := b.materializeMasters store names path rest w d
      (reports.map (report :: ·), d)

/-- Materializes a group of masters from the workbook of the first one. -/
def materializeGroup (b : SpreadsheetBackend ρ) (c : Config) (s : MasterSchema)
    (rest : List MasterSchema) (d : Disk) : Except ProjectError (List MasterReport) × Disk :=
  let path := c.workbookPath s
  match b.openWorkbook d path with
  | .error e => (.error (.workbook e), d)
  | .ok w =>
    match b.reader.sheetNames w with
    | .error e => (.error (.workbook (e.inWorkbook path)), d)
    | .ok names => b.materializeMasters c.store names path (s :: rest) w d

/-- Materializes the masters of several workbooks, each group from a workbook of its own. -/
def materializeGroups (b : SpreadsheetBackend ρ) (c : Config) :
    List (List MasterSchema) → Disk → Except ProjectError (List MasterReport) × Disk
  | [], d => (.ok [], d)
  | [] :: groups, d => b.materializeGroups c groups d
  | (s :: rest) :: groups, d =>
    match b.materializeGroup c s rest d with
    | (.error e, d) => (.error e, d)
    | (.ok reports, d) =>
      let (more, d) := b.materializeGroups c groups d
      (more.map (reports ++ ·), d)

/-- Materializes all masters of the manifest of a project. -/
def materialize (b : SpreadsheetBackend ρ) (c : Config) (d : Disk) :
    Except ProjectError (List MasterReport) × Disk :=
  match Manifest.load d c.generatedFolder with
  | .error e => (.error e, d)
  | .ok manifest =>
    b.materializeGroups c
      (manifest.masters.splitBy fun a b => a.source.workbook == b.source.workbook) d

/-! ## Calls that stages stop at -/

/-- An inspection comes to a call that fails. -/
def InspectStops (b : SpreadsheetBackend ρ) (t : TypeTable) (d : Disk) (inspected path : String)
    (raw : WorkbookError) : Prop :=
  b.Stops d .workbook (inspectVisit t) [inspected] [] (.call path raw)

/-- A compilation comes to a call that fails, and could write the modules that it found before. -/
def CompileStops (b : SpreadsheetBackend ρ) (c : Config) (mode : WriteMode) (d : Disk)
    (paths : List String) (path : String) (raw : WorkbookError) : Prop :=
  b.Stops d .workbook (Survey.visit c) paths ⟨.ofConfig c, []⟩ (.call path raw)
    ∧ ∃ p d', Published.addAll mode c.generatedFolder
        ((b.survey c d paths).2.masters.map fun m => (m.fileName, m.source)) .empty d = (.ok p, d')

/-- A run over the masters of one workbook comes to a sheet that cannot be read. -/
inductive MastersStop (b : SpreadsheetBackend ρ) (store : FolderStore) (names : List String)
    (path : String) : List MasterSchema → OpenedWorkbook ρ → Disk → WorkbookError → Prop where
  | unreadable {s rest w w' d raw} (hlisted : s.source.sheet ∈ names)
    (h : b.reader.readSheet w s.source.sheet = (.error raw, w')) :
    MastersStop b store names path (s :: rest) w d raw
  | passed {s rest w w' d d' report raw}
    (h : b.materializeMaster store names path s w d = (.ok report, w', d'))
    (hrest : MastersStop b store names path rest w' d' raw) :
    MastersStop b store names path (s :: rest) w d raw

/-- A run over the group of a master comes to a call that fails. -/
inductive GroupStops (b : SpreadsheetBackend ρ) (c : Config) (s : MasterSchema)
    (rest : List MasterSchema) (d : Disk) : WorkbookError → Prop where
  | closed {raw} (h : b.openWorkbook d (c.workbookPath s) = .error raw) : GroupStops b c s rest d raw
  | unlisted {w raw} (hopen : b.openWorkbook d (c.workbookPath s) = .ok w)
    (h : b.reader.sheetNames w = .error raw) : GroupStops b c s rest d raw
  | inside {w names raw} (hopen : b.openWorkbook d (c.workbookPath s) = .ok w)
    (hnames : b.reader.sheetNames w = .ok names)
    (h : b.MastersStop c.store names (c.workbookPath s) (s :: rest) w d raw) :
    GroupStops b c s rest d raw

/-- A run over groups of masters comes to a call that fails, on the workbook at a path. -/
inductive GroupsStop (b : SpreadsheetBackend ρ) (c : Config) :
    List (List MasterSchema) → Disk → String → WorkbookError → Prop where
  | empty {groups d path raw} (h : GroupsStop b c groups d path raw) :
    GroupsStop b c ([] :: groups) d path raw
  | inside {s rest groups d raw} (h : b.GroupStops c s rest d raw) :
    GroupsStop b c ((s :: rest) :: groups) d (c.workbookPath s) raw
  | passed {s rest groups d d' reports path raw}
    (h : b.materializeGroup c s rest d = (.ok reports, d'))
    (hrest : GroupsStop b c groups d' path raw) :
    GroupsStop b c ((s :: rest) :: groups) d path raw

/-- Materializing a manifest comes to a call that fails. -/
def MaterializeStops (b : SpreadsheetBackend ρ) (c : Config) (d : Disk) (manifest : Manifest)
    (path : String) (raw : WorkbookError) : Prop :=
  b.GroupsStop c (manifest.masters.splitBy fun a b => a.source.workbook == b.source.workbook) d path raw

end SpreadsheetBackend

/-! ## Failures of other kinds -/

section Others

variable {failure : WorkbookError} {e : ProjectError} {d : Disk}

theorem MasterSchema.ne_workbook_of_saveRecords {store : FolderStore} {s : MasterSchema}
    {sheet : Sheet} (h : (s.saveRecords store sheet d).1 = .error e) : e ≠ .workbook failure := by
  unfold saveRecords at h
  split at h
  · cases h
    simp
  · cases h
    simp
  · simp only at h
    split at h
    · cases h
      simp
    · cases h

theorem Manifest.ne_workbook_of_load {folder : String} (h : load d folder = .error e) :
    e ≠ .workbook failure := by
  unfold load ofText at h
  simp only at h
  split at h
  · split at h
    · cases h
      simp
    · split at h
      · cases h
        simp
      · cases h
  · cases h
    simp
  · cases h
    simp

theorem Published.ne_workbook_of_addAll {mode : WriteMode} {folder : String}
    {files : List (String × String)} {p : Published}
    (h : (addAll mode folder files p d).1 = .error e) : e ≠ .workbook failure := by
  cases mode with
  | check =>
    rw [addAll_check] at h
    cases h
  | apply =>
    obtain ⟨path, rfl⟩ := system_of_addAll (Prod.ext h rfl)
    simp

theorem Published.ne_workbook_of_prune {mode : WriteMode} {folder : String} {p : Published}
    (h : (p.prune mode folder d).1 = .error e) : e ≠ .workbook failure := by
  cases mode with
  | check =>
    rw [prune_check] at h
    rw [(system_of_leftovers h).1]
    simp
  | apply =>
    rcases prune_apply_cases folder p d with ⟨paths, d', -, -, hpruned⟩ | ⟨path, d', hpruned⟩
    · rw [hpruned] at h
      cases h
    · rw [hpruned] at h
      cases h
      simp

theorem ne_workbook_of_publishAll {c : Config} {mode : WriteMode} {masters : List CompiledMaster}
    {p : Published} (h : (publishAll c mode masters p d).1 = .error e) : e ≠ .workbook failure := by
  unfold publishAll at h
  simp only at h
  split at h
  · rename_i hadded
    cases h
    exact Published.ne_workbook_of_addAll (congrArg Prod.fst hadded)
  · split at h
    · rename_i hpruned
      cases h
      exact Published.ne_workbook_of_prune (congrArg Prod.fst hpruned)
    · unfold CompileReport.finish at h
      simp only at h
      split at h
      · cases h
        simp
      · cases h

theorem ScanHit.ne_workbook_of_schema? {t : TypeTable} {hit : ScanHit}
    (h : hit.schema? t = .error e) : e ≠ .workbook failure := by
  unfold schema? at h
  cases hextract : MasterSchema.extract t (workbookName hit.workbook) hit.sheet hit.anchor with
  | error fault =>
    rw [hextract] at h
    cases h
    simp
  | ok found =>
    rw [hextract] at h
    cases h

theorem ne_workbook_of_inspectVisit {t : TypeTable} {hit : ScanHit} {schemas after : List MasterSchema}
    (h : inspectVisit t hit schemas = (.error e, after)) : e ≠ .workbook failure := by
  unfold inspectVisit at h
  split at h
  · rename_i hschema
    cases h
    exact ScanHit.ne_workbook_of_schema? hschema
  · cases h

theorem Survey.ne_workbook_of_visit {c : Config} {hit : ScanHit} {survey after : Survey}
    (h : visit c hit survey = (.error e, after)) : e ≠ .workbook failure := by
  unfold visit at h
  split at h
  · rename_i hschema
    cases h
    exact ScanHit.ne_workbook_of_schema? hschema
  · cases h
  · split at h
    · cases h
    · split at h
      · rename_i hclaim
        cases h
        rcases Registry.claim_eq_error hclaim with ⟨fault, -, rfl⟩ | ⟨first, -, rfl⟩ <;> simp
      · cases h

end Others

/-! ## Stages that stop -/

namespace SpreadsheetBackend

variable {ρ : Type} {b : SpreadsheetBackend ρ} {c : Config} {d : Disk} {failure : WorkbookError}

/-- A scan whose visits fail for other reasons fails over a workbook exactly if it comes to a call that
fails. -/
theorem scanWorkbooks_eq_workbook_iff {σ : Type} (visit : ScanHit → σ → Except ProjectError Unit × σ)
    (paths : List String) (state : σ)
    (hvisit : ∀ hit before e after, visit hit before = (.error e, after) → e ≠ .workbook failure) :
    (b.scanWorkbooks d .workbook visit paths state).1 = .error (.workbook failure)
      ↔ ∃ path raw, b.Stops d .workbook visit paths state (.call path raw)
        ∧ failure = raw.inWorkbook path := by
  rw [scanWorkbooks_eq_error_iff]
  constructor
  · rintro ⟨stop, hstop, he⟩
    cases stop with
    | call path raw => exact ⟨path, raw, hstop, ProjectError.workbook.inj he⟩
    | visit e =>
      obtain ⟨hit, before, after, -, hfails⟩ := hstop.exists_visit
      exact absurd he.symm (hvisit hit before e after hfails)
  · rintro ⟨path, raw, hstop, rfl⟩
    exact ⟨_, hstop, rfl⟩

theorem inspect_eq_workbook_iff {t : TypeTable} {path : String} :
    b.inspect t d path = .error (.workbook failure)
      ↔ ∃ file raw, b.InspectStops t d path file raw ∧ failure = raw.inWorkbook file := by
  unfold inspect InspectStops
  rw [← b.scanWorkbooks_eq_workbook_iff (inspectVisit t) [path] [] fun _ _ _ _ h =>
    ne_workbook_of_inspectVisit h]
  rcases b.scanWorkbooks d ProjectError.workbook (inspectVisit t) [path] [] with ⟨e | _, schemas⟩ <;>
    simp

theorem compile_eq_workbook_iff {mode : WriteMode} :
    (b.compile c mode d).1 = .error (.workbook failure)
      ↔ ∃ paths, Workbook.listIn d c.workbooksFolder = .ok paths
        ∧ ∃ path raw, b.CompileStops c mode d paths path raw ∧ failure = raw.inWorkbook path := by
  unfold compile CompileStops
  cases Workbook.listIn d c.workbooksFolder with
  | error e => simp
  | ok paths =>
    have hscan : (b.survey c d paths).1 = .error (.workbook failure) ↔ _ :=
      b.scanWorkbooks_eq_workbook_iff (Survey.visit c) paths ⟨.ofConfig c, []⟩ fun _ _ _ _ h =>
        Survey.ne_workbook_of_visit h
    rcases hsurvey : b.survey c d paths with ⟨outcome, survey⟩
    rw [hsurvey] at hscan
    simp only [hsurvey, Except.ok.injEq, exists_eq_left']
    rcases hadded : Published.addAll mode c.generatedFolder
        (survey.masters.map fun m => (m.fileName, m.source)) .empty d with ⟨e | p, d₁⟩
    · have hne : e ≠ .workbook failure := Published.ne_workbook_of_addAll (congrArg Prod.fst hadded)
      simp [hadded, hne]
    · have hwritten : ∃ p' d',
          (Except.ok p, d₁) = ((.ok p', d') : Except ProjectError Published × Disk) := ⟨p, d₁, rfl⟩
      simp only [hadded, hwritten, and_true, ← hscan]
      cases outcome with
      | error e => simp
      | ok u =>
        have hne : (publishAll c mode survey.masters p d₁).1 ≠ .error (.workbook failure) :=
          fun h => ne_workbook_of_publishAll h rfl
        simp [hne]

/-! ## Runs over a manifest that stop -/

variable {store : FolderStore} {names : List String} {path : String}

theorem sheetIn_eq_workbook_iff {s : MasterSchema} {w : OpenedWorkbook ρ} :
    (b.sheetIn names path s w).1 = .error (.workbook failure)
      ↔ s.source.sheet ∈ names ∧ ∃ raw w', b.reader.readSheet w s.source.sheet = (.error raw, w')
        ∧ failure = raw.inWorkbook path := by
  unfold sheetIn
  by_cases hlisted : s.source.sheet ∈ names
  · simp only [List.contains_eq_mem, hlisted, decide_true, Bool.not_true, Bool.false_eq_true, if_false,
      true_and]
    rcases b.reader.readSheet w s.source.sheet with ⟨raw | sheet, w'⟩
    · simp [eq_comm]
    · simp only [Prod.mk.injEq, reduceCtorEq, false_and]
      split <;> simp
  · simp [hlisted]

theorem materializeMaster_eq_workbook_iff {s : MasterSchema} {w : OpenedWorkbook ρ} :
    (b.materializeMaster store names path s w d).1 = .error (.workbook failure)
      ↔ s.source.sheet ∈ names ∧ ∃ raw w', b.reader.readSheet w s.source.sheet = (.error raw, w')
        ∧ failure = raw.inWorkbook path := by
  rw [← sheetIn_eq_workbook_iff]
  unfold materializeMaster
  rcases b.sheetIn names path s w with ⟨e | sheet, w'⟩
  · simp
  · have hne : (s.saveRecords store sheet d).1 ≠ .error (.workbook failure) :=
      fun h => MasterSchema.ne_workbook_of_saveRecords h rfl
    simp [hne]

/-- A run over masters stops at the sheet of the first, or is done with it and stops later. -/
theorem mastersStop_cons_iff {s : MasterSchema} {rest : List MasterSchema} {w : OpenedWorkbook ρ}
    {raw : WorkbookError} :
    b.MastersStop store names path (s :: rest) w d raw
      ↔ (s.source.sheet ∈ names ∧ ∃ w', b.reader.readSheet w s.source.sheet = (.error raw, w'))
        ∨ ∃ report w' d', b.materializeMaster store names path s w d = (.ok report, w', d')
          ∧ b.MastersStop store names path rest w' d' raw := by
  constructor
  · intro hstop
    cases hstop with
    | unreadable hlisted h => exact .inl ⟨hlisted, _, h⟩
    | passed h hrest => exact .inr ⟨_, _, _, h, hrest⟩
  · rintro (⟨hlisted, w', h⟩ | ⟨report, w', d', h, hrest⟩)
    · exact .unreadable hlisted h
    · exact .passed h hrest

theorem materializeMasters_eq_workbook_iff {masters : List MasterSchema} {w : OpenedWorkbook ρ} :
    (b.materializeMasters store names path masters w d).1 = .error (.workbook failure)
      ↔ ∃ raw, b.MastersStop store names path masters w d raw ∧ failure = raw.inWorkbook path := by
  induction masters generalizing w d with
  | nil =>
    constructor
    · intro h
      cases h
    · rintro ⟨raw, hstop, -⟩
      cases hstop
  | cons s rest ih =>
    have hfirst : (b.materializeMaster store names path s w d).1 = .error (.workbook failure)
        ↔ ∃ raw, (s.source.sheet ∈ names
          ∧ ∃ w', b.reader.readSheet w s.source.sheet = (.error raw, w'))
          ∧ failure = raw.inWorkbook path := by
      rw [materializeMaster_eq_workbook_iff]
      simp only [and_assoc, exists_and_left, exists_and_right]
    simp only [mastersStop_cons_iff, or_and_right, exists_or, ← hfirst, materializeMasters]
    rcases b.materializeMaster store names path s w d with ⟨e | report, w', d'⟩
    · simp
    · simp [map_eq_error_iff, ih]

/-! A run over the group of a master stops in the first of three calls that fails. -/

theorem groupStops_iff_of_closed {s : MasterSchema} {rest : List MasterSchema}
    {raw failed : WorkbookError} (hopen : b.openWorkbook d (c.workbookPath s) = .error failed) :
    b.GroupStops c s rest d raw ↔ raw = failed := by
  constructor
  · intro hstop
    cases hstop with
    | closed h => exact Except.error.inj (h.symm.trans hopen)
    | unlisted h => cases hopen.symm.trans h
    | inside h => cases hopen.symm.trans h
  · rintro rfl
    exact .closed hopen

theorem groupStops_iff_of_unlisted {s : MasterSchema} {rest : List MasterSchema}
    {w : OpenedWorkbook ρ} {raw failed : WorkbookError}
    (hopen : b.openWorkbook d (c.workbookPath s) = .ok w)
    (hnames : b.reader.sheetNames w = .error failed) :
    b.GroupStops c s rest d raw ↔ raw = failed := by
  constructor
  · intro hstop
    cases hstop with
    | closed h => cases hopen.symm.trans h
    | unlisted h h' =>
      obtain rfl := Except.ok.inj (hopen.symm.trans h)
      exact Except.error.inj (h'.symm.trans hnames)
    | inside h h' =>
      obtain rfl := Except.ok.inj (hopen.symm.trans h)
      cases hnames.symm.trans h'
  · rintro rfl
    exact .unlisted hopen hnames

theorem groupStops_iff_of_listed {s : MasterSchema} {rest : List MasterSchema}
    {w : OpenedWorkbook ρ} {raw : WorkbookError} (hopen : b.openWorkbook d (c.workbookPath s) = .ok w)
    (hnames : b.reader.sheetNames w = .ok names) :
    b.GroupStops c s rest d raw
      ↔ b.MastersStop c.store names (c.workbookPath s) (s :: rest) w d raw := by
  constructor
  · intro hstop
    cases hstop with
    | closed h => cases hopen.symm.trans h
    | unlisted h h' =>
      obtain rfl := Except.ok.inj (hopen.symm.trans h)
      cases hnames.symm.trans h'
    | inside h h' hstop =>
      obtain rfl := Except.ok.inj (hopen.symm.trans h)
      obtain rfl := Except.ok.inj (hnames.symm.trans h')
      exact hstop
  · exact .inside hopen hnames

theorem materializeGroup_eq_workbook_iff {s : MasterSchema} {rest : List MasterSchema} :
    (b.materializeGroup c s rest d).1 = .error (.workbook failure)
      ↔ ∃ raw, b.GroupStops c s rest d raw ∧ failure = raw.inWorkbook (c.workbookPath s) := by
  unfold materializeGroup
  simp only
  cases hopen : b.openWorkbook d (c.workbookPath s) with
  | error raw =>
    -- The failure already names the workbook, so its context leaves it as it is.
    have hself := (isAbout_of_openWorkbook hopen).2
    simp only [groupStops_iff_of_closed hopen, exists_eq_left, hself, Except.error.injEq,
      ProjectError.workbook.injEq]
    exact eq_comm
  | ok w =>
    cases hnames : b.reader.sheetNames w with
    | error raw =>
      simp only [hnames, groupStops_iff_of_unlisted hopen hnames, exists_eq_left,
        Except.error.injEq, ProjectError.workbook.injEq]
      exact eq_comm
    | ok names =>
      simp only [hnames, groupStops_iff_of_listed hopen hnames, materializeMasters_eq_workbook_iff]

theorem materializeGroups_nil_cons (groups : List (List MasterSchema)) :
    b.materializeGroups c ([] :: groups) d = b.materializeGroups c groups d :=
  (rfl)

theorem materializeGroups_cons (s : MasterSchema) (rest : List MasterSchema)
    (groups : List (List MasterSchema)) :
    b.materializeGroups c ((s :: rest) :: groups) d
      = match b.materializeGroup c s rest d with
        | (.error e, d) => (.error e, d)
        | (.ok reports, d) =>
          ((b.materializeGroups c groups d).1.map (reports ++ ·), (b.materializeGroups c groups d).2) :=
  (rfl)

theorem groupsStop_nil_cons_iff {groups : List (List MasterSchema)} {raw : WorkbookError} :
    b.GroupsStop c ([] :: groups) d path raw ↔ b.GroupsStop c groups d path raw := by
  constructor
  · intro hstop
    cases hstop with
    | empty h => exact h
  · exact .empty

/-- A run over groups stops in the first, or is done with it and stops later. -/
theorem groupsStop_cons_iff {s : MasterSchema} {rest : List MasterSchema}
    {groups : List (List MasterSchema)} {raw : WorkbookError} :
    b.GroupsStop c ((s :: rest) :: groups) d path raw
      ↔ (path = c.workbookPath s ∧ b.GroupStops c s rest d raw)
        ∨ ∃ reports d', b.materializeGroup c s rest d = (.ok reports, d')
          ∧ b.GroupsStop c groups d' path raw := by
  constructor
  · intro hstop
    cases hstop with
    | inside h => exact .inl ⟨rfl, h⟩
    | passed h hrest => exact .inr ⟨_, _, h, hrest⟩
  · rintro (⟨rfl, h⟩ | ⟨reports, d', h, hrest⟩)
    · exact .inside h
    · exact .passed h hrest

theorem materializeGroups_eq_workbook_iff {groups : List (List MasterSchema)} :
    (b.materializeGroups c groups d).1 = .error (.workbook failure)
      ↔ ∃ path raw, b.GroupsStop c groups d path raw ∧ failure = raw.inWorkbook path := by
  induction groups generalizing d with
  | nil =>
    constructor
    · intro h
      cases h
    · rintro ⟨path, raw, hstop, -⟩
      cases hstop
  | cons group groups ih =>
    rcases group with _ | ⟨s, rest⟩
    · simp only [materializeGroups_nil_cons, ih, groupsStop_nil_cons_iff]
    · have hfirst : (b.materializeGroup c s rest d).1 = .error (.workbook failure)
          ↔ ∃ path raw, (path = c.workbookPath s ∧ b.GroupStops c s rest d raw)
            ∧ failure = raw.inWorkbook path := by
        rw [materializeGroup_eq_workbook_iff]
        simp only [and_assoc, exists_and_left, exists_eq_left]
      simp only [groupsStop_cons_iff, or_and_right, exists_or, ← hfirst, materializeGroups_cons]
      rcases b.materializeGroup c s rest d with ⟨e | reports, d'⟩
      · simp
      · simp [map_eq_error_iff, ih]

theorem materialize_eq_workbook_iff :
    (b.materialize c d).1 = .error (.workbook failure)
      ↔ ∃ manifest, Manifest.load d c.generatedFolder = .ok manifest
        ∧ ∃ path raw, b.MaterializeStops c d manifest path raw ∧ failure = raw.inWorkbook path := by
  unfold materialize MaterializeStops
  cases hload : Manifest.load d c.generatedFolder with
  | error e =>
    have hne : e ≠ .workbook failure := Manifest.ne_workbook_of_load hload
    simp [hne]
  | ok manifest =>
    simp only [materializeGroups_eq_workbook_iff, Except.ok.injEq, exists_eq_left']

/-! ## Failures name their workbooks -/

theorem MastersStop.path?_eq {masters : List MasterSchema} {w : OpenedWorkbook ρ} {raw : WorkbookError}
    (h : b.MastersStop store names path masters w d raw) : raw.path? = none := by
  induction h with
  | unreadable _ hread => exact path?_of_readSheet hread
  | passed _ _ ih => exact ih

theorem GroupStops.isAbout {s : MasterSchema} {rest : List MasterSchema} {raw : WorkbookError}
    (h : b.GroupStops c s rest d raw) : raw.IsAbout (c.workbookPath s) := by
  cases h with
  | closed hopen => exact (isAbout_of_openWorkbook hopen).1
  | unlisted _ hnames => exact WorkbookError.isAbout_of_path?_eq_none (path?_of_sheetNames hnames)
  | inside _ _ hstop => exact WorkbookError.isAbout_of_path?_eq_none hstop.path?_eq

/-- The call that a run over groups stops at is one on the workbook of a master, and its failure is about
that workbook. -/
theorem GroupsStop.isAbout {groups : List (List MasterSchema)} {raw : WorkbookError}
    (h : b.GroupsStop c groups d path raw) :
    (∃ s ∈ groups.flatten, path = c.workbookPath s) ∧ raw.IsAbout path := by
  induction h with
  | empty _ ih => exact ih
  | inside h => exact ⟨⟨_, by simp, rfl⟩, h.isAbout⟩
  | passed _ _ ih =>
    obtain ⟨⟨s, hs, hpath⟩, habout⟩ := ih
    exact ⟨⟨s, by simp [hs], hpath⟩, habout⟩

end SpreadsheetBackend

/-! ## Stages behind the backend of containers -/

namespace SpreadsheetBackend

theorem container_inspect (t : TypeTable) (d : Disk) (path : String) :
    container.inspect t d path = MasterData.inspect t d path := by
  unfold inspect
  rw [container_scanWorkbooks]
  rfl

theorem container_compile (c : Config) (mode : WriteMode) (d : Disk) :
    container.compile c mode d = MasterData.compile c mode d := by
  have hsurvey : container.survey c d = Survey.ofWorkbooks c d :=
    funext fun paths => container_scanWorkbooks paths _
  unfold compile MasterData.compile
  rewrite [hsurvey]
  rfl

variable {c : Config} {d : Disk} {store : FolderStore} {path : String}

theorem container_sheetIn (w : Workbook) (s : MasterSchema) :
    container.sheetIn w.sheetNames path s w.opened = (s.sheetIn w path, w.opened) := by
  unfold sheetIn MasterSchema.sheetIn
  rw [container_readSheet]
  split
  · rfl
  · cases w.readSheet s.source.sheet with
    | error e => rfl
    | ok sheet =>
      simp only
      split <;> rfl

theorem container_materializeMaster (w : Workbook) (s : MasterSchema) :
    container.materializeMaster store w.sheetNames path s w.opened d
      = ((MasterData.materializeMaster store w path s d).1, w.opened,
        (MasterData.materializeMaster store w path s d).2) := by
  unfold materializeMaster MasterData.materializeMaster MasterSchema.saveRecords
  rw [container_sheetIn]
  cases s.sheetIn w path with
  | error e => rfl
  | ok sheet =>
    simp only
    cases store.pathFor s.masterName with
    | error e => rfl
    | ok assetPath => cases store.load d s.masterName <;> rfl

theorem container_materializeMasters (w : Workbook) (masters : List MasterSchema) :
    container.materializeMasters store w.sheetNames path masters w.opened d
      = MasterData.materializeMasters store w path masters d := by
  induction masters generalizing d with
  | nil => rfl
  | cons s rest ih =>
    rw [materializeMasters, MasterData.materializeMasters, container_materializeMaster]
    rcases MasterData.materializeMaster store w path s d with ⟨e | report, d'⟩
    · rfl
    · simp only [ih]

theorem container_materializeGroup (s : MasterSchema) (rest : List MasterSchema) :
    container.materializeGroup c s rest d
      = match Workbook.openAt d (c.workbookPath s) with
        | .error e => (.error (.workbook e), d)
        | .ok w =>
          MasterData.materializeMasters c.store w (c.workbookPath s) (s :: rest) d := by
  unfold materializeGroup
  simp only [container_openWorkbook]
  cases Workbook.openAt d (c.workbookPath s) with
  | error e => rfl
  | ok w =>
    have hnames : container.reader.sheetNames w.opened = .ok w.sheetNames := by cases w <;> rfl
    simp only [Except.map, hnames, container_materializeMasters]

theorem container_materializeGroups (groups : List (List MasterSchema)) :
    container.materializeGroups c groups d = MasterData.materializeGroups c groups d := by
  induction groups generalizing d with
  | nil => rfl
  | cons group groups ih =>
    rcases group with _ | ⟨s, rest⟩
    · exact ih
    · have hgroups : container.materializeGroups c groups = MasterData.materializeGroups c groups :=
        funext fun _ => ih
      rw [materializeGroups_cons, container_materializeGroup, Session.materializeGroups_cons]
      cases Workbook.openAt d (c.workbookPath s) with
      | error e => rfl
      | ok w =>
        rewrite [hgroups]
        rfl

theorem container_materialize (c : Config) (d : Disk) :
    container.materialize c d = MasterData.materialize c d := by
  unfold materialize MasterData.materialize
  cases Manifest.load d c.generatedFolder with
  | error e => rfl
  | ok manifest => exact container_materializeGroups _

end SpreadsheetBackend

/-! ## The main statement -/

/-- Every failure of a workbook names its workbook, whatever the backend of spreadsheets does. For every
reader that walks through sheets, and every scan of workbooks, a failure is that of a call, in the context
of its workbook, or that of a visit, which is passed on as it is. Inspecting, compiling and materializing
fail over a workbook exactly if they come to a call that fails: opening a workbook, listing its sheets or
reading one of them. The failure is that of the call in the context of the workbook at hand: it names that
workbook, is in a context once at most, and stays as it is wherever a context is put around it again. With
the backend of containers these are the stages of a project. -/
theorem workbook_failures_name_their_workbook {ρ : Type} (b : SpreadsheetBackend ρ) :
    (∀ {ω ε σ : Type} (r : SheetReader ω) (path : String) (fail : WorkbookError → ε)
        (visit : ScanHit → σ → Except ε Unit × σ) (w : ω) (state : σ) (e : ε),
      (r.scan path fail visit w state).1 = .error e
        ↔ ∃ stop, r.Stops path visit w state stop ∧ e = stop.error fail)
      ∧ (∀ {ε σ : Type} (d : Disk) (fail : WorkbookError → ε)
          (visit : ScanHit → σ → Except ε Unit × σ) (paths : List String) (state : σ),
        (∀ e, (b.scanWorkbooks d fail visit paths state).1 = .error e
            ↔ ∃ stop, b.Stops d fail visit paths state stop ∧ e = stop.error fail)
          ∧ (∀ path raw, b.Stops d fail visit paths state (.call path raw) →
            path ∈ paths ∧ (raw.inWorkbook path).Names path)
          ∧ ∀ e, b.Stops d fail visit paths state (.visit e) →
            (b.scanWorkbooks d fail visit paths state).1 = .error e)
      ∧ (∀ t d inspected,
        (∀ failure, b.inspect t d inspected = .error (.workbook failure)
            ↔ ∃ path raw, b.InspectStops t d inspected path raw ∧ failure = raw.inWorkbook path)
          ∧ ∀ path raw, b.InspectStops t d inspected path raw →
            path = inspected ∧ (raw.inWorkbook path).Names path)
      ∧ (∀ c mode d,
        (∀ failure, (b.compile c mode d).1 = .error (.workbook failure)
            ↔ ∃ paths, Workbook.listIn d c.workbooksFolder = .ok paths
              ∧ ∃ path raw, b.CompileStops c mode d paths path raw ∧ failure = raw.inWorkbook path)
          ∧ ∀ paths path raw, b.CompileStops c mode d paths path raw →
            path ∈ paths ∧ (raw.inWorkbook path).Names path)
      ∧ (∀ c d,
        (∀ failure, (b.materialize c d).1 = .error (.workbook failure)
            ↔ ∃ manifest, Manifest.load d c.generatedFolder = .ok manifest
              ∧ ∃ path raw, b.MaterializeStops c d manifest path raw
                ∧ failure = raw.inWorkbook path)
          ∧ ∀ manifest path raw, b.MaterializeStops c d manifest path raw →
            (∃ s ∈ manifest.masters, path = c.workbookPath s) ∧ (raw.inWorkbook path).Names path)
      ∧ (∀ t d path, SpreadsheetBackend.container.inspect t d path = inspect t d path)
      ∧ (∀ c mode d, SpreadsheetBackend.container.compile c mode d = compile c mode d)
      ∧ ∀ c d, SpreadsheetBackend.container.materialize c d = materialize c d := by
  refine ⟨fun r path fail visit w state e => SheetReader.scan_eq_error_iff,
    fun d fail visit paths state => ⟨fun e => SpreadsheetBackend.scanWorkbooks_eq_error_iff,
      fun path raw h => ?_, fun e h => ?_⟩,
    fun t d inspected => ⟨fun failure => SpreadsheetBackend.inspect_eq_workbook_iff,
      fun path raw h => ?_⟩,
    fun c mode d => ⟨fun failure => SpreadsheetBackend.compile_eq_workbook_iff,
      fun paths path raw h => ?_⟩,
    fun c d => ⟨fun failure => SpreadsheetBackend.materialize_eq_workbook_iff,
      fun manifest path raw h => ?_⟩,
    SpreadsheetBackend.container_inspect, SpreadsheetBackend.container_compile,
    SpreadsheetBackend.container_materialize⟩
  · exact ⟨h.isAbout.1, h.isAbout.2.names⟩
  · exact SpreadsheetBackend.scanWorkbooks_eq_error_iff.2 ⟨_, h, rfl⟩
  · obtain ⟨hmem, habout⟩ := SpreadsheetBackend.Stops.isAbout h
    exact ⟨List.mem_singleton.1 hmem, habout.names⟩
  · exact ⟨h.1.isAbout.1, h.1.isAbout.2.names⟩
  · obtain ⟨⟨s, hs, hpath⟩, habout⟩ := SpreadsheetBackend.GroupsStop.isAbout h
    rw [List.flatten_splitBy] at hs
    exact ⟨⟨s, hs, hpath⟩, habout.names⟩

/-- A backend that opens any file and then reads no sheet of it. -/
def SpreadsheetBackend.corrupt : SpreadsheetBackend Unit where
  openAt _ _ := .ok ()
  sheetNames _ := .ok ["Items"]
  readSheet r _ := (.error "bad zip entry", r)

theorem workbook_failures_name_their_workbook_corrupt :
    SpreadsheetBackend.corrupt.inspect Config.small.typeTable .empty "data/Items.xlsx"
      = .error (.workbook (.reading "data/Items.xlsx" (.reader "calamine" "bad zip entry"))) := by
  have hopen : SpreadsheetBackend.corrupt.openWorkbook .empty "data/Items.xlsx"
      = .ok (.spreadsheet ()) := by
    have hformat : WorkbookFormat.ofPath? "data/Items.xlsx" = some .xlsx := by decide +kernel
    simp only [SpreadsheetBackend.openWorkbook, hformat, SpreadsheetBackend.corrupt]
  have hstop : SpreadsheetBackend.corrupt.InspectStops Config.small.typeTable .empty "data/Items.xlsx"
      "data/Items.xlsx" (.reader "calamine" "bad zip entry") :=
    .inside hopen (.among rfl (.unreadable rfl))
  obtain ⟨-, -, hinspect, -⟩ := workbook_failures_name_their_workbook SpreadsheetBackend.corrupt
  exact ((hinspect _ _ _).1 _).2 ⟨_, _, hstop, rfl⟩

end MasterData
