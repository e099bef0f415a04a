-- SUMMARY: Materializing a project, entry by entry of its manifest.
import Mathlib.Data.List.SplitBy
import MasterData.Project.Materialize

/-! # Sessions

A run over a manifest is a sequence of steps, one for each entry. Between two steps it holds the workbook
that it has open and the disk; a step opens another workbook only if its entry names another one than
the entry before. Main statement: `materialize_eq_run`, which turns the groups of a run into steps.
-/

namespace MasterData

namespace Config

/-- The store of the assets of a project. -/
def store (c : Config) : FolderStore := ⟨c.assetsFolder⟩

/-- The path of the workbook that declares a master. -/
def workbookPath (c : Config) (s : MasterSchema) : String :=
  Path.join c.workbooksFolder s.source.workbook

end Config

/-- What a run over a manifest has at a time: the workbook that is open, by the name that entries have for
it, and the disk. -/
structure Session where
  opened? : Option (String × Workbook)
  disk : Disk

namespace Session

/-- The session at the start of a run. -/
def start (d : Disk) : Session := ⟨none, d⟩

/-- The workbook that is open under a name. -/
def openedAs? (x : Session) (name : String) : Option Workbook :=
  match x.opened? with
  | some (name', w) => if name' = name then some w else none
  | none => none

theorem opened?_of_openedAs? {x : Session} {name : String} {w : Workbook}
    (h : x.openedAs? name = some w) : x.opened? = some (name, w) := by
  unfold openedAs? at h
  split at h
  · split at h
    · rename_i hopened hname
      obtain rfl := Option.some.inj h
      rw [hopened, hname]
    · cases h
  · cases h

/-- The workbook of an entry: the one that is open, or else the one that the disk has. -/
def workbookOf (c : Config) (s : MasterSchema) (x : Session) : Except WorkbookError Workbook :=
  match x.openedAs? s.source.workbook with
  | some w => .ok w
  | none => Workbook.openAt x.disk (c.workbookPath s)

/-- Materializes the master of an entry. -/
def step (c : Config) (s : MasterSchema) (x : Session) : Except ProjectError MasterReport × Session :=
  match x.workbookOf c s with
  | .error e => (.error (.workbook e), x)
  | .ok w =>
    let result := materializeMaster c.store w (c.workbookPath s) s x.disk
    (result.1, ⟨some (s.source.workbook, w), result.2⟩)

/-- Materializes the masters of entries in order, up to the first failure. -/
def run (c : Config) : List MasterSchema → Session →
    Except ProjectError (List MasterReport) × Session
  | [], x => (.ok [], x)
  | s :: rest, x =>
    match x.step c s with
    | (.error e, x) => (.error e, x)
    | (.ok report, x) => ((run c rest x).1.map (report :: ·), (run c rest x).2)

variable {c : Config} {s : MasterSchema} {x x' : Session} {w : Workbook}

/-! ## Steps -/

theorem step_of_workbookOf (h : x.workbookOf c s = .ok w) :
    x.step c s = ((materializeMaster c.store w (c.workbookPath s) s x.disk).1,
      ⟨some (s.source.workbook, w),
        (materializeMaster c.store w (c.workbookPath s) s x.disk).2⟩) := by
  rw [step, h]

theorem step_of_workbookOf_error {e : WorkbookError} (h : x.workbookOf c s = .error e) :
    x.step c s = (.error (.workbook e), x) := by
  rw [step, h]

/-- A step that succeeds has a workbook, which stays open, and materializes the master from it. -/
theorem step_eq_ok_iff {report : MasterReport} :
    x.step c s = (.ok report, x') ↔ ∃ w, x.workbookOf c s = .ok w
      ∧ materializeMaster c.store w (c.workbookPath s) s x.disk = (.ok report, x'.disk)
      ∧ x'.opened? = some (s.source.workbook, w) := by
  obtain ⟨opened', d'⟩ := x'
  cases hw : x.workbookOf c s with
  | error e => simp [step_of_workbookOf_error hw]
  | ok w =>
    rw [step_of_workbookOf hw]
    simp only [Prod.mk.injEq, Session.mk.injEq, Except.ok.injEq, exists_eq_left']
    constructor
    · rintro ⟨hreport, hopened, hdisk⟩
      exact ⟨Prod.ext hreport hdisk, hopened.symm⟩
    · rintro ⟨hmaster, hopened⟩
      rw [hmaster]
      exact ⟨rfl, hopened.symm, rfl⟩

/-! ## Runs -/

theorem run_nil (c : Config) (x : Session) : run c [] x = (.ok [], x) := (rfl)

theorem run_cons_of_ok {report : MasterReport} (h : x.step c s = (.ok report, x'))
    (rest : List MasterSchema) :
    run c (s :: rest) x = ((run c rest x').1.map (report :: ·), (run c rest x').2) := by
  rw [run, h]

theorem run_cons_of_error {e : ProjectError} (h : x.step c s = (.error e, x'))
    (rest : List MasterSchema) : run c (s :: rest) x = (.error e, x') := by
  rw [run, h]

/-- A run that succeeds consists of a first step and a run over the rest, which both succeed. -/
theorem run_cons_eq_ok_iff {rest : List MasterSchema} {reports : List MasterReport} :
    run c (s :: rest) x = (.ok reports, x') ↔ ∃ report x₁ more, x.step c s = (.ok report, x₁)
      ∧ run c rest x₁ = (.ok more, x') ∧ reports = report :: more := by
  cases hstep : x.step c s with
  | mk result x₁ =>
    cases result with
    | error e => simp [run_cons_of_error hstep]
    | ok report =>
      rw [run_cons_of_ok hstep]
      cases hrest : run c rest x₁ with
      | mk result x₂ =>
        cases result with
        | error e => simp [Except.map, hrest]
        | ok more => simp [Except.map, hrest, eq_comm, and_comm]

/-- A run that fails has gone through the entries before the one at which it fails. -/
theorem exists_of_run_eq_error {entries : List MasterSchema} {e : ProjectError}
    (h : run c entries x = (.error e, x')) :
    ∃ before s after reports x₁, entries = before ++ s :: after
      ∧ run c before x = (.ok reports, x₁) ∧ x₁.step c s = (.error e, x') := by
  induction entries generalizing x with
  | nil => cases h
  | cons s rest ih =>
    cases hstep : x.step c s with
    | mk result x₁ =>
      cases result with
      | error e' =>
        rw [run_cons_of_error hstep] at h
        cases h
        exact ⟨[], s, rest, [], x, rfl, rfl, hstep⟩
      | ok report =>
        rw [run_cons_of_ok hstep] at h
        cases hrest : run c rest x₁ with
        | mk result x₂ =>
          rw [hrest] at h
          cases result with
          | ok more => cases h
          | error e' =>
            cases h
            obtain ⟨before, s', after, reports, x₃, rfl, hbefore, hfails⟩ := ih hrest
            exact ⟨s :: before, s', after, report :: reports, x₃, rfl,
              run_cons_eq_ok_iff.2 ⟨report, x₁, reports, hstep, hbefore, rfl⟩, hfails⟩

/-- A property of sessions that each step keeps, a run keeps, also where it fails. -/
theorem run_induction {P : Session → Prop} {entries : List MasterSchema} (hx : P x)
    (hstep : ∀ s ∈ entries, ∀ x, P x → P (x.step c s).2) : P (run c entries x).2 := by
  induction entries generalizing x with
  | nil => exact hx
  | cons s rest ih =>
    have hfirst := hstep s (List.mem_cons_self ..) x hx
    cases h : x.step c s with
    | mk result x₁ =>
      rw [h] at hfirst
      cases result with
      | error e =>
        rw [run_cons_of_error h]
        exact hfirst
      | ok report =>
        rw [run_cons_of_ok h]
        exact ih hfirst fun s hs => hstep s (List.mem_cons_of_mem _ hs)

theorem run_append (c : Config) (before after : List MasterSchema) (x : Session) :
    run c (before ++ after) x
      = match run c before x with
        | (.error e, x) => (.error e, x)
        | (.ok reports, x) => ((run c after x).1.map (reports ++ ·), (run c after x).2) := by
  induction before generalizing x with
  | nil =>
    rw [List.nil_append, run_nil]
    cases hafter : run c after x with
    | mk result x₁ => cases result <;> simp [hafter, Except.map]
  | cons s rest ih =>
    cases hstep : x.step c s with
    | mk result x₁ =>
      cases result with
      | error e => rw [List.cons_append, run_cons_of_error hstep, run_cons_of_error hstep]
      | ok report =>
        rw [List.cons_append, run_cons_of_ok hstep, run_cons_of_ok hstep, ih]
        cases run c rest x₁ with
        | mk result x₂ =>
          cases result with
          | error e => rfl
          | ok reports =>
            simp only [Except.map]
            cases run c after x₂ with
            | mk result x₃ => cases result <;> rfl

/-! ## Groups -/

theorem materializeGroups_cons (c : Config) (s : MasterSchema) (rest : List MasterSchema)
    (groups : List (List MasterSchema)) (d : Disk) :
    materializeGroups c ((s :: rest) :: groups) d
      = match Workbook.openAt d (c.workbookPath s) with
        | .error e => (.error (.workbook e), d)
        | .ok w =>
          match materializeMasters c.store w (c.workbookPath s) (s :: rest) d with
          | (.error e, d) => (.error e, d)
          | (.ok reports, d) =>
            ((materializeGroups c groups d).1.map (reports ++ ·), (materializeGroups c groups d).2) :=
  (rfl)

/-- The masters of a workbook are materialized from the one that is open. -/
theorem run_of_opened {schemas : List MasterSchema} {name path : String}
    (hname : ∀ s ∈ schemas, s.source.workbook = name)
    (hpath : ∀ s ∈ schemas, c.workbookPath s = path) (d : Disk) :
    run c schemas ⟨some (name, w), d⟩
      = ((materializeMasters c.store w path schemas d).1,
          ⟨some (name, w), (materializeMasters c.store w path schemas d).2⟩) := by
  induction schemas generalizing d with
  | nil => rfl
  | cons s rest ih =>
    rw [List.forall_mem_cons] at hname hpath
    have hw : workbookOf c s ⟨some (name, w), d⟩ = .ok w := by
      simp [workbookOf, openedAs?, hname.1]
    have hstep := step_of_workbookOf hw
    rw [hname.1, hpath.1] at hstep
    cases hmaster : materializeMaster c.store w path s d with
    | mk result d₁ =>
      rw [hmaster] at hstep
      cases result with
      | error e => simp [run_cons_of_error hstep, materializeMasters, hmaster]
      | ok report => rw [run_cons_of_ok hstep, ih hname.2 hpath.2, materializeMasters, hmaster]

/-- A workbook that is opened for a group is open for all of it. -/
theorem run_group {rest : List MasterSchema}
    (hgroup : (s :: rest).Pairwise fun a b => a.source.workbook = b.source.workbook)
    (hw : x.workbookOf c s = .ok w) :
    run c (s :: rest) x
      = ((materializeMasters c.store w (c.workbookPath s) (s :: rest) x.disk).1,
          ⟨some (s.source.workbook, w),
            (materializeMasters c.store w (c.workbookPath s) (s :: rest) x.disk).2⟩) := by
  have hname : ∀ s' ∈ s :: rest, s'.source.workbook = s.source.workbook :=
    List.forall_mem_cons.2 ⟨rfl, fun s' hs' => ((List.pairwise_cons.1 hgroup).1 s' hs').symm⟩
  have hpath : ∀ s' ∈ s :: rest, c.workbookPath s' = c.workbookPath s := fun s' hs' => by
    rw [Config.workbookPath, Config.workbookPath, hname s' hs']
  -- The first step is the same if the workbook is open already.
  have hopened : workbookOf c s ⟨some (s.source.workbook, w), x.disk⟩ = .ok w := by
    simp [workbookOf, openedAs?]
  rw [← run_of_opened hname hpath, run, run, step_of_workbookOf hw, step_of_workbookOf hopened]

/-- Groups of masters, each of another workbook than the group before, are materialized step by step. -/
theorem materializeGroups_eq_run {groups : List (List MasterSchema)}
    (hgroups : ∀ g ∈ groups, g.Pairwise fun a b => a.source.workbook = b.source.workbook)
    (hnil : [] ∉ groups)
    (hchain : groups.IsChain fun g g' => ∃ hg hg',
      (g.getLast hg).source.workbook ≠ (g'.head hg').source.workbook)
    (hx : ∀ g ∈ groups.head?, ∀ s ∈ g.head?, x.openedAs? s.source.workbook = none) :
    materializeGroups c groups x.disk
      = ((run c groups.flatten x).1, (run c groups.flatten x).2.disk) := by
  induction groups generalizing x with
  | nil => rfl
  | cons g groups ih =>
    rw [List.forall_mem_cons] at hgroups
    rw [List.isChain_cons] at hchain
    rw [List.mem_cons, not_or] at hnil
    cases g with
    | nil => exact absurd rfl hnil.1
    | cons s rest =>
      have hopens : x.workbookOf c s = Workbook.openAt x.disk (c.workbookPath s) := by
        rw [workbookOf, hx _ rfl _ rfl]
      rw [materializeGroups_cons, List.flatten_cons, ← hopens]
      cases hw : x.workbookOf c s with
      | error e => rw [List.cons_append, run_cons_of_error (step_of_workbookOf_error hw)]
      | ok w =>
        rw [run_append, run_group hgroups.1 hw]
        simp only
        cases materializeMasters c.store w (c.workbookPath s) (s :: rest) x.disk with
        | mk result d₁ =>
          cases result with
          | error e => rfl
          | ok reports =>
            -- The next group is of another workbook than the one that is open now.
            have hnext : ∀ g ∈ groups.head?, ∀ s' ∈ g.head?,
                openedAs? ⟨some (s.source.workbook, w), d₁⟩ s'.source.workbook = none := by
              intro g hg s' hs'
              obtain ⟨_, hne, hdiffers⟩ := hchain.1 g hg
              rw [List.head?_eq_some_head hne] at hs'
              obtain rfl := Option.some.inj hs'
              have hlast : ∀ s' ∈ s :: rest, s.source.workbook = s'.source.workbook :=
                List.forall_mem_cons.2 ⟨rfl, (List.pairwise_cons.1 hgroups.1).1⟩
              rw [← hlast _ (List.getLast_mem _)] at hdiffers
              simp [openedAs?, hdiffers]
            have hrest := ih (x := ⟨some (s.source.workbook, w), d₁⟩) hgroups.2 hnil.2 hchain.2 hnext
            simp only [hrest]

end Session

/-- Neighbours in a group have one workbook, and so do any two masters of it. -/
theorem pairwise_of_mem_splitBy {schemas g : List MasterSchema}
    (hg : g ∈ schemas.splitBy fun a b => a.source.workbook == b.source.workbook) :
    g.Pairwise fun a b => a.source.workbook = b.source.workbook := by
  have hchain := (List.isChain_of_mem_splitBy hg).imp
    (S := fun a b => a.source.workbook = b.source.workbook) fun a b h => by simpa using h
  have : IsTrans MasterSchema fun a b => a.source.workbook = b.source.workbook :=
    ⟨fun _ _ _ h h' => h.trans h'⟩
  exact List.isChain_iff_pairwise.1 hchain

/-- Materializing a project is a run over the entries of its manifest. -/
theorem materialize_eq_run {c : Config} {d : Disk} {m : Manifest}
    (hm : Manifest.load d c.generatedFolder = .ok m) :
    materialize c d
      = ((Session.run c m.masters (.start d)).1, (Session.run c m.masters (.start d)).2.disk) := by
  have hchain := (List.isChain_getLast_head_splitBy
    (fun a b : MasterSchema => a.source.workbook == b.source.workbook) m.masters).imp
    (S := fun g g' => ∃ hg hg', (g.getLast hg).source.workbook ≠ (g'.head hg').source.workbook)
    fun g g' ⟨hg, hg', hdiffers⟩ => ⟨hg, hg', by simpa using hdiffers⟩
  have hgroups := Session.materializeGroups_eq_run (c := c) (x := .start d)
    (fun g hg => pairwise_of_mem_splitBy hg) (List.nil_notMem_splitBy _ _) hchain
    (fun _ _ _ _ => rfl)
  rw [List.flatten_splitBy] at hgroups
  unfold materialize
  rw [hm]
  exact hgroups

end MasterData
