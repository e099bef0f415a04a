-- SUMMARY: Which sheets a scan visits, and how it ends.
import MasterData.Proofs.Sheet
import MasterData.Proofs.Workbook.DocumentText
import MasterData.Proofs.Workbook.Opening

/-! # Scanned sheets

A scan goes through the names of the sheets and reads each sheet by its name, which gives the first
one of that name. So it visits the sheets of a document themselves as long as those of one name have
the same anchored content; otherwise a sheet takes the place of another one behind it. Through several
workbooks a scan is some visits that succeed, and an end: there is nothing left, a workbook fails, or the
next visit does. It succeeds exactly if all sheets can be read and all visits succeed. Main statements:
`exists_visitEach_of_scanWorkbooks`, `scanWorkbooks_eq_ok_iff` and
`Document.scan_visits_first_of_each_name`.
-/

namespace MasterData

/-! ## Visits -/

/-- The anchored sheet that a scan finds in a sheet. -/
def Sheet.hit? (path : String) (s : Sheet) : Option ScanHit :=
  s.findAnchor?.map (⟨path, s, ·⟩)

/-- A sheet with the first of its anchor marks, row by row. -/
structure ScanHit.IsFirstMark (hit : ScanHit) : Prop where
  marked : hit.sheet.cell? hit.anchor = some (.text Sheet.anchorMark)
  first : ∀ a, hit.sheet.cell? a = some (.text Sheet.anchorMark) →
    a = hit.anchor ∨ hit.anchor.row < a.row ∨ hit.anchor.row = a.row ∧ hit.anchor.col < a.col

theorem Sheet.hit?_eq_some_iff {path : String} {s : Sheet} {hit : ScanHit} :
    s.hit? path = some hit ↔ hit.workbook = path ∧ hit.sheet = s ∧ hit.IsFirstMark := by
  obtain ⟨workbook, sheet, anchor⟩ := hit
  simp only [hit?, Option.map_eq_some_iff, ScanHit.mk.injEq]
  constructor
  · rintro ⟨a, ha, rfl, rfl, rfl⟩
    obtain ⟨hmark, hfirst⟩ := findAnchor?_eq_some_iff.1 ha
    exact ⟨rfl, rfl, hmark, fun b hb => (hfirst b hb).imp_right Address.compare_eq_lt_iff.1⟩
  · rintro ⟨rfl, rfl, hmark, hfirst⟩
    refine ⟨anchor, findAnchor?_eq_some_iff.2 ⟨hmark, fun b hb => ?_⟩, rfl, rfl, rfl⟩
    exact (hfirst b hb).imp_right Address.compare_eq_lt_iff.2

/-- A sheet is passed over only if no cell has the anchor mark. -/
theorem Sheet.hit?_eq_none_iff {path : String} {s : Sheet} :
    s.hit? path = none ↔ ∀ a, s.cell? a ≠ some (.text anchorMark) := by
  rw [hit?, Option.map_eq_none_iff, findAnchor?_eq_none_iff]

section Visits

variable {ε σ : Type}

/-- Visits some sheets in order until a visit fails. -/
def visitEach (visit : ScanHit → σ → Except ε Unit × σ) : List ScanHit → σ → Except ε Unit × σ
  | [], state => (.ok (), state)
  | hit :: hits, state =>
    match visit hit state with
    | (.error e, state) => (.error e, state)
    | (.ok (), state) => visitEach visit hits state

/-- Visits some sheets in order until a visit fails. Gives the number of sheets if none failed. -/
def visitAll (visit : ScanHit → σ → Except ε Unit × σ) (hits : List ScanHit) (state : σ) :
    Except ε Nat × σ :=
  let (result, state) := visitEach visit hits state
  (result.map fun () => hits.length, state)

theorem visitAll_cons (visit : ScanHit → σ → Except ε Unit × σ) (hit : ScanHit)
    (hits : List ScanHit) (state : σ) :
    visitAll visit (hit :: hits) state
      = match visit hit state with
        | (.error e, state) => (.error e, state)
        | (.ok (), state) =>
          let (count, state) := visitAll visit hits state
          (count.map (· + 1), state) := by
  simp only [visitAll, visitEach]
  rcases visit hit state with ⟨_ | ⟨⟩, state⟩
  · rfl
  · simp only
    rcases visitEach visit hits state with ⟨_ | _, _⟩ <;> rfl

/-- A visit that notes what it is given. -/
def note (hit : ScanHit) (noted : List ScanHit) : Except ε Unit × List ScanHit :=
  (.ok (), noted ++ [hit])

theorem visitAll_note (hits noted : List ScanHit) :
    visitAll note hits noted = ((.ok hits.length : Except ε Nat), noted ++ hits) := by
  induction hits generalizing noted with
  | nil => rw [List.append_nil]; rfl
  | cons hit hits ih => simp [visitAll_cons, note, ih, Except.map]

theorem visitEach_append {visit : ScanHit → σ → Except ε Unit × σ} {hits : List ScanHit}
    {state state' : σ} (h : visitEach visit hits state = (.ok (), state')) (more : List ScanHit) :
    visitEach visit (hits ++ more) state = visitEach visit more state' := by
  induction hits generalizing state with
  | nil =>
    cases h
    rfl
  | cons hit hits ih =>
    unfold visitEach at h
    split at h
    · cases h
    · rename_i heq
      rw [List.cons_append, visitEach, heq]
      exact ih h

theorem visitEach_invariant {I : σ → Prop} {visit : ScanHit → σ → Except ε Unit × σ}
    {hits : List ScanHit} (hvisit : ∀ hit ∈ hits, ∀ state, I state → I (visit hit state).2)
    {state : σ} (h : I state) : I (visitEach visit hits state).2 := by
  induction hits generalizing state with
  | nil => exact h
  | cons hit hits ih =>
    rw [List.forall_mem_cons] at hvisit
    have hfirst := hvisit.1 state h
    unfold visitEach
    split
    · rename_i heq
      rw [heq] at hfirst
      exact hfirst
    · rename_i heq
      rw [heq] at hfirst
      exact ih hvisit.2 hfirst

end Visits

/-! ## Ends of a scan -/

/-- A workbook fails: it cannot be opened, or one of its sheets cannot be read. -/
inductive Workbook.FailsAt (d : Disk) (path : String) : WorkbookError → Prop where
  | opening {failure : WorkbookError} (h : openAt d path = .error failure) : FailsAt d path failure
  | reading {w : Workbook} {name : String} {failure : WorkbookError} (hw : openAt d path = .ok w)
    (hname : name ∈ w.sheetNames) (h : w.readSheet name = .error failure) :
    FailsAt d path (failure.inWorkbook path)

section Ends

variable {σ : Type} {d : Disk} {paths : List String} {path : String} {w : Workbook}
  {names : List String}

/-- How a scan ends behind some visits: it has no more to visit, it comes to a workbook that fails, or
the next visit fails. -/
def ScanEnds (visit : ScanHit → σ → Except ProjectError Unit × σ) (d : Disk) (paths : List String)
    (before : σ) (result : Except ProjectError Unit) (after : σ) : Prop :=
  match result with
  | .ok () => after = before
  | .error e =>
    (after = before ∧ ∃ path ∈ paths, ∃ failure, Workbook.FailsAt d path failure
      ∧ e = .workbook failure)
    ∨ ∃ hit : ScanHit, hit.IsIn d paths ∧ visit hit before = (.error e, after)

/-- A scan of sheets makes visits that all succeed, and then it ends. -/
theorem exists_visitEach_of_scanSheets (visit : ScanHit → σ → Except ProjectError Unit × σ)
    (hpath : path ∈ paths) (hw : Workbook.openAt d path = .ok w)
    (hnames : ∀ name ∈ names, name ∈ w.sheetNames) (state : σ) :
    ∃ hits before, (∀ hit ∈ hits, hit.IsIn d paths) ∧ visitEach visit hits state = (.ok (), before)
      ∧ ScanEnds visit d paths before
        ((w.reader.scanSheets path .workbook visit names state).1.map fun _ => ())
        (w.reader.scanSheets path .workbook visit names state).2 := by
  induction names generalizing state with
  | nil => exact ⟨[], state, by simp, rfl, rfl⟩
  | cons name names ih =>
    rw [List.forall_mem_cons] at hnames
    have ih (state : σ) := ih hnames.2 state
    unfold WorkbookReader.scanSheets
    split
    · rename_i failure hfailure
      exact ⟨[], state, by simp, rfl, .inl ⟨rfl, path, hpath, _, .reading hw hnames.1 hfailure, rfl⟩⟩
    · rename_i sheet hsheet
      split
      · exact ih state
      · rename_i anchor hanchor
        have hname : sheet.name = name := Workbook.name_of_readSheet hsheet
        have hin : ScanHit.IsIn d paths ⟨path, sheet, anchor⟩ := by
          refine ⟨hpath, ⟨w, hw, hname ▸ hnames.1, ?_⟩, hanchor⟩
          rw [hname]
          exact hsheet
        split
        · rename_i heq
          exact ⟨[], state, by simp, rfl, .inr ⟨_, hin, heq⟩⟩
        · rename_i after heq
          obtain ⟨hits, before, hhits, hvisits, hend⟩ := ih after
          refine ⟨_ :: hits, before, List.forall_mem_cons.2 ⟨hin, hhits⟩, ?_, ?_⟩
          · rw [visitEach, heq]
            exact hvisits
          · generalize w.reader.scanSheets path .workbook visit names after = result at hend ⊢
            rcases result with ⟨_ | _, last⟩
            · exact hend
            · exact hend

/-- A scan of workbooks makes visits that all succeed, and then it ends. -/
theorem exists_visitEach_of_scanWorkbooks (visit : ScanHit → σ → Except ProjectError Unit × σ)
    (d : Disk) (paths : List String) (state : σ) :
    ∃ hits before, (∀ hit ∈ hits, hit.IsIn d paths) ∧ visitEach visit hits state = (.ok (), before)
      ∧ ScanEnds visit d paths before (scanWorkbooks d visit paths state).1
        (scanWorkbooks d visit paths state).2 := by
  -- As a hit names all paths of the scan, the induction runs over the part that is left of them.
  have hsub : ∀ rest, (∀ path ∈ rest, path ∈ paths) → ∀ state, ∃ hits before,
      (∀ hit ∈ hits, hit.IsIn d paths) ∧ visitEach visit hits state = (.ok (), before)
        ∧ ScanEnds visit d paths before (scanWorkbooks d visit rest state).1
          (scanWorkbooks d visit rest state).2 := by
    intro rest
    induction rest with
    | nil => exact fun _ state => ⟨[], state, by simp, rfl, rfl⟩
    | cons path rest ih =>
      intro hrest state
      rw [List.forall_mem_cons] at hrest
      unfold scanWorkbooks
      split
      · rename_i failure hfailure
        exact ⟨[], state, by simp, rfl,
          .inl ⟨rfl, path, hrest.1, failure, .opening hfailure, rfl⟩⟩
      · rename_i w hw
        obtain ⟨hits, before, hhits, hvisits, hend⟩ :=
          exists_visitEach_of_scanSheets visit hrest.1 hw (fun _ hname => hname) state
        have hscan : w.reader.scan path .workbook visit state
            = w.reader.scanSheets path .workbook visit w.sheetNames state := rfl
        rw [hscan]
        generalize w.reader.scanSheets path .workbook visit w.sheetNames state = result at hend ⊢
        rcases result with ⟨e | _, after⟩
        · exact ⟨hits, before, hhits, hvisits, hend⟩
        · obtain rfl : after = before := hend
          obtain ⟨more, last, hmore, hlater, hend⟩ := ih hrest.2 after
          refine ⟨hits ++ more, last, List.forall_mem_append.2 ⟨hhits, hmore⟩, ?_, hend⟩
          rw [visitEach_append hvisits, hlater]
  exact hsub paths (fun _ hpath => hpath) state

/-- What every visit of an anchored sheet keeps holds at the end of a scan, also of a failed one. -/
theorem scanWorkbooks_invariant {I : σ → Prop} {visit : ScanHit → σ → Except ProjectError Unit × σ}
    (hvisit : ∀ hit state, hit.IsIn d paths → I state → I (visit hit state).2) {state : σ}
    (h : I state) : I (scanWorkbooks d visit paths state).2 := by
  obtain ⟨hits, before, hhits, hvisits, hend⟩ :=
    exists_visitEach_of_scanWorkbooks visit d paths state
  have hbefore : I before := by
    have hall := visitEach_invariant (fun hit hhit state => hvisit hit state (hhits hit hhit)) h
    rwa [hvisits] at hall
  generalize scanWorkbooks d visit paths state = result at hend ⊢
  rcases result with ⟨e | _, after⟩
  · rcases hend with ⟨hafter, -⟩ | ⟨hit, hin, hlast⟩
    · exact hafter ▸ hbefore
    · have hafter := hvisit hit before hin hbefore
      rwa [hlast] at hafter
  · exact hend ▸ hbefore

end Ends

/-! ## Scans that succeed -/

namespace Workbook

/-- The anchored sheet that a scan finds under a name. -/
def hit? (w : Workbook) (path name : String) : Option ScanHit :=
  (w.readSheet name).toOption.bind (Sheet.hit? path)

/-- The anchored sheets that a scan finds, in the order of the names. -/
def hits (w : Workbook) (path : String) : List ScanHit :=
  w.sheetNames.filterMap (w.hit? path)

/-- Every sheet can be read. -/
def IsReadable (w : Workbook) : Prop :=
  ∀ name ∈ w.sheetNames, ∃ s, w.readSheet name = .ok s

theorem hit?_of_readSheet {w : Workbook} {name : String} {s : Sheet} (h : w.readSheet name = .ok s)
    (path : String) : w.hit? path name = s.hit? path := by
  rw [hit?, h]
  rfl

end Workbook

/-- The anchored sheets of the workbook at a path. -/
def Disk.hitsAt (d : Disk) (path : String) : List ScanHit :=
  match Workbook.openAt d path with
  | .ok w => w.hits path
  | .error _ => []

/-- They are the anchored sheets that the workbook gives under their own names. -/
theorem ScanHit.isIn_iff {d : Disk} {paths : List String} {hit : ScanHit} :
    hit.IsIn d paths ↔ hit ∈ paths.flatMap d.hitsAt := by
  rw [List.mem_flatMap]
  constructor
  · rintro ⟨hpath, ⟨w, hw, hname, hread⟩, hanchor⟩
    refine ⟨hit.workbook, hpath, ?_⟩
    rw [Disk.hitsAt, hw]
    refine List.mem_filterMap.2 ⟨hit.sheet.name, hname, ?_⟩
    rw [Workbook.hit?_of_readSheet hread, Sheet.hit?, hanchor]
    rfl
  · rintro ⟨path, hpath, hhit⟩
    rw [Disk.hitsAt] at hhit
    split at hhit
    · rename_i w hw
      obtain ⟨name, hname, hhit⟩ := List.mem_filterMap.1 hhit
      obtain ⟨s, hread, hhit⟩ := Option.bind_eq_some_iff.1 hhit
      have hread : w.readSheet name = .ok s := by
        cases h : w.readSheet name with
        | error e =>
          rw [h] at hread
          cases hread
        | ok s' =>
          rw [h] at hread
          exact congrArg Except.ok (Option.some.inj hread)
      obtain ⟨anchor, hanchor, rfl⟩ := Option.map_eq_some_iff.1 hhit
      obtain rfl := Workbook.name_of_readSheet hread
      exact ⟨hpath, ⟨w, hw, hname, hread⟩, hanchor⟩
    · cases hhit

section Succeeded

variable {ε σ : Type} {visit : ScanHit → σ → Except ε Unit × σ} {state after : σ}

theorem visitEach_cons_eq_ok_iff {hit : ScanHit} {hits : List ScanHit} :
    visitEach visit (hit :: hits) state = (.ok (), after)
      ↔ ∃ next, visit hit state = (.ok (), next) ∧ visitEach visit hits next = (.ok (), after) := by
  rw [visitEach]
  rcases visit hit state with ⟨e | _, next⟩ <;> simp

theorem visitEach_append_eq_ok_iff {hits more : List ScanHit} :
    visitEach visit (hits ++ more) state = (.ok (), after)
      ↔ ∃ next, visitEach visit hits state = (.ok (), next)
        ∧ visitEach visit more next = (.ok (), after) := by
  induction hits generalizing state with
  | nil => simp [visitEach]
  | cons hit hits ih =>
    simp only [List.cons_append, visitEach_cons_eq_ok_iff, ih]
    exact ⟨fun ⟨m, hm, n, hn, hlast⟩ => ⟨n, ⟨m, hm, hn⟩, hlast⟩,
      fun ⟨n, ⟨m, hm, hn⟩, hlast⟩ => ⟨m, hm, n, hn, hlast⟩⟩

/-- A scan of sheets that succeeds reads the first one, visits it if it is anchored, and goes on. -/
theorem scanSheets_cons_eq_ok_iff {w : Workbook} {path name : String} {fail : WorkbookError → ε}
    {names : List String} :
    (∃ n, w.reader.scanSheets path fail visit (name :: names) state = (.ok n, after))
      ↔ ∃ s, w.readSheet name = .ok s
        ∧ (s.hit? path = none
            ∧ (∃ n, w.reader.scanSheets path fail visit names state = (.ok n, after))
          ∨ ∃ hit next, s.hit? path = some hit ∧ visit hit state = (.ok (), next)
            ∧ ∃ n, w.reader.scanSheets path fail visit names next = (.ok n, after)) := by
  have hread : w.reader.readSheet name = w.readSheet name := rfl
  simp only [WorkbookReader.scanSheets, hread]
  cases w.readSheet name with
  | error failure => simp
  | ok s =>
    cases hanchor : s.findAnchor? with
    | none => simp [Sheet.hit?, hanchor]
    | some anchor =>
      rcases hvisit : visit ⟨path, s, anchor⟩ state with ⟨e | _, next⟩
      · simp [Sheet.hit?, hanchor, hvisit]
      · rcases hrest : w.reader.scanSheets path fail visit names next with ⟨e | n, last⟩
        · simp [Sheet.hit?, hanchor, hvisit, hrest, Except.map]
        · simp [Sheet.hit?, hanchor, hvisit, hrest, Except.map]

/-- A scan of sheets succeeds if each of them can be read and each visit of an anchored one succeeds. -/
theorem scanSheets_eq_ok_iff {w : Workbook} {path : String} {fail : WorkbookError → ε}
    {names : List String} :
    (∃ n, w.reader.scanSheets path fail visit names state = (.ok n, after))
      ↔ (∀ name ∈ names, ∃ s, w.readSheet name = .ok s)
        ∧ visitEach visit (names.filterMap (w.hit? path)) state = (.ok (), after) := by
  induction names generalizing state with
  | nil => simp [WorkbookReader.scanSheets, visitEach]
  | cons name names ih =>
    rw [scanSheets_cons_eq_ok_iff, List.forall_mem_cons]
    cases hsheet : w.readSheet name with
    | error failure => simp
    | ok s =>
      rw [List.filterMap_cons, Workbook.hit?_of_readSheet hsheet]
      cases hhit : s.hit? path with
      | none => simp [hhit, ih]
      | some hit =>
        simp only [Except.ok.injEq, exists_eq_left', hhit, reduceCtorEq, false_and, false_or,
          Option.some.injEq, exists_and_left, exists_eq', true_and, ih, visitEach_cons_eq_ok_iff]
        exact ⟨fun ⟨next, hnext, hread, hrest⟩ => ⟨hread, next, hnext, hrest⟩,
          fun ⟨hread, next, hnext, hrest⟩ => ⟨next, hnext, hread, hrest⟩⟩

theorem scanWorkbooks_cons_eq_ok_iff {visit : ScanHit → σ → Except ProjectError Unit × σ} {d : Disk}
    {path : String} {paths : List String} :
    scanWorkbooks d visit (path :: paths) state = (.ok (), after)
      ↔ ∃ w next, Workbook.openAt d path = .ok w
        ∧ (∃ n, w.reader.scanSheets path .workbook visit w.sheetNames state = (.ok n, next))
        ∧ scanWorkbooks d visit paths next = (.ok (), after) := by
  rw [scanWorkbooks]
  cases Workbook.openAt d path with
  | error failure => simp
  | ok w =>
    have hscan : w.reader.scan path .workbook visit state
        = w.reader.scanSheets path .workbook visit w.sheetNames state := rfl
    simp only [hscan]
    rcases hrun : w.reader.scanSheets path .workbook visit w.sheetNames state with ⟨e | n, next⟩
    · simp [hrun]
    · simp [hrun]

/-- A scan of workbooks succeeds if each of them opens, all their sheets can be read, and each visit of
an anchored one succeeds. -/
theorem scanWorkbooks_eq_ok_iff {visit : ScanHit → σ → Except ProjectError Unit × σ} {d : Disk}
    {paths : List String} :
    scanWorkbooks d visit paths state = (.ok (), after)
      ↔ (∀ path ∈ paths, ∃ w, Workbook.openAt d path = .ok w ∧ w.IsReadable)
        ∧ visitEach visit (paths.flatMap d.hitsAt) state = (.ok (), after) := by
  induction paths generalizing state with
  | nil => simp [scanWorkbooks, visitEach]
  | cons path paths ih =>
    rw [scanWorkbooks_cons_eq_ok_iff, List.forall_mem_cons, List.flatMap_cons, Disk.hitsAt,
      visitEach_append_eq_ok_iff]
    cases hw : Workbook.openAt d path with
    | error failure => simp
    | ok w =>
      simp only [scanSheets_eq_ok_iff, ih, Except.ok.injEq, exists_and_left, exists_eq_left',
        Workbook.hits, Workbook.IsReadable]
      exact ⟨fun ⟨next, ⟨hread, hhits⟩, hopen, hrest⟩ => ⟨⟨hread, hopen⟩, next, hhits, hrest⟩,
        fun ⟨⟨hread, hopen⟩, next, hhits, hrest⟩ => ⟨next, ⟨hread, hhits⟩, hopen, hrest⟩⟩

end Succeeded

/-! ## Picked values -/

section Picked

variable {α β κ : Type} {f g : α → Option β} {l : List α}

/-- A function that picks as often from a list as if it picked the same of all items does so. -/
theorem eq_of_filterMap_eq_const {o : Option β} (h : l.filterMap f = l.filterMap fun _ => o) :
    ∀ a ∈ l, f a = o := by
  intro a ha
  cases o with
  | none =>
    rw [List.filterMap_none] at h
    exact List.filterMap_eq_nil_iff.1 h a ha
  | some b =>
    rw [List.filterMap_eq_map'] at h
    have hall : ∀ a' ∈ l, (f a').isSome := by
      rw [← List.filterMap_length_eq_length, h, List.length_map]
    obtain ⟨b', hb'⟩ := Option.isSome_iff_exists.1 (hall a ha)
    have hmem : b' ∈ l.map fun _ => b := h ▸ List.mem_filterMap.2 ⟨a, ha, hb'⟩
    obtain ⟨-, -, rfl⟩ := List.mem_map.1 hmem
    exact hb'

variable [DecidableEq κ] {key : α → κ} {keyOf : β → κ}

theorem filterMap_filter_key (hf : ∀ a b, f a = some b → keyOf b = key a) (l : List α) (k : κ) :
    (l.filter fun a => key a = k).filterMap f = (l.filterMap f).filter fun b => keyOf b = k := by
  rw [List.filterMap_filter, List.filter_filterMap]
  refine List.filterMap_congr fun a _ => ?_
  cases hfa : f a with
  | none => simp
  | some b => simp [Option.filter, hf a b hfa]

/-- Two functions pick values from a list, each value under the key of its item, and the second one
depends on the key alone. If they pick the same values, they agree on the items. -/
theorem eq_of_filterMap_eq (hf : ∀ a b, f a = some b → keyOf b = key a)
    (hg : ∀ a b, g a = some b → keyOf b = key a) (hkey : ∀ a a', key a = key a' → g a = g a')
    (h : l.filterMap f = l.filterMap g) : ∀ a ∈ l, f a = g a := by
  intro a ha
  -- Among the items with the key of `a`, the second function picks the same of all.
  let same := l.filter fun a' => key a' = key a
  have hconst : same.filterMap g = same.filterMap fun _ => g a :=
    List.filterMap_congr fun a' ha' => hkey a' a (of_decide_eq_true (List.mem_filter.1 ha').2)
  have hsame : same.filterMap f = same.filterMap fun _ => g a := by
    rw [← hconst, filterMap_filter_key hf, filterMap_filter_key hg, h]
  exact eq_of_filterMap_eq_const hsame a (List.mem_filter.2 ⟨ha, decide_eq_true rfl⟩)

end Picked

/-! ## Scans of a document -/

namespace Document

variable {d : Document} {path : String}

/-- The anchored sheet that a scan finds under a name. -/
def hit? (d : Document) (path name : String) : Option ScanHit :=
  (d.sheet? name).bind (Sheet.hit? path)

/-- The anchored ones among the sheets of a document. -/
def ownHits (d : Document) (path : String) : List ScanHit :=
  d.sheets.filterMap fun s => s.toSheet.hit? path

/-- The anchored ones among the sheets that the names of the sheets stand for. -/
def namedHits (d : Document) (path : String) : List ScanHit :=
  d.sheets.filterMap fun s => d.hit? path s.name

theorem scanSheets_eq_visitAll {ε σ : Type} (d : Document) (path : String)
    (fail : WorkbookError → ε) (visit : ScanHit → σ → Except ε Unit × σ) {names : List String}
    (hnames : ∀ name ∈ names, name ∈ d.sheetNames) (state : σ) :
    (Workbook.document d).reader.scanSheets path fail visit names state
      = visitAll visit (names.filterMap (d.hit? path)) state := by
  induction names generalizing state with
  | nil => rfl
  | cons name names ih =>
    have ih := ih fun n hn => hnames n (List.mem_cons_of_mem _ hn)
    have hsheet : d.sheet? name = some (d.content name) := by
      rw [sheet?_eq, if_pos (hnames name (List.mem_cons_self ..))]
    have hread : (Workbook.document d).reader.readSheet name = .ok (d.content name) := by
      simp only [Workbook.reader, Workbook.readSheet, hsheet]
    have hhit : d.hit? path name = (d.content name).findAnchor?.map (⟨path, d.content name, ·⟩) := by
      rw [hit?, hsheet, Option.bind_some, Sheet.hit?]
    rw [WorkbookReader.scanSheets, hread, List.filterMap_cons, hhit]
    cases hanchor : (d.content name).findAnchor? with
    | none =>
      simp only [hanchor, Option.map_none]
      exact ih state
    | some anchor =>
      simp only [hanchor, Option.map_some, visitAll_cons, ih]
      rfl

/-- A scan visits the anchored sheets that the names stand for, in the order of the names. -/
theorem scan_eq_visitAll {ε σ : Type} (d : Document) (path : String) (fail : WorkbookError → ε)
    (visit : ScanHit → σ → Except ε Unit × σ) (state : σ) :
    (Workbook.document d).reader.scan path fail visit state
      = visitAll visit (d.namedHits path) state := by
  have hscan : (Workbook.document d).reader.scan path fail visit state
      = (Workbook.document d).reader.scanSheets path fail visit d.sheetNames state := rfl
  rw [hscan, scanSheets_eq_visitAll d path fail visit fun _ h => h, sheetNames, List.filterMap_map]
  rfl

/-! ## The sheets themselves -/

/-- A scan visits the anchored sheets of the document themselves, whatever a visit does. -/
def ScansOwnSheets (d : Document) (path : String) : Prop :=
  ∀ {ε σ : Type} (fail : WorkbookError → ε) (visit : ScanHit → σ → Except ε Unit × σ) (state : σ),
    (Workbook.document d).reader.scan path fail visit state = visitAll visit (d.ownHits path) state

theorem scansOwnSheets_iff_hits : d.ScansOwnSheets path ↔ d.namedHits path = d.ownHits path := by
  constructor
  · -- A visit that notes all it is given tells two lists of sheets apart.
    intro h
    have hnoted := h id note []
    rw [scan_eq_visitAll, visitAll_note, visitAll_note] at hnoted
    exact congrArg Prod.snd hnoted
  · intro h ε σ fail visit state
    rw [scan_eq_visitAll, h]

/-- The sheets themselves are visited exactly if each is seen as the first one of its name. -/
theorem scansOwnSheets_iff :
    d.ScansOwnSheets path ↔ ∀ s ∈ d.sheets, s.toSheet.hit? path = d.hit? path s.name := by
  rw [scansOwnSheets_iff_hits]
  constructor
  · intro h
    have hown : ∀ (s : DocumentSheet) hit, s.toSheet.hit? path = some hit →
        hit.sheet.name = s.name := by
      intro s hit hhit
      rw [(Sheet.hit?_eq_some_iff.1 hhit).2.1, DocumentSheet.name_toSheet]
    have hnamed : ∀ (s : DocumentSheet) hit, d.hit? path s.name = some hit →
        hit.sheet.name = s.name := by
      intro s hit hhit
      obtain ⟨sheet, hsheet, hhit⟩ := Option.bind_eq_some_iff.1 hhit
      rw [(Sheet.hit?_eq_some_iff.1 hhit).2.1, name_of_sheet? hsheet]
    have hname : ∀ s s' : DocumentSheet, s.name = s'.name → d.hit? path s.name = d.hit? path s'.name :=
      fun s s' h => congrArg (d.hit? path) h
    exact eq_of_filterMap_eq hown hnamed hname h.symm
  · intro h
    exact List.filterMap_congr fun s hs => (h s hs).symm

/-- A scan visits, in the order of the names and up to the first failure, the anchored ones among the
sheets that the names stand for, each with its content and its first anchor mark; without a failure
it gives their number. These are the sheets of the document themselves exactly if each of them is seen
as the first one of its name, as it is where no name is repeated. -/
theorem scan_visits_first_of_each_name (d : Document) (path : String) :
    (∀ {ε σ : Type} (fail : WorkbookError → ε) (visit : ScanHit → σ → Except ε Unit × σ) (state : σ),
      (Workbook.document d).reader.scan path fail visit state
        = visitAll visit (d.namedHits path) state)
      ∧ (∀ (s : Sheet) (hit : ScanHit),
        s.hit? path = some hit ↔ hit.workbook = path ∧ hit.sheet = s ∧ hit.IsFirstMark)
      ∧ (∀ s : Sheet, s.hit? path = none ↔ ∀ a, s.cell? a ≠ some (.text Sheet.anchorMark))
      ∧ (d.ScansOwnSheets path ↔ ∀ s ∈ d.sheets, s.toSheet.hit? path = d.hit? path s.name)
      ∧ (d.sheetNames.Nodup → d.ScansOwnSheets path) := by
  refine ⟨d.scan_eq_visitAll path, fun s hit => Sheet.hit?_eq_some_iff,
    fun s => Sheet.hit?_eq_none_iff, scansOwnSheets_iff, ?_⟩
  intro hnodup
  refine scansOwnSheets_iff.2 fun s hs => ?_
  rw [hit?, sheet?_of_nodup hnodup hs, Option.bind_some]

/-- Two sheets of one name, anchored at different cells. -/
def twins : Document :=
  let sheet (a : Address) : DocumentSheet := ⟨"S", [⟨a, some (.text "@")⟩], none, false⟩
  ⟨1, [sheet ⟨0, 0⟩, sheet ⟨1, 1⟩]⟩

/-- A file may hold two sheets of one name; of these the first one is visited twice. -/
theorem not_scansOwnSheets_twins :
    parse? (Text.symbols twins.render) = some twins
      ∧ (twins.namedHits "book.json").map (·.anchor) = [⟨0, 0⟩, ⟨0, 0⟩]
      ∧ (twins.ownHits "book.json").map (·.anchor) = [⟨0, 0⟩, ⟨1, 1⟩]
      ∧ ¬ twins.ScansOwnSheets "book.json" := by
  have hnamed : (twins.namedHits "book.json").map (·.anchor) = [⟨0, 0⟩, ⟨0, 0⟩] := by decide +kernel
  have hown : (twins.ownHits "book.json").map (·.anchor) = [⟨0, 0⟩, ⟨1, 1⟩] := by decide +kernel
  refine ⟨parse?_render (by simp [ReadsBack, twins, Cell.ReadsBack]), hnamed, hown, fun h => ?_⟩
  have hanchors := congrArg (List.map (·.anchor)) (scansOwnSheets_iff_hits.1 h)
  rw [hnamed, hown] at hanchors
  exact absurd hanchors (by decide)

end Document

end MasterData
