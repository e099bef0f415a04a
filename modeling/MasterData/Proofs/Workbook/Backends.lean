-- SUMMARY: Workbooks behind readers that may do anything, and why a scan of them stops.
import MasterData.Proofs.Workbook.Scan

/-! # Backends

Spreadsheets are read by a backend that is not part of this library. Here it may do anything: what it
opens has a state of its own that reading may change, and each call may fail with a message. Everything
around it stays as it is: the dispatch on the extension, the documents, and the scan. A scan stops at the
first call that fails, with that failure in the context of its workbook, or at the first visit that
fails, with that failure as it is. Main statements: `scanSheets_eq_error_iff`,
`scanWorkbooks_eq_error_iff` and `Stops.isAbout`.
-/

namespace MasterData

/-! ## Failures of calls -/

/-- What is done with a success takes no part in a failure. -/
theorem map_eq_error_iff {ε α β : Type} {result : Except ε α} {g : α → β} {e : ε} :
    result.map g = .error e ↔ result = .error e := by
  cases result <;> simp [Except.map]

namespace WorkbookError

/-- How often a failure is put into the context of a workbook. -/
def wraps : WorkbookError → Nat
  | reading _ failure => failure.wraps + 1
  | _ => 0

/-- A failure as a call on the workbook at a path gives it: it is in no context yet, and names no other
file. -/
structure IsAbout (path : String) (raw : WorkbookError) : Prop where
  wraps_eq : raw.wraps = 0
  path?_eq : ∀ file, raw.path? = some file → file = path

/-- A failure that names the workbook at a path. It is in the context of a workbook once at most, and
being put into another one leaves it as it is. -/
structure Names (path : String) (failure : WorkbookError) : Prop where
  path?_eq : failure.path? = some path
  wraps_le : failure.wraps ≤ 1
  inWorkbook_eq : ∀ other, failure.inWorkbook other = failure

theorem wraps_inWorkbook (e : WorkbookError) (path : String) :
    (e.inWorkbook path).wraps = if e.path?.isSome then e.wraps else 1 := by
  cases e <;> simp [inWorkbook, path?, wraps]

theorem IsAbout.names {path : String} {raw : WorkbookError} (h : raw.IsAbout path) :
    (raw.inWorkbook path).Names path where
  path?_eq := by
    rw [path?_inWorkbook]
    cases hfile : raw.path? with
    | none => rfl
    | some file => rw [h.path?_eq file hfile, Option.getD_some]
  wraps_le := by
    rw [wraps_inWorkbook, h.wraps_eq]
    split <;> decide
  inWorkbook_eq other := inWorkbook_inWorkbook raw path other

theorem isAbout_of_path?_eq_none {path : String} {raw : WorkbookError} (h : raw.path? = none) :
    raw.IsAbout path where
  wraps_eq := by cases raw <;> simp_all [wraps, path?]
  path?_eq file hfile := by simp [h] at hfile

end WorkbookError

/-! ## Readers -/

/-- What it takes to walk through the sheets of opened workbooks, where reading may change what is
opened. -/
structure SheetReader (ω : Type) where
  sheetNames : ω → Except WorkbookError (List String)
  readSheet : ω → String → Except WorkbookError Sheet × ω

/-- A reader of spreadsheets that may do anything. Its failures are known by their messages. -/
structure SpreadsheetBackend (ρ : Type) where
  openAt : Disk → String → Except String ρ
  sheetNames : ρ → Except String (List String)
  readSheet : ρ → String → Except String Sheet × ρ

/-- A workbook opened by the backend that fits its extension. -/
inductive OpenedWorkbook (ρ : Type) where
  | document (d : Document)
  | spreadsheet (r : ρ)

/-- Why a scan stops. -/
inductive Stop (ε : Type) where
  /-- A call on the workbook at a path failed. -/
  | call (path : String) (raw : WorkbookError)
  /-- A visit failed. -/
  | visit (e : ε)

/-- The failure that a scan stops with. -/
def Stop.error {ε : Type} (fail : WorkbookError → ε) : Stop ε → ε
  | call path raw => fail (raw.inWorkbook path)
  | visit e => e

namespace SheetReader

variable {ω ε σ : Type}

/-- Visits the anchored ones among the named sheets, carrying a state along. -/
def scanSheets (reader : SheetReader ω) (path : String) (fail : WorkbookError → ε)
    (visit : ScanHit → σ → Except ε Unit × σ) : List String → ω → σ → Except ε Nat × σ
  | [], _, state => (.ok 0, state)
  | name :: names, w, state =>
    match reader.readSheet w name with
    | (.error e, _) => (.error (fail (e.inWorkbook path)), state)
    | (.ok sheet, w) =>
      match sheet.findAnchor? with
      | none => reader.scanSheets path fail visit names w state
      | some anchor =>
        match visit ⟨path, sheet, anchor⟩ state with
        | (.error e, state) => (.error e, state)
        | (.ok (), state) =>
          let (count, state) := reader.scanSheets path fail visit names w state
          (count.map (· + 1), state)

/-- Visits the anchored sheets of a workbook in order. -/
def scan (reader : SheetReader ω) (path : String) (fail : WorkbookError → ε)
    (visit : ScanHit → σ → Except ε Unit × σ) (w : ω) (state : σ) : Except ε Nat × σ :=
  match reader.sheetNames w with
  | .error e => (.error (fail (e.inWorkbook path)), state)
  | .ok names => reader.scanSheets path fail visit names w state

/-- Why the scan of named sheets stops, if it does. -/
inductive StopsAmong (reader : SheetReader ω) (path : String)
    (visit : ScanHit → σ → Except ε Unit × σ) : List String → ω → σ → Stop ε → Prop where
  | unreadable {name names w w' state raw} (h : reader.readSheet w name = (.error raw, w')) :
    StopsAmong reader path visit (name :: names) w state (.call path raw)
  | refused {name names w w' sheet anchor state state' e}
    (h : reader.readSheet w name = (.ok sheet, w')) (hanchor : sheet.findAnchor? = some anchor)
    (hvisit : visit ⟨path, sheet, anchor⟩ state = (.error e, state')) :
    StopsAmong reader path visit (name :: names) w state (.visit e)
  | blank {name names w w' sheet state stop} (h : reader.readSheet w name = (.ok sheet, w'))
    (hanchor : sheet.findAnchor? = none) (rest : StopsAmong reader path visit names w' state stop) :
    StopsAmong reader path visit (name :: names) w state stop
  | visited {name names w w' sheet anchor state state' stop}
    (h : reader.readSheet w name = (.ok sheet, w')) (hanchor : sheet.findAnchor? = some anchor)
    (hvisit : visit ⟨path, sheet, anchor⟩ state = (.ok (), state'))
    (rest : StopsAmong reader path visit names w' state' stop) :
    StopsAmong reader path visit (name :: names) w state stop

/-- Why the scan of a workbook stops, if it does. -/
inductive Stops (reader : SheetReader ω) (path : String)
    (visit : ScanHit → σ → Except ε Unit × σ) (w : ω) (state : σ) : Stop ε → Prop where
  | unlisted {raw} (h : reader.sheetNames w = .error raw) :
    Stops reader path visit w state (.call path raw)
  | among {names stop} (h : reader.sheetNames w = .ok names)
    (hstop : reader.StopsAmong path visit names w state stop) : Stops reader path visit w state stop

variable {reader : SheetReader ω} {path : String} {fail : WorkbookError → ε}
  {visit : ScanHit → σ → Except ε Unit × σ} {w : ω} {state : σ}

/-- A scan of sheets fails exactly if it stops, with the failure that it stops with. -/
theorem scanSheets_eq_error_iff {names : List String} {e : ε} :
    (reader.scanSheets path fail visit names w state).1 = .error e
      ↔ ∃ stop, reader.StopsAmong path visit names w state stop ∧ e = stop.error fail := by
  induction names generalizing w state with
  | nil =>
    constructor
    · intro h
      cases h
    · rintro ⟨stop, hstop, -⟩
      cases hstop
  | cons name names ih =>
    rw [scanSheets]
    rcases hread : reader.readSheet w name with ⟨raw | sheet, w'⟩
    · constructor
      · intro h
        exact ⟨_, .unreadable hread, (Except.error.inj h).symm⟩
      · rintro ⟨stop, hstop, rfl⟩
        cases hstop <;> simp_all [Stop.error]
    · cases hanchor : sheet.findAnchor? with
      | none =>
        simp only [hanchor, ih]
        refine exists_congr fun stop => and_congr_left fun _ => ?_
        constructor
        · exact .blank hread hanchor
        · intro hstop
          cases hstop <;> simp_all
      | some anchor =>
        rcases hvisit : visit ⟨path, sheet, anchor⟩ state with ⟨failure | _, state'⟩
        · simp only [hanchor, hvisit]
          constructor
          · intro h
            exact ⟨_, .refused hread hanchor hvisit, (Except.error.inj h).symm⟩
          · rintro ⟨stop, hstop, rfl⟩
            cases hstop <;> simp_all [Stop.error]
        · simp only [hanchor, hvisit, map_eq_error_iff, ih]
          refine exists_congr fun stop => and_congr_left fun _ => ?_
          constructor
          · exact .visited hread hanchor hvisit
          · intro hstop
            cases hstop <;> simp_all

/-- A scan fails exactly if it stops, with the failure that it stops with. -/
theorem scan_eq_error_iff {e : ε} :
    (reader.scan path fail visit w state).1 = .error e
      ↔ ∃ stop, reader.Stops path visit w state stop ∧ e = stop.error fail := by
  unfold scan
  cases hnames : reader.sheetNames w with
  | error raw =>
    constructor
    · intro h
      exact ⟨_, .unlisted hnames, (Except.error.inj h).symm⟩
    · rintro ⟨stop, hstop, rfl⟩
      cases hstop with
      | unlisted h =>
        rw [hnames] at h
        cases h
        rfl
      | among h =>
        rw [hnames] at h
        cases h
  | ok names =>
    simp only [scanSheets_eq_error_iff]
    refine exists_congr fun stop => and_congr_left fun _ => ?_
    constructor
    · exact .among hnames
    · intro hstop
      cases hstop with
      | unlisted h =>
        rw [hnames] at h
        cases h
      | among h hstop =>
        rw [hnames] at h
        cases h
        exact hstop

end SheetReader

/-! ## Workbooks behind a backend -/

namespace SpreadsheetBackend

variable {ρ ε σ : Type}

/-- The workbook at a path, opened by the backend that fits its extension. -/
def openWorkbook (b : SpreadsheetBackend ρ) (d : Disk) (path : String) :
    Except WorkbookError (OpenedWorkbook ρ) :=
  match WorkbookFormat.ofPath? path with
  | none => .error (.unsupportedFormat path)
  | some .json =>
    match d.read path with
    | .ok content =>
      match Document.parse? content.symbols with
      | some parsed => .ok (.document parsed)
      | none => .error (.cannotOpen path Cause.container.tag)
    | .error _ => .error (.cannotOpen path Cause.container.tag)
  | some _ =>
    match b.openAt d path with
    | .ok r => .ok (.spreadsheet r)
    | .error message => .error (.cannotOpen path message)

/-- The failure of the backend with a message. -/
def failed (message : String) : WorkbookError :=
  .reader Spreadsheet.backendName message

/-- What it takes to walk through the sheets of opened workbooks. The backend is asked for a sheet only
if it lists it. -/
def reader (b : SpreadsheetBackend ρ) : SheetReader (OpenedWorkbook ρ) where
  sheetNames
    | .document d => .ok d.sheetNames
    | .spreadsheet r => (b.sheetNames r).mapError failed
  readSheet
    | .document d, name =>
      match d.sheet? name with
      | some sheet => (.ok sheet, .document d)
      | none => (.error (.missingSheet name), .document d)
    | .spreadsheet r, name =>
      match b.sheetNames r with
      | .error message => (.error (failed message), .spreadsheet r)
      | .ok known =>
        if known.contains name then
          let (sheet, r) := b.readSheet r name
          (sheet.mapError failed, .spreadsheet r)
        else (.error (.missingSheet name), .spreadsheet r)

/-- Visits the anchored sheets of workbooks in order, up to the first failure. -/
def scanWorkbooks (b : SpreadsheetBackend ρ) (d : Disk) (fail : WorkbookError → ε)
    (visit : ScanHit → σ → Except ε Unit × σ) : List String → σ → Except ε Unit × σ
  | [], state => (.ok (), state)
  | path :: paths, state =>
    match b.openWorkbook d path with
    | .error e => (.error (fail e), state)
    | .ok w =>
      match b.reader.scan path fail visit w state with
      | (.error e, state) => (.error e, state)
      | (.ok _, state) => b.scanWorkbooks d fail visit paths state

/-- Why a scan of workbooks stops, if it does. -/
inductive Stops (b : SpreadsheetBackend ρ) (d : Disk) (fail : WorkbookError → ε)
    (visit : ScanHit → σ → Except ε Unit × σ) : List String → σ → Stop ε → Prop where
  | closed {path paths state raw} (h : b.openWorkbook d path = .error raw) :
    Stops b d fail visit (path :: paths) state (.call path raw)
  | inside {path paths state w stop} (h : b.openWorkbook d path = .ok w)
    (hstop : b.reader.Stops path visit w state stop) :
    Stops b d fail visit (path :: paths) state stop
  | passed {path paths state w n state' stop} (h : b.openWorkbook d path = .ok w)
    (hscan : b.reader.scan path fail visit w state = (.ok n, state'))
    (rest : Stops b d fail visit paths state' stop) :
    Stops b d fail visit (path :: paths) state stop

variable {b : SpreadsheetBackend ρ} {d : Disk} {path : String} {raw : WorkbookError}
  {w w' : OpenedWorkbook ρ}

/-! ## Calls -/

/-- A workbook that cannot be opened is named by the failure. -/
theorem isAbout_of_openWorkbook (h : b.openWorkbook d path = .error raw) :
    raw.IsAbout path ∧ raw.inWorkbook path = raw := by
  have hcases : raw = .unsupportedFormat path ∨ ∃ message, raw = .cannotOpen path message := by
    unfold openWorkbook at h
    split at h
    · exact .inl (Except.error.inj h).symm
    · split at h
      · split at h
        · cases h
        · exact .inr ⟨_, (Except.error.inj h).symm⟩
      · exact .inr ⟨_, (Except.error.inj h).symm⟩
    · split at h
      · cases h
      · exact .inr ⟨_, (Except.error.inj h).symm⟩
  rcases hcases with rfl | ⟨message, rfl⟩
  · exact ⟨⟨rfl, fun file hfile => (Option.some.inj hfile).symm⟩, rfl⟩
  · exact ⟨⟨rfl, fun file hfile => (Option.some.inj hfile).symm⟩, rfl⟩

/-- No failure inside an opened workbook names a file. -/
theorem path?_of_sheetNames (h : b.reader.sheetNames w = .error raw) : raw.path? = none := by
  cases w with
  | document d => cases h
  | spreadsheet r =>
    change (b.sheetNames r).mapError failed = .error raw at h
    cases hnames : b.sheetNames r with
    | error message =>
      rw [hnames] at h
      cases h
      rfl
    | ok names =>
      rw [hnames] at h
      cases h

theorem path?_of_readSheet {name : String} (h : b.reader.readSheet w name = (.error raw, w')) :
    raw.path? = none := by
  unfold reader at h
  cases w with
  | document d =>
    simp only at h
    split at h
    · cases h
    · cases h
      rfl
  | spreadsheet r =>
    simp only at h
    split at h
    · cases h
      rfl
    · split at h
      · have hresult := congrArg Prod.fst h
        simp only at hresult
        generalize (b.readSheet r name).1 = result at hresult
        cases result with
        | error message =>
          cases hresult
          rfl
        | ok sheet => cases hresult
      · cases h
        rfl

/-! ## Stops -/

variable {fail : WorkbookError → ε} {visit : ScanHit → σ → Except ε Unit × σ} {paths : List String}
  {state : σ}

theorem isAbout_of_stopsAmong {file : String} {names : List String}
    (h : b.reader.StopsAmong path visit names w state (.call file raw)) :
    file = path ∧ raw.IsAbout file := by
  generalize hstop : Stop.call file raw = stop at h
  induction h with
  | unreadable hread =>
    cases hstop
    exact ⟨rfl, WorkbookError.isAbout_of_path?_eq_none (path?_of_readSheet hread)⟩
  | refused => cases hstop
  | blank _ _ _ ih => exact ih hstop
  | visited _ _ _ _ ih => exact ih hstop

/-- The call that a scan stops at is one on a workbook of the scan, and its failure is about that
workbook. -/
theorem Stops.isAbout (h : b.Stops d fail visit paths state (.call path raw)) :
    path ∈ paths ∧ raw.IsAbout path := by
  generalize hstop : Stop.call path raw = stop at h
  induction h with
  | closed hopen =>
    cases hstop
    exact ⟨List.mem_cons_self .., (isAbout_of_openWorkbook hopen).1⟩
  | inside _ hinside =>
    subst hstop
    cases hinside with
    | unlisted hnames =>
      exact ⟨List.mem_cons_self .., WorkbookError.isAbout_of_path?_eq_none (path?_of_sheetNames hnames)⟩
    | among _ hamong =>
      obtain ⟨rfl, habout⟩ := isAbout_of_stopsAmong hamong
      exact ⟨List.mem_cons_self .., habout⟩
  | passed _ _ _ ih =>
    obtain ⟨hmem, habout⟩ := ih hstop
    exact ⟨List.mem_cons_of_mem _ hmem, habout⟩

theorem exists_visit_of_stopsAmong {names : List String} {e : ε}
    (h : b.reader.StopsAmong path visit names w state (.visit e)) :
    ∃ hit before after, hit.workbook = path ∧ visit hit before = (.error e, after) := by
  generalize hstop : Stop.visit e = stop at h
  induction h with
  | unreadable => cases hstop
  | refused _ _ hvisit =>
    cases hstop
    exact ⟨_, _, _, rfl, hvisit⟩
  | blank _ _ _ ih => exact ih hstop
  | visited _ _ _ _ ih => exact ih hstop

/-- The visit that a scan stops at is one of a sheet in a workbook of the scan. -/
theorem Stops.exists_visit {e : ε} (h : b.Stops d fail visit paths state (.visit e)) :
    ∃ hit before after, hit.workbook ∈ paths ∧ visit hit before = (.error e, after) := by
  generalize hstop : Stop.visit e = stop at h
  induction h with
  | closed => cases hstop
  | inside _ hinside =>
    subst hstop
    cases hinside with
    | among _ hamong =>
      obtain ⟨hit, before, after, rfl, hvisit⟩ := exists_visit_of_stopsAmong hamong
      exact ⟨hit, before, after, List.mem_cons_self .., hvisit⟩
  | passed _ _ _ ih =>
    obtain ⟨hit, before, after, hmem, hvisit⟩ := ih hstop
    exact ⟨hit, before, after, List.mem_cons_of_mem _ hmem, hvisit⟩

theorem stops_cons_of_error {stop : Stop ε} (hopen : b.openWorkbook d path = .error raw) :
    b.Stops d fail visit (path :: paths) state stop ↔ stop = .call path raw := by
  constructor
  · intro hstop
    cases hstop with
    | closed h =>
      obtain rfl := Except.error.inj (hopen.symm.trans h)
      rfl
    | inside h => cases hopen.symm.trans h
    | passed h => cases hopen.symm.trans h
  · rintro rfl
    exact .closed hopen

/-- A scan stops inside of a workbook that was opened, or is done with it and stops later. -/
theorem stops_cons_of_ok {stop : Stop ε} (hopen : b.openWorkbook d path = .ok w) :
    b.Stops d fail visit (path :: paths) state stop
      ↔ b.reader.Stops path visit w state stop
        ∨ ∃ n state', b.reader.scan path fail visit w state = (.ok n, state')
          ∧ b.Stops d fail visit paths state' stop := by
  constructor
  · intro hstop
    cases hstop with
    | closed h => cases hopen.symm.trans h
    | inside h hstop =>
      obtain rfl := Except.ok.inj (hopen.symm.trans h)
      exact .inl hstop
    | passed h hscan rest =>
      obtain rfl := Except.ok.inj (hopen.symm.trans h)
      exact .inr ⟨_, _, hscan, rest⟩
  · rintro (hstop | ⟨n, state', hscan, rest⟩)
    · exact .inside hopen hstop
    · exact .passed hopen hscan rest

/-- A scan of workbooks fails exactly if it stops, with the failure that it stops with: that of a call in
the context of its workbook, that of a visit as it is. -/
theorem scanWorkbooks_eq_error_iff {e : ε} :
    (b.scanWorkbooks d fail visit paths state).1 = .error e
      ↔ ∃ stop, b.Stops d fail visit paths state stop ∧ e = stop.error fail := by
  induction paths generalizing state with
  | nil =>
    constructor
    · intro h
      cases h
    · rintro ⟨stop, hstop, -⟩
      cases hstop
  | cons path paths ih =>
    rw [scanWorkbooks]
    cases hopen : b.openWorkbook d path with
    | error raw =>
      -- The failure already names the workbook, so its context leaves it as it is.
      have hself := (isAbout_of_openWorkbook hopen).2
      simp only [stops_cons_of_error hopen, exists_eq_left, Stop.error, hself, Except.error.injEq]
      exact eq_comm
    | ok w =>
      simp only [stops_cons_of_ok hopen, or_and_right, exists_or, ← SheetReader.scan_eq_error_iff]
      rcases b.reader.scan path fail visit w state with ⟨failure | n, state'⟩
      · simp
      · simp [ih]

end SpreadsheetBackend

/-! ## The backend of containers -/

namespace SpreadsheetBackend

/-- The backend that reads what a container holds. -/
def container : SpreadsheetBackend Spreadsheet where
  openAt d path :=
    match d.read path with
    | .ok (.spreadsheet s) =>
      if (Path.extension? path).any WorkbookFormat.fixesContainer then .error Cause.container.tag
      else .ok s
    | _ => .error Cause.container.tag
  sheetNames s := .ok s.sheetNames
  readSheet s name :=
    match s.sheets.find? (·.name = name) with
    | some ⟨_, some r⟩ => (.ok (Spreadsheet.sheetOfRange name r), s)
    | _ => (.error Cause.container.tag, s)

end SpreadsheetBackend

/-- A workbook as what the backend of containers opens. -/
def Workbook.opened : Workbook → OpenedWorkbook Spreadsheet
  | document d => .document d
  | spreadsheet s => .spreadsheet s

namespace SpreadsheetBackend

variable {ε σ : Type} {d : Disk} {path : String} {fail : WorkbookError → ε}
  {visit : ScanHit → σ → Except ε Unit × σ}

theorem container_openWorkbook (d : Disk) (path : String) :
    container.openWorkbook d path = (Workbook.openAt d path).map Workbook.opened := by
  unfold openWorkbook Workbook.openAt
  cases WorkbookFormat.ofPath? path with
  | none => rfl
  | some format =>
    cases format
    case json =>
      cases d.read path with
      | error e => rfl
      | ok content =>
        simp only
        cases Document.parse? content.symbols <;> rfl
    all_goals
      simp only [container]
      cases d.read path with
      | error e => rfl
      | ok content =>
        cases content with
        | spreadsheet s =>
          simp only
          by_cases hfixed : (Path.extension? path).any WorkbookFormat.fixesContainer
          · rw [if_pos hfixed, if_pos hfixed]
            rfl
          · rw [if_neg hfixed, if_neg hfixed]
            rfl
        | _ => rfl

theorem container_readSheet (w : Workbook) (name : String) :
    container.reader.readSheet w.opened name = (w.readSheet name, w.opened) := by
  cases w with
  | document d =>
    simp only [reader, Workbook.opened, Workbook.readSheet]
    cases d.sheet? name <;> rfl
  | spreadsheet s =>
    simp only [reader, Workbook.opened, Workbook.readSheet, container, Spreadsheet.sheetNames,
      List.contains_eq_mem, List.mem_map]
    cases hfound : s.sheets.find? (·.name = name) with
    | none =>
      have hunknown : ¬ ∃ a ∈ s.sheets, a.name = name := by simpa using hfound
      simp [hunknown]
    | some stored =>
      have hknown : ∃ a ∈ s.sheets, a.name = name :=
        ⟨stored, List.mem_of_find?_eq_some hfound, by simpa using List.find?_some hfound⟩
      obtain ⟨storedName, _ | r⟩ := stored
      · simp [hknown, Except.mapError, failed]
      · simp [hknown, Except.mapError]

theorem container_scanSheets (w : Workbook) (names : List String) (state : σ) :
    container.reader.scanSheets path fail visit names w.opened state
      = w.reader.scanSheets path fail visit names state := by
  induction names generalizing state with
  | nil => rfl
  | cons name names ih =>
    rw [SheetReader.scanSheets, WorkbookReader.scanSheets, container_readSheet, Workbook.reader]
    simp only
    cases w.readSheet name with
    | error e => rfl
    | ok sheet =>
      simp only
      cases sheet.findAnchor? with
      | none => exact ih state
      | some anchor =>
        simp only [ih]
        rfl

theorem container_scan (w : Workbook) (state : σ) :
    container.reader.scan path fail visit w.opened state
      = w.reader.scan path fail visit state := by
  have hnames : container.reader.sheetNames w.opened = .ok w.sheetNames := by cases w <;> rfl
  rw [SheetReader.scan, hnames]
  exact container_scanSheets w w.sheetNames state

/-- Behind the backend of containers workbooks are scanned as they are. -/
theorem container_scanWorkbooks {visit : ScanHit → σ → Except ProjectError Unit × σ}
    (paths : List String) (state : σ) :
    container.scanWorkbooks d .workbook visit paths state
      = MasterData.scanWorkbooks d visit paths state := by
  induction paths generalizing state with
  | nil => rfl
  | cons path paths ih =>
    rw [scanWorkbooks, MasterData.scanWorkbooks, container_openWorkbook]
    cases Workbook.openAt d path with
    | error e => rfl
    | ok w =>
      simp only [Except.map, container_scan, ih]
      rcases w.reader.scan path ProjectError.workbook visit state with ⟨e | n, state'⟩ <;> rfl

end SpreadsheetBackend

end MasterData
