-- SUMMARY: Walking through the anchored sheets of workbooks.
import MasterData.Workbook.Book

/-! # Scanning workbooks

A scan reads the sheets of a workbook in order and visits those that have an anchor. A visit may
fail, which ends the scan with that failure; so does a sheet that cannot be read, in the context of
its workbook.
-/

namespace MasterData

/-- An anchored sheet as a scan finds it. -/
structure ScanHit where
  workbook : String
  sheet : Sheet
  anchor : Address

namespace WorkbookReader

/-- Visits the anchored ones among the named sheets, carrying a state along. Gives the number of
visits when all of them succeeded. -/
def scanSheets (r : WorkbookReader) (path : String) (fail : WorkbookError → ε)
    (visit : ScanHit → σ → Except ε Unit × σ) : List String → σ → Except ε Nat × σ
  | [], state => (.ok 0, state)
  | name :: names, state =>
    match r.readSheet name with
    | .error e => (.error (fail (e.inWorkbook path)), state)
    | .ok sheet =>
      match sheet.findAnchor? with
      | none => r.scanSheets path fail visit names state
      | some anchor =>
        match visit ⟨path, sheet, anchor⟩ state with
        | (.error e, state) => (.error e, state)
        | (.ok (), state) =>
          let (count, state) := r.scanSheets path fail visit names state
          (count.map (· + 1), state)

/-- Visits the anchored sheets of a workbook in order. -/
def scan (r : WorkbookReader) (path : String) (fail : WorkbookError → ε)
    (visit : ScanHit → σ → Except ε Unit × σ) (state : σ) : Except ε Nat × σ :=
  match r.sheetNames with
  | .error e => (.error (fail (e.inWorkbook path)), state)
  | .ok names => r.scanSheets path fail visit names state

end WorkbookReader

end MasterData
