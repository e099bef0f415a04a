-- SUMMARY: Spreadsheet containers and their sheets as ranges of used cells.
import MasterData.Sheet

/-! # Spreadsheets

A sheet of a spreadsheet container is a range: the smallest rectangle around all stored cells, with
the used cells given relative to its first corner. Reading it moves the cells to their addresses and
drops texts without characters. Dates stay the serial numbers that the container stores.
-/

namespace MasterData

/-- A stored value of a spreadsheet. -/
inductive StoredValue where
  | empty
  | text (s : String)
  | float (x : Double)
  | int (i : Int64)
  | bool (b : Bool)
  | error (code : String)
  /-- A date or time as a serial number. -/
  | serial (x : Double)
  /-- A date, time or duration as text in the standard notation. -/
  | iso (s : String)
  deriving DecidableEq

/-- The cell that a stored value reads as. -/
def StoredValue.toCell : StoredValue → Cell
  | empty => .empty
  | text s => .text s
  | float x => .number x
  | int i => .int i
  | bool b => .boolean b
  | error code => .error code
  | serial x => .number x
  | iso s => .text s

/-- Whether reading drops a stored value. -/
def StoredValue.isDropped : StoredValue → Bool
  | empty => true
  | text s => s = ""
  | _ => false

/-- The used rectangle of a sheet. -/
structure UsedRange where
  /-- The first corner, if any cell is stored. -/
  start : Option Address
  height : UInt32
  width : UInt32
  /-- The used cells by row and column from the first corner. -/
  used : List (UInt32 × UInt32 × StoredValue)
  deriving DecidableEq

namespace UsedRange

/-- The cells of a range at their addresses in the sheet. Of the values of one position the last one
counts, also where reading drops it. -/
def cells (r : UsedRange) : SortedMap Address Cell :=
  let origin := r.start.getD ⟨0, 0⟩
  r.used.foldl (fun found (row, col, v) =>
    let a : Address := ⟨origin.row + row, origin.col + col⟩
    if v.isDropped then found.erase a else found.insert a v.toCell) .empty

/-- The range around stored values that are given by address. -/
def around (stored : List (Address × StoredValue)) : UsedRange :=
  match stored with
  | [] => ⟨none, 0, 0, []⟩
  | (first, _) :: rest =>
    let rows := rest.map (·.1.row)
    let cols := rest.map (·.1.col)
    let low : Address := ⟨rows.foldl min first.row, cols.foldl min first.col⟩
    let high : Address := ⟨rows.foldl max first.row, cols.foldl max first.col⟩
    { start := some low
      height := high.row - low.row + 1
      width := high.col - low.col + 1
      used := stored.map fun (a, v) => (a.row - low.row, a.col - low.col, v) }

end UsedRange

/-- A sheet in a spreadsheet container; the range is missing where the sheet cannot be read. -/
structure StoredSheet where
  name : String
  range : Option UsedRange
  deriving DecidableEq

/-- A spreadsheet container. -/
structure Spreadsheet where
  sheets : List StoredSheet
  deriving DecidableEq

namespace Spreadsheet

/-- The name of the reader of spreadsheet containers, as answers and failures show it. -/
def backendName : String := "calamine"

def sheetNames (s : Spreadsheet) : List String :=
  s.sheets.map (·.name)

/-- The sheet that a range reads as. -/
def sheetOfRange (name : String) (r : UsedRange) : Sheet :=
  { name, cells := r.cells, dimensions := some (r.height, r.width), hidden := false }

end Spreadsheet

end MasterData
