-- SUMMARY: Sheets of cells and the views that readers take of them.
import MasterData.Cell.Address
import MasterData.Cell.Value
import MasterData.SortedMap

/-! # Sheets

A sheet stores its cells by address. No view ever fails: a missing row, a missing cell and a cell
that holds nothing read alike, as neutral values.
-/

namespace MasterData

/-- A sheet of a workbook. -/
structure Sheet where
  name : String
  cells : SortedMap Address Cell
  /-- The number of rows and columns, where the workbook states it. -/
  dimensions : Option (UInt32 × UInt32)
  hidden : Bool
  deriving Inhabited, DecidableEq

namespace Sheet

/-- A sheet without cells. -/
def named (name : String) : Sheet :=
  { name, cells := .empty, dimensions := none, hidden := false }

/-- Stores a cell; storing nothing removes what was there. -/
def set (s : Sheet) (a : Address) (c : Cell) : Sheet :=
  { s with cells := if c = .empty then s.cells.erase a else s.cells.insert a c }

/-- The cell at an address, unless it holds nothing. -/
def cell? (s : Sheet) (a : Address) : Option Cell :=
  (s.cells.get? a).filter (· ≠ .empty)

/-- The text of a cell: a text as it is, a truth value by name, and no characters for all else. -/
def textAt (s : Sheet) (a : Address) : String :=
  match s.cell? a with
  | some (.text t) => t
  | some (.boolean b) => toString b
  | _ => ""

def numberAt? (s : Sheet) (a : Address) : Option Double :=
  (s.cell? a).bind Cell.asNumber?

def boolAt? (s : Sheet) (a : Address) : Option Bool :=
  (s.cell? a).bind Cell.asBool?

/-- The cells that hold something, row by row. -/
def populated (s : Sheet) : List (Address × Cell) :=
  s.cells.toList.filter (·.2 ≠ .empty)

/-- The cells of one row that hold something, by column. -/
def rowCells (s : Sheet) (row : UInt32) : List (UInt32 × Cell) :=
  (s.populated.filter (·.1.row = row)).map fun (a, c) => (a.col, c)

/-- The last row that has a stored cell. -/
def lastRow? (s : Sheet) : Option UInt32 :=
  s.cells.toList.getLast?.map (·.1.row)

/-- The last column of a row with a cell that holds something. -/
def lastCol? (s : Sheet) (row : UInt32) : Option UInt32 :=
  (s.rowCells row).getLast?.map (·.1)

/-- Whether no cell holds anything. -/
def isEmpty (s : Sheet) : Bool :=
  s.populated.isEmpty

/-- The text that marks a master in a sheet. -/
def anchorMark : String := "@"

/-- The first cell, row by row, whose text is the anchor mark. -/
def findAnchor? (s : Sheet) : Option Address :=
  (s.populated.find? (·.2 = .text anchorMark)).map (·.1)

end Sheet

end MasterData
