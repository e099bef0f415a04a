-- SUMMARY: Workbooks kept as JSON documents.
import MasterData.Json.Printer
import MasterData.Json.Reader
import MasterData.Json.Shape
import MasterData.Sheet

/-! # JSON workbooks

A document lists its sheets and each sheet its cells, in the order in which they were entered. A
cell may be listed without a value, which has no effect, or more than once, where the last one
counts. Where two sheets share a name, all access by name means the first.
-/

namespace MasterData

/-- A cell as a document lists it. -/
structure DocumentCell where
  address : Address
  value : Option Cell
  deriving DecidableEq

/-- A sheet as a document lists it. -/
structure DocumentSheet where
  name : String
  cells : List DocumentCell
  dimensions : Option (UInt32 × UInt32)
  hidden : Bool
  deriving DecidableEq

/-- A workbook document. -/
structure Document where
  version : UInt32
  sheets : List DocumentSheet
  deriving DecidableEq

namespace DocumentSheet

def named (name : String) : DocumentSheet :=
  { name, cells := [], dimensions := none, hidden := false }

/-- The sheet that the listed cells make when they are stored one after the other. -/
def toSheet (s : DocumentSheet) : Sheet :=
  let cells := s.cells.foldl
    (fun (sheet : Sheet) c =>
      match c.value with
      | some v => sheet.set c.address v
      | none => sheet)
    (Sheet.named s.name)
  { cells with dimensions := s.dimensions, hidden := s.hidden }

/-- The cells with a value in the first one listed at an address, or in a new one at the end. -/
def setIn (address : Address) (v : Cell) : List DocumentCell → List DocumentCell
  | [] => [⟨address, some v⟩]
  | c :: rest =>
    if c.address = address then { c with value := some v } :: rest
    else c :: setIn address v rest

end DocumentSheet

namespace Document

def empty : Document := ⟨1, []⟩

/-! ## Reading and editing -/

def sheetNames (d : Document) : List String :=
  d.sheets.map (·.name)

/-- The first sheet with a name. -/
def sheet? (d : Document) (name : String) : Option Sheet :=
  (d.sheets.find? (·.name = name)).map DocumentSheet.toSheet

/-- The sheets with a change made to the first one of a name, which is added at the end if there is
none. -/
def editSheet (name : String) (change : DocumentSheet → DocumentSheet) :
    List DocumentSheet → List DocumentSheet
  | [] => [change (.named name)]
  | s :: rest => if s.name = name then change s :: rest else s :: editSheet name change rest

/-- The document with an empty sheet of a name, unless it has one. -/
def addSheet (d : Document) (name : String) : Document :=
  { d with sheets := editSheet name id d.sheets }

/-- The document with a value at an address of a sheet. -/
def setCell (d : Document) (name : String) (address : Address) (v : Cell) : Document :=
  { d with
    sheets := editSheet name (fun s => { s with cells := s.cells |> DocumentSheet.setIn address v })
      d.sheets }

/-- The document with the content of a sheet replaced. -/
def putSheet (d : Document) (sheet : Sheet) : Document :=
  let replace (s : DocumentSheet) : DocumentSheet :=
    { s with
      cells := sheet.cells.toList.map fun (a, v) => ⟨a, some v⟩
      dimensions := sheet.dimensions
      hidden := sheet.hidden }
  { d with sheets := editSheet sheet.name replace d.sheets }

/-- The document of some sheets, put in one after the other. -/
def ofSheets (sheets : List Sheet) : Document :=
  sheets.foldl putSheet empty

/-! ## Writing -/

/-- A cell value under the name of its variant. -/
def valueJson (v : Cell) : Json :=
  let tagged (name : String) (content : Json) : Json :=
    .object [("type", .text name), ("value", content)]
  match v with
  | .int i => tagged "Int" (.ofInt i.toInt)
  | .number x => tagged "Number" (.ofDouble x)
  | .text s => tagged "Text" (.text s)
  | .boolean b => tagged "Boolean" (.bool b)
  | .error code => tagged "Error" (.text code)
  | .empty => .object [("type", .text "Empty")]

def cellJson (c : DocumentCell) : Json :=
  .object [
    ("row", .ofNat c.address.row.toNat),
    ("col", .ofNat c.address.col.toNat),
    ("value", (c.value.map valueJson).getD .null)]

def sheetJson (s : DocumentSheet) : Json :=
  .object [
    ("name", .text s.name),
    ("cells", .list (s.cells.map cellJson)),
    ("dimensions", (s.dimensions.map fun (rows, cols) =>
      .list [.ofNat rows.toNat, .ofNat cols.toNat]).getD .null),
    ("hidden", .bool s.hidden)]

def toJson (d : Document) : Json :=
  .object [("version", .ofNat d.version.toNat), ("sheets", .list (d.sheets.map sheetJson))]

/-- The indented text of a document. -/
def render (d : Document) : String :=
  d.toJson.pretty

/-! ## Parsing -/

/-- The cell value that a variant spells. -/
def valueOfVariant? (v : Json.Variant) : Option Cell :=
  match v.name with
  | "Int" => (v.with? Json.asInt64?).map .int
  | "Number" => (v.with? Json.asDouble?).map .number
  | "Text" => (v.with? Json.asText?).map .text
  | "Boolean" => (v.with? Json.asBool?).map .boolean
  | "Error" => (v.with? Json.asText?).map .error
  | "Empty" => if v.isBare then some .empty else none
  | _ => none

/-- The names of the variants of a cell value. -/
def valueNames : List String := ["Int", "Number", "Text", "Boolean", "Error", "Empty"]

/-- The number of lists and objects that may still open inside a cell value: the limit of 127 less
the document, its sheets, the sheet, its cells, the cell and the value. -/
def valueDepth : Nat := 127 - 6

def valueOfJson? (j : Json) : Option Cell := do
  valueOfVariant? (← j.asVariant? valueNames valueDepth false)

def cellOfJson? (j : Json) : Option DocumentCell := do
  let f ← j.fields? ["row", "col", "value"]
  let row ← f.required? "row" Json.asUInt32?
  let col ← f.required? "col" Json.asUInt32?
  let value ← f.defaulted? "value" none (Json.asNullable? valueOfJson?)
  return ⟨⟨row, col⟩, value⟩

/-- A pair of counts. -/
def dimensionsOfJson? (j : Json) : Option (UInt32 × UInt32) := do
  match ← j.asListOf? Json.asUInt32? with
  | [rows, cols] => some (rows, cols)
  | _ => none

def sheetOfJson? (j : Json) : Option DocumentSheet := do
  let f ← j.fields? ["name", "cells", "dimensions", "hidden"]
  let name ← f.required? "name" Json.asText?
  let cells ← f.defaulted? "cells" [] (Json.asListOf? cellOfJson?)
  let dimensions ← f.defaulted? "dimensions" none (Json.asNullable? dimensionsOfJson?)
  let hidden ← f.defaulted? "hidden" false Json.asBool?
  return { name, cells, dimensions, hidden }

def ofJson? (j : Json) : Option Document := do
  let f ← j.fields? ["version", "sheets"]
  let version ← f.defaulted? "version" 1 Json.asUInt32?
  let sheets ← f.defaulted? "sheets" [] (Json.asListOf? sheetOfJson?)
  return { version, sheets }

/-- The document that the symbols of a file spell. -/
def parse? (input : List Text.Symbol) : Option Document := do
  ofJson? (← Json.parse? input)

end Document

end MasterData
