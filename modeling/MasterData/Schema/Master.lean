-- SUMMARY: The schema of a master and its written form.
import MasterData.Cell.Address
import MasterData.Schema.Kind

/-! # Master schemas

A master is a table of records kept in a sheet. Its schema names the master, lists its fields in the
order of their columns, the key first, and tells where the table stands.
-/

namespace MasterData

/-- A column of a master. -/
structure Column where
  column : UInt32
  declaredType : String
  kind : FieldKind
  fieldName : String
  description : String
  deriving DecidableEq, Inhabited

/-- The workbook, by file name, and the sheet that declare a master. -/
structure SheetSource where
  workbook : String
  sheet : String
  deriving DecidableEq, Inhabited

/-- The schema of a master. -/
structure MasterSchema where
  masterName : String
  masterDescription : String
  keyType : String
  keyColumn : UInt32
  fields : List Column
  source : SheetSource
  anchor : Address
  dataStartRow : UInt32
  deriving DecidableEq, Inhabited

namespace MasterSchema

/-- The key column; a schema without fields has none. -/
def keyField? (s : MasterSchema) : Option Column :=
  s.fields.head?

def fieldNames (s : MasterSchema) : List String :=
  s.fields.map (·.fieldName)

/-- The position of the first field with a name. -/
def fieldIndex? (s : MasterSchema) (name : String) : Option Nat :=
  s.fields.findIdx? (·.fieldName = name)

end MasterSchema

/-! ## The written form -/

/-- A text member that is left out when the text is empty. -/
def textMember (key text : String) : List (String × Json) :=
  if text = "" then [] else [(key, .text text)]

namespace Column

def toJson (c : Column) : Json :=
  .object ([
    ("column", .ofNat c.column.toNat),
    ("declared_type", .text c.declaredType),
    ("kind", c.kind.toJson),
    ("field_name", .text c.fieldName)] ++ textMember "description" c.description)

/-- The column that a value spells, with `depth` nested lists and objects to come, its own
included. -/
def ofJson? (depth : Nat) (j : Json) : Option Column := do
  let f ← j.fields? ["column", "declared_type", "kind", "field_name", "description"]
  let column ← f.required? "column" Json.asUInt32?
  let declaredType ← f.required? "declared_type" Json.asText?
  let kind ← f.required? "kind" (FieldKind.ofJson? (depth - 1))
  let fieldName ← f.required? "field_name" Json.asText?
  let description ← f.defaulted? "description" "" Json.asText?
  return { column, declaredType, kind, fieldName, description }

end Column

namespace SheetSource

def toJson (s : SheetSource) : Json :=
  .object [("workbook", .text s.workbook), ("sheet", .text s.sheet)]

def ofJson? (j : Json) : Option SheetSource := do
  let f ← j.fields? ["workbook", "sheet"]
  let workbook ← f.required? "workbook" Json.asText?
  let sheet ← f.required? "sheet" Json.asText?
  return { workbook, sheet }

end SheetSource

namespace Address

def toJson (a : Address) : Json :=
  .object [("row", .ofNat a.row.toNat), ("col", .ofNat a.col.toNat)]

def ofJson? (j : Json) : Option Address := do
  let f ← j.fields? ["row", "col"]
  let row ← f.required? "row" Json.asUInt32?
  let col ← f.required? "col" Json.asUInt32?
  return { row, col }

end Address

namespace MasterSchema

def toJson (s : MasterSchema) : Json :=
  .object ([("master_name", .text s.masterName)]
    ++ textMember "master_description" s.masterDescription ++ [
    ("key_type", .text s.keyType),
    ("key_column", .ofNat s.keyColumn.toNat),
    ("fields", .list (s.fields.map Column.toJson)),
    ("source", s.source.toJson),
    ("anchor", s.anchor.toJson),
    ("data_start_row", .ofNat s.dataStartRow.toNat)])

/-- The schema that a value spells, with `depth` nested lists and objects to come, its own
included. -/
def ofJson? (depth : Nat) (j : Json) : Option MasterSchema := do
  let f ← j.fields? ["master_name", "master_description", "key_type", "key_column", "fields",
    "source", "anchor", "data_start_row"]
  let masterName ← f.required? "master_name" Json.asText?
  let masterDescription ← f.defaulted? "master_description" "" Json.asText?
  let keyType ← f.required? "key_type" Json.asText?
  let keyColumn ← f.required? "key_column" Json.asUInt32?
  let fields ← f.required? "fields" (Json.asListOf? (Column.ofJson? (depth - 2)))
  let source ← f.required? "source" SheetSource.ofJson?
  let anchor ← f.required? "anchor" Address.ofJson?
  let dataStartRow ← f.required? "data_start_row" Json.asUInt32?
  return { masterName, masterDescription, keyType, keyColumn, fields, source, anchor, dataStartRow }

end MasterSchema

end MasterData
