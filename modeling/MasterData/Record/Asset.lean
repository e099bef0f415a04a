-- SUMMARY: Records and the assets that hold them.
import MasterData.Json.Printer
import MasterData.Json.Reader
import MasterData.Record.Value

/-! # Assets

An asset is the record set of one master. The names of the fields travel with the records, so that
values can be found by name when columns have moved.
-/

namespace MasterData

/-- A record: its values in the order of the fields, the key first. -/
structure MasterRecord where
  values : List FieldValue
  deriving DecidableEq, Inhabited

namespace MasterRecord

def key? (r : MasterRecord) : Option FieldValue :=
  r.values.head?

def toJson (r : MasterRecord) : Json :=
  .list (FieldValue.toJsonList r.values)

def ofJson? (depth : Nat) (j : Json) : Option MasterRecord :=
  (j.asListOf? (FieldValue.ofJson? (depth - 1) false)).map (⟨·⟩)

end MasterRecord

/-- The record set of one master. -/
structure Asset where
  master : String
  fields : List String
  records : List MasterRecord
  deriving DecidableEq, Inhabited

namespace Asset

/-- The position of the first field with a name. -/
def fieldIndex? (a : Asset) (name : String) : Option Nat :=
  a.fields.findIdx? (· = name)

/-- The value of a field in the record at a position. -/
def valueAt? (a : Asset) (position : Nat) (name : String) : Option FieldValue := do
  let index ← a.fieldIndex? name
  let record ← a.records[position]?
  record.values[index]?

/-! ## The written form -/

def toJson (a : Asset) : Json :=
  .object [
    ("master", .text a.master),
    ("fields", .list (a.fields.map .text)),
    ("records", .list (a.records.map MasterRecord.toJson))]

/-- The indented text of an asset. -/
def render (a : Asset) : String :=
  a.toJson.pretty

/-- The asset that a tree spells: of at most 127 nested lists and objects it takes two around its
records. -/
def ofJson? (j : Json) : Option Asset := do
  let f ← j.fields? ["master", "fields", "records"]
  let master ← f.required? "master" Json.asText?
  let fields ← f.required? "fields" (Json.asListOf? Json.asText?)
  let records ← f.required? "records" (Json.asListOf? (MasterRecord.ofJson? (127 - 2)))
  return { master, fields, records }

/-- The asset that a text spells. -/
def parse? (s : String) : Option Asset := do
  ofJson? (← Json.parseText? s)

end Asset

end MasterData
