-- SUMMARY: Records typed for an application.
import MasterData.Record.FieldType
import MasterData.Record.Index
import MasterData.Store.Error

/-! # Rows

A row type binds a master to the names and types of its fields. Rows are loaded from the asset of
the master, whose field list must be exactly that of the row type, and indexed by their first field.
-/

namespace MasterData

/-- A value with its type. -/
abbrev TypedValue := (t : FieldType) × t.Value

/-- A typed record, its values in the order of the fields. -/
structure Row where
  values : List TypedValue

instance : Keyed Row where
  Key := TypedValue
  key r := r.values.head?.getD ⟨.any, FieldValue.empty⟩
  sameKey a b := if h : a.1 = b.1 then b.1.sameKey (h ▸ a.2) b.2 else false
  describe key := key.1.describe key.2

/-- A master with the names and types of its fields, the key first. -/
structure RowType where
  master : String
  fields : List (String × FieldType)

namespace RowType

def fieldNames (t : RowType) : List String :=
  t.fields.map (·.1)

/-- The row of a record. -/
def ofRecord (t : RowType) (r : MasterRecord) : Row :=
  ⟨t.fields.zipIdx.map fun ((_, type), i) => ⟨type, type.decode r.values[i]?⟩⟩

/-- The rows of a stored asset, in the order of its records. -/
def loadAll (t : RowType) (load : String → Except AssetError (Option Asset)) :
    Except AssetError (List Row) :=
  match load t.master with
  | .error e => .error e
  | .ok none => .error (.missingAsset t.master)
  | .ok (some asset) =>
    if asset.fields = t.fieldNames then .ok (asset.records.map t.ofRecord)
    else .error (.fieldMismatch t.master t.fieldNames asset.fields)

/-- The rows of a stored asset by key. -/
def loadIndex (t : RowType) (load : String → Except AssetError (Option Asset)) :
    Except AssetError (MasterIndex Row) :=
  (t.loadAll load).map (MasterIndex.build t.master)

end RowType

end MasterData
