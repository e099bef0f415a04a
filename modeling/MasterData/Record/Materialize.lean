-- SUMMARY: Records made from the rows of a sheet.
import MasterData.Record.Asset
import MasterData.Record.Decode
import MasterData.Schema.Master

/-! # Materializing records

Each row from the first data row on makes one record, however sparse it is. A value that no cell
decodes to is carried over from the prior asset, by position and field name, or else is zero.
-/

namespace MasterData.MasterSchema

/-- The value that stands in where the cell of a column does not decode. -/
def fallback (prior : Option Asset) (position : Nat) (c : Column) : FieldValue :=
  (prior.bind fun a => a.valueAt? position c.fieldName).getD c.kind.zero

/-- The record of a row, which is the one at a position. -/
def recordAt (s : MasterSchema) (sheet : Sheet) (prior : Option Asset) (position : Nat)
    (row : UInt32) : MasterRecord :=
  ⟨s.fields.map fun c =>
    (c.kind.decode? sheet ⟨row, c.column⟩).getD (fallback prior position c)⟩

/-- The records of the rows from `first` to `last`. -/
def materialize (s : MasterSchema) (sheet : Sheet) (first last : UInt32) (prior : Option Asset) :
    List MasterRecord :=
  (List.range (last.toNat + 1 - first.toNat)).map fun position =>
    s.recordAt sheet prior position (first + UInt32.ofNat position)

/-- The records of all data rows of a sheet. -/
def materializeSheet (s : MasterSchema) (sheet : Sheet) (prior : Option Asset) :
    List MasterRecord :=
  match sheet.lastRow? with
  | some last => s.materialize sheet s.dataStartRow last prior
  | none => []

end MasterData.MasterSchema
