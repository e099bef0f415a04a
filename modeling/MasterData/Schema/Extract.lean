-- SUMMARY: Schemas read from the header block of a sheet.
import MasterData.Schema.Master
import MasterData.Schema.TypeTable
import MasterData.Sheet

/-! # Extracting a schema

The anchor of a master stands at the top left of its header block: below it come a row of types, one
of names, one of descriptions, and then the records. The name of the master stands in the first cell
of the sheet. A sheet that lacks a part the schema needs declares no master; columns without a type
or a name are left out.
-/

namespace MasterData

/-- Why a header block is refused. -/
inductive HeaderError where
  /-- The key column has a type whose values cannot be keys. -/
  | unsupportedKeyType (sheet cell declared : String)
  | duplicateField (sheet field : String)
  deriving DecidableEq

/-- The wording of a refusal. -/
def HeaderError.message : HeaderError → String
  | unsupportedKeyType sheet cell declared =>
    sheet ++ "!" ++ cell ++ ": key column type '" ++ declared ++ "' cannot be used as an index key"
  | duplicateField sheet field => sheet ++ ": field '" ++ field ++ "' is declared more than once"

namespace MasterSchema

/-- The rows between the anchor and the first record. -/
def headerRows : Nat := 4

/-- The cell that names the master. -/
def nameCell : Address := ⟨0, 0⟩

/-- The cell that describes the master. -/
def descriptionCell : Address := ⟨0, 2⟩

/-- The column at a header block, if it has a type and a name. -/
def column? (t : TypeTable) (sheet : Sheet) (anchorRow col : UInt32) : Option Column :=
  let declaredType := Text.trim (sheet.textAt ⟨anchorRow + 1, col⟩)
  let fieldName := Text.trim (sheet.textAt ⟨anchorRow + 2, col⟩)
  if declaredType = "" ∨ fieldName = "" then none
  else some {
    column := col
    declaredType
    kind := t.classify declaredType
    fieldName
    description := sheet.textAt ⟨anchorRow + 3, col⟩ }

/-- The columns unless one of them is refused: a name that an earlier one has, or a key that cannot
be one. Of several refusals the first counts. -/
def checkColumns (sheet : String) (anchor : Address) :
    List String → List Column → Except HeaderError (List Column)
  | _, [] => .ok []
  | seen, c :: rest =>
    if seen.contains c.fieldName then .error (.duplicateField sheet c.fieldName)
    else if c.column = anchor.col ∧ !c.kind.isHashable then
      .error (.unsupportedKeyType sheet (Address.label ⟨anchor.row + 1, c.column⟩) c.declaredType)
    else (checkColumns sheet anchor (c.fieldName :: seen) rest).map (c :: ·)

/-- The schema of the master whose header block has its anchor at a place of the sheet; none where
the sheet declares no master there. -/
def extract (t : TypeTable) (workbook : String) (sheet : Sheet) (anchor : Address) :
    Except HeaderError (Option MasterSchema) :=
  let masterName := Text.trim (sheet.textAt nameCell)
  if masterName = "" ∨ UInt32.size ≤ anchor.row.toNat + headerRows then .ok none
  else
    let cols := ((sheet.rowCells (anchor.row + 1)).map (·.1)).filter (anchor.col ≤ ·)
    match cols.filterMap (column? t sheet anchor.row) with
    | [] => .ok none
    | key :: columns =>
      if key.column ≠ anchor.col then .ok none
      else (checkColumns sheet.name anchor [] (key :: columns)).map fun fields =>
        some {
          masterName
          masterDescription := sheet.textAt descriptionCell
          keyType := key.declaredType
          keyColumn := anchor.col
          fields
          source := ⟨workbook, sheet.name⟩
          anchor
          dataStartRow := anchor.row + 4 }

end MasterSchema

end MasterData
