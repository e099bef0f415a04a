-- SUMMARY: Failures while opening or reading a workbook.
import MasterData.Cause

/-! # Workbook errors

A failure that arises after a workbook was opened does not know the file; it is put into the context
of its workbook once, by `inWorkbook`, and keeps that context from then on.
-/

namespace MasterData

/-- A failure while opening or reading a workbook. -/
inductive WorkbookError where
  /-- The workbook could not be opened or does not parse. -/
  | cannotOpen (path message : String)
  /-- A reader failed on an opened workbook. -/
  | reader (backend message : String)
  /-- A failure inside the opened workbook at a path. -/
  | reading (path : String) (failure : WorkbookError)
  | missingSheet (sheet : String)
  | unsupportedFormat (path : String)
  /-- A document is no JSON workbook. -/
  | malformed
  /-- The system refused a file operation. -/
  | system
  deriving DecidableEq

namespace WorkbookError

/-- The wording of a failure. -/
def message : WorkbookError → String
  | cannotOpen path message => "failed to open workbook " ++ path ++ ": " ++ message
  | reader backend message => backend ++ " backend error: " ++ message
  | reading path failure => "failed to read workbook " ++ path ++ ": " ++ failure.message
  | missingSheet sheet => "workbook has no sheet named '" ++ sheet ++ "'"
  | unsupportedFormat path => "unsupported workbook format: " ++ path
  | malformed => Cause.json.tag
  | system => Cause.system.tag

/-- The workbook that a failure concerns, where it is known. -/
def path? : WorkbookError → Option String
  | cannotOpen path _ => some path
  | reading path _ => some path
  | unsupportedFormat path => some path
  | _ => none

/-- The failure in the context of a workbook; one that already names a file stays as it is. -/
def inWorkbook (e : WorkbookError) (path : String) : WorkbookError :=
  if e.path?.isSome then e else reading path e

theorem path?_inWorkbook (e : WorkbookError) (path : String) :
    (e.inWorkbook path).path? = some (e.path?.getD path) := by
  cases e <;> simp [inWorkbook, path?]

theorem inWorkbook_inWorkbook (e : WorkbookError) (path₁ path₂ : String) :
    (e.inWorkbook path₁).inWorkbook path₂ = e.inWorkbook path₁ := by
  cases e <;> simp [inWorkbook, path?]

end WorkbookError

end MasterData
