-- SUMMARY: Workbooks of either kind.
import MasterData.Workbook.Document
import MasterData.Workbook.Error
import MasterData.Workbook.Spreadsheet

/-! # Workbooks

A workbook is a JSON document or a spreadsheet; both list their sheets and read one by name.
-/

namespace MasterData

/-- What it takes to walk through the sheets of a workbook. -/
structure WorkbookReader where
  sheetNames : Except WorkbookError (List String)
  readSheet : String → Except WorkbookError Sheet

/-- An opened workbook. -/
inductive Workbook where
  | document (d : Document)
  | spreadsheet (s : Spreadsheet)

namespace Workbook

/-- The name of the reader behind a workbook. -/
def backendName : Workbook → String
  | document _ => "json"
  | spreadsheet _ => Spreadsheet.backendName

def sheetNames : Workbook → List String
  | document d => d.sheetNames
  | spreadsheet s => s.sheetNames

/-- The first sheet with a name. -/
def readSheet (w : Workbook) (name : String) : Except WorkbookError Sheet :=
  match w with
  | document d =>
    match d.sheet? name with
    | some sheet => .ok sheet
    | none => .error (.missingSheet name)
  | spreadsheet s =>
    match s.sheets.find? (·.name = name) with
    | some stored =>
      match stored.range with
      | some r => .ok (Spreadsheet.sheetOfRange name r)
      | none => .error (.reader Spreadsheet.backendName Cause.container.tag)
    | none => .error (.missingSheet name)

def reader (w : Workbook) : WorkbookReader where
  sheetNames := .ok w.sheetNames
  readSheet := w.readSheet

end Workbook

end MasterData
