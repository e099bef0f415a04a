-- SUMMARY: Workbooks opened from a disk, and those that a folder holds.
import MasterData.Disk.Basic
import MasterData.Workbook.Book
import MasterData.Workbook.Format

/-! # Opening workbooks

The extension of a file decides how it is opened. The workbooks of a folder are the files directly
inside with such an extension, in the order of their names; files with a tilde in their name are
locks or backups of editors.
-/

namespace MasterData.Workbook

/-- The workbook at a path. -/
def openAt (d : Disk) (path : String) : Except WorkbookError Workbook :=
  let failed := WorkbookError.cannotOpen path Cause.container.tag
  match WorkbookFormat.ofPath? path with
  | none => .error (.unsupportedFormat path)
  | some .json =>
    match d.read path with
    | .ok content =>
      match Document.parse? content.symbols with
      | some parsed => .ok (.document parsed)
      | none => .error failed
    | .error _ => .error failed
  | some _ =>
    match d.read path with
    | .ok (.spreadsheet s) =>
      if (Path.extension? path).any WorkbookFormat.fixesContainer then .error failed
      else .ok (.spreadsheet s)
    | _ => .error failed

/-- Whether a file with that name is a workbook. -/
def isWorkbookName (name : String) : Bool :=
  !name.toList.contains '~' && (WorkbookFormat.ofPath? name).isSome

/-- The names of the workbooks among the entries of a folder, in increasing order. -/
def workbookNames (entries : List (String × Entry)) : List String :=
  let names := entries.filterMap fun (name, e) =>
    match e with
    | .file _ => if isWorkbookName name then some name else none
    | .folder => none
  names.mergeSort fun a b => decide (a ≤ b)

/-- The paths of the workbooks directly inside a folder. -/
def listIn (d : Disk) (folder : String) : Except WorkbookError (List String) :=
  match d.list folder with
  | .ok entries => .ok ((workbookNames entries).map (Path.join folder))
  | .error _ => .error .system

end MasterData.Workbook
