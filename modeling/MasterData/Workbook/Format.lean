-- SUMMARY: The file formats of workbooks.
import MasterData.Path

/-! # Workbook formats

The extension of a file tells its format, in any mixture of cases.
-/

namespace MasterData

/-- A file format of workbooks. -/
inductive WorkbookFormat where
  | xlsx
  | xlsm
  | xlsb
  | xls
  | ods
  | json
  deriving DecidableEq

namespace WorkbookFormat

/-- The extension of a format in lower case. -/
def extension : WorkbookFormat → String
  | xlsx => "xlsx"
  | xlsm => "xlsm"
  | xlsb => "xlsb"
  | xls => "xls"
  | ods => "ods"
  | json => "json"

def all : List WorkbookFormat := [xlsx, xlsm, xlsb, xls, ods, json]

/-- A text with its ASCII letters in lower case. -/
def lower (s : String) : String :=
  String.ofList (s.toList.map Char.toLower)

/-- The format that an extension tells. -/
def ofExtension? (extension : String) : Option WorkbookFormat :=
  all.find? (·.extension = lower extension)

/-- The format that the name of a file tells. -/
def ofPath? (path : String) : Option WorkbookFormat :=
  (Path.extension? path).bind ofExtension?

/-- Extensions that name one container exactly, so that a file with one of them must be of that kind;
under any other spelling the content itself decides. -/
def fixesContainer (extension : String) : Bool :=
  ["xls", "xla", "xlsb", "ods"].contains extension

end WorkbookFormat

end MasterData
