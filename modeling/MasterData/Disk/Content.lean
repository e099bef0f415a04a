-- SUMMARY: What files hold.
import MasterData.Text.Utf8
import MasterData.Workbook.Spreadsheet

/-! # File contents

A file holds text, bytes that are no text, or a spreadsheet container. A container is kept as what
is in it, and counts as bytes that are no text wherever text is wanted.
-/

namespace MasterData

open Text (Symbol)

/-- The content of a file. -/
inductive Content where
  | text (s : String)
  /-- Bytes that are not UTF-8, as symbols one of which at least is damaged. -/
  | damaged (symbols : List Symbol)
  | spreadsheet (s : Spreadsheet)
  deriving DecidableEq

namespace Content

/-- The content that bytes make. -/
def ofBytes (bytes : List UInt8) : Content :=
  let symbols := Text.Utf8.decode bytes
  match Text.textOfSymbols? symbols with
  | some s => text s
  | none => damaged symbols

def text? : Content → Option String
  | text s => some s
  | _ => none

/-- The symbols that a reader of text meets. -/
def symbols : Content → List Symbol
  | text s => Text.symbols s
  | damaged symbols => symbols
  | spreadsheet _ => [none]

end Content

end MasterData
