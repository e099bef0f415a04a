-- SUMMARY: Generated source laid out in indented lines.
import MasterData.Text.Blank
import MasterData.Text.Lines

/-! # Layout of generated source

A source is a list of items: lines, brackets that open and close a block, and comments. Each block
is indented by four spaces; a comment becomes one line for each line of its text.
-/

namespace MasterData.Code

/-- An item of a source. -/
inductive Item where
  | line (text : String)
  | blank
  /-- A line behind which a block starts. -/
  | openBlock (text : String)
  /-- A line before which a block ends. -/
  | closeBlock (text : String)
  /-- A comment on what follows. -/
  | doc (text : String)
  /-- A comment on the whole source. -/
  | innerDoc (text : String)
  deriving DecidableEq

/-- A line at a depth; an empty one is not indented. -/
def lineAt (depth : Nat) (text : String) : String :=
  if text = "" then "\n" else String.ofList (List.replicate (4 * depth) ' ') ++ text ++ "\n"

/-- A comment line. -/
def commentLine (marker line : String) : String :=
  let line := Text.trimEnd line
  if line = "" then marker else marker ++ " " ++ line

/-- A comment, line by line. -/
def comment (depth : Nat) (marker text : String) : String :=
  String.join ((Text.lines text).map fun line => lineAt depth (commentLine marker line))

/-- The text of an item at a depth. -/
def Item.text (depth : Nat) : Item → String
  | line text => lineAt depth text
  | blank => lineAt depth ""
  | openBlock text => lineAt depth text
  | closeBlock text => lineAt (depth - 1) text
  | doc text => comment depth "///" text
  | innerDoc text => comment depth "//!" text

/-- The depth behind an item. -/
def Item.depthAfter (depth : Nat) : Item → Nat
  | openBlock _ => depth + 1
  | closeBlock _ => depth - 1
  | _ => depth

/-- The texts of the items that start at a depth. -/
def texts (depth : Nat) : List Item → List String
  | [] => []
  | item :: rest => item.text depth :: texts (item.depthAfter depth) rest

/-- The text of a source. -/
def render (items : List Item) : String :=
  String.join (texts 0 items)

/-- The words that open every generated file. -/
def generatedBy : String := "// @generated by sheetmaster"

/-- Whether a file was generated: its first line opens with the words that say so. -/
def isGenerated (content : String) : Bool :=
  match Text.lines content with
  | first :: _ => generatedBy.toList.isPrefixOf first.toList
  | [] => false

end MasterData.Code
