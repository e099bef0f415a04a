-- SUMMARY: Trees written as YAML in blocks.
import MasterData.Json.Printer
import MasterData.Yaml.Style

/-! # Writing YAML

Members stand on lines of their own, those of an inner map two spaces deeper. The items of a list
stand at the column of the key of the list; the parts of an item follow its dash. What is empty is
written in brackets.
-/

namespace MasterData.Yaml

/-- The end of a line, unless the text before it ended one. -/
def closeLine (cs : List Char) : List Char :=
  if cs.getLast?.any endsLine then cs else cs ++ ['\n']

/-- A text behind a key or a dash, with the end of its line. -/
def textLine (indent : Nat) (s : String) : List Char :=
  closeLine (scalarChars (.of s) indent s.toList)

/-- A key; it never takes more than one line. -/
def keyChars (s : String) : List Char :=
  let style := ScalarStyle.of s
  scalarChars (if s.toList.any endsLine then .double else style) 0 s.toList

def spaces (n : Nat) : List Char :=
  List.replicate n ' '

/-- A value on the line on which it starts; none where it needs lines of its own. -/
def lineOf? (indent : Nat) : Json → Option (List Char)
  | .null => some "null\n".toList
  | .bool b => some (if b then "true\n".toList else "false\n".toList)
  | .number n => some (n.chars ++ ['\n'])
  | .text s => some (textLine indent s)
  | .list [] => some "[]\n".toList
  | .list _ => none
  | .object [] => some "\x7b\x7d\n".toList
  | .object _ => none
  | .unreadable => some "null\n".toList

mutual

/-- The lines of a value at a column; its first line is already indented. -/
def linesAt (col : Nat) : Json → List Char
  | .list items => itemsAt col items
  | .object members => membersAt col members
  | j => (lineOf? (col + 2) j).getD []

/-- Items at a column, the first one already indented. -/
def itemsAt (col : Nat) : List Json → List Char
  | [] => []
  | item :: rest =>
    '-' :: ' ' :: (match lineOf? (col + 2) item with
      | some line => line
      | none => linesAt (col + 2) item)
    ++ if rest.isEmpty then [] else spaces col ++ itemsAt col rest

/-- Members at a column, the first one already indented. -/
def membersAt (col : Nat) : List (String × Json) → List Char
  | [] => []
  | (key, .list items) :: rest =>
    keyChars key ++ ':' :: (match lineOf? (col + 2) (.list items) with
      | some line => ' ' :: line
      | none => '\n' :: spaces col ++ itemsAt col items)
    ++ if rest.isEmpty then [] else spaces col ++ membersAt col rest
  | (key, j) :: rest =>
    keyChars key ++ ':' :: (match lineOf? (col + 2) j with
      | some line => ' ' :: line
      | none => '\n' :: spaces (col + 2) ++ linesAt (col + 2) j)
    ++ if rest.isEmpty then [] else spaces col ++ membersAt col rest

end

/-- The text of a tree. -/
def render (j : Json) : String :=
  String.ofList (match lineOf? 0 j with
    | some line => line
    | none => linesAt 0 j)

end MasterData.Yaml
