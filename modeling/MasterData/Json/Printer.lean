-- SUMMARY: JSON trees as text, on one line or indented.
import MasterData.Json.Tree

/-! # Writing JSON

The indented style puts each part of a list or object on a line of its own, two spaces deeper than
the bracket, and a space behind each colon; an empty list or object stays closed up. The compact
style has no blanks at all.
-/

namespace MasterData.Json

/-- The two ways to lay a document out. -/
inductive Style where
  | compact
  | indented
  deriving DecidableEq

/-- The break before a part that is nested `level` deep. -/
def Style.lineBreak (style : Style) (level : Nat) : List Char :=
  match style with
  | .compact => []
  | .indented => '\n' :: List.replicate (2 * level) ' '

/-- The mark between a key and its value. -/
def Style.colon (style : Style) : List Char :=
  match style with
  | .compact => [':']
  | .indented => [':', ' ']

/-- A lower-case hexadecimal digit. -/
def hexDigit (n : Nat) : Char :=
  Nat.digitChar n

/-- A character as it stands inside a string. -/
def escapeChar (c : Char) : List Char :=
  if c = '"' then ['\\', '"']
  else if c = '\\' then ['\\', '\\']
  else if c = '\x08' then ['\\', 'b']
  else if c = '\t' then ['\\', 't']
  else if c = '\n' then ['\\', 'n']
  else if c = '\x0c' then ['\\', 'f']
  else if c = '\r' then ['\\', 'r']
  else if c.toNat < 0x20 then
    ['\\', 'u', '0', '0', hexDigit (c.toNat / 16), hexDigit (c.toNat % 16)]
  else [c]

/-- A string with its quotes. -/
def stringChars (s : String) : List Char :=
  '"' :: s.toList.flatMap escapeChar ++ ['"']

/-- The literal of a number; an exponent always has its sign. -/
def Numeral.chars (n : Numeral) : List Char :=
  (if n.negative then ['-'] else []) ++ n.whole
    ++ (if n.fraction = [] then [] else '.' :: n.fraction)
    ++ match n.exponent with
      | none => []
      | some e => 'e' :: (if e < 0 then '-' else '+') :: Nat.toDigits 10 e.natAbs

mutual

/-- The characters of a document nested `level` deep. -/
def chars (style : Style) (level : Nat) : Json → List Char
  | .null => ['n', 'u', 'l', 'l']
  | .bool true => ['t', 'r', 'u', 'e']
  | .bool false => ['f', 'a', 'l', 's', 'e']
  | .number n => n.chars
  | .text s => stringChars s
  | .list [] => ['[', ']']
  | .list (first :: rest) =>
    '[' :: (style.lineBreak (level + 1) ++ chars style (level + 1) first
      ++ itemChars style (level + 1) rest ++ style.lineBreak level ++ [']'])
  | .object [] => ['\x7b', '\x7d']
  | .object ((key, first) :: rest) =>
    '\x7b' :: (style.lineBreak (level + 1) ++ stringChars key ++ style.colon
      ++ chars style (level + 1) first ++ memberChars style (level + 1) rest
      ++ style.lineBreak level ++ ['\x7d'])
  | .unreadable => ['n', 'u', 'l', 'l']

/-- The items of a list behind the first, each with its comma. -/
def itemChars (style : Style) (level : Nat) : List Json → List Char
  | [] => []
  | item :: rest =>
    ',' :: (style.lineBreak level ++ chars style level item ++ itemChars style level rest)

/-- The members of an object behind the first, each with its comma. -/
def memberChars (style : Style) (level : Nat) : List (String × Json) → List Char
  | [] => []
  | (key, value) :: rest =>
    ',' :: (style.lineBreak level ++ stringChars key ++ style.colon ++ chars style level value
      ++ memberChars style level rest)

end

/-- The document on one line. -/
def compact (j : Json) : String :=
  String.ofList (chars .compact 0 j)

/-- The document in indented lines. -/
def pretty (j : Json) : String :=
  String.ofList (chars .indented 0 j)

end MasterData.Json
