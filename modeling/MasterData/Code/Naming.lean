-- SUMMARY: Identifiers of generated code.
import MasterData.Schema.Kind
import MasterData.Text.Case
import MasterData.Text.Classes

/-! # Naming

Sheets name masters, columns and members freely; generated code needs identifiers. Modules and
fields are named in snake case, types in camel case, and whatever would be a keyword is changed.
-/

namespace MasterData.Naming

open Text

/-! ## Reserved words -/

/-- The keywords of generated code. -/
def keywords : List String := [
  "as", "async", "await", "break", "const", "continue", "crate", "dyn", "else", "enum", "extern",
  "false", "fn", "for", "gen", "if", "impl", "in", "let", "loop", "match", "mod", "move", "mut",
  "pub", "ref", "return", "self", "Self", "static", "struct", "super", "trait", "true", "type",
  "unsafe", "use", "where", "while", "abstract", "become", "box", "do", "final", "macro",
  "override", "priv", "try", "typeof", "unsized", "virtual", "yield"]

/-- The keywords that no mark turns into identifiers. -/
def strictKeywords : List String := ["self", "Self", "super", "crate"]

/-- The type names that generated modules import, declare or spell out. -/
def reservedTypes : List String := [
  "AssetStore", "FieldValue", "FromFieldValue", "Keyed", "MasterIndex", "MasterRecord", "MasterRow",
  "MasterSlot", "Masters", "RuntimeError", "UnknownMember", "Option", "Result", "String", "Vec"]

def isKeyword (name : String) : Bool := keywords.contains name

def isReservedType (name : String) : Bool := reservedTypes.contains name

/-- A character that may stand behind the first one of an identifier. -/
def isWordChar (c : Char) : Bool := c = '_' || isAlphanumeric c

/-- Whether a name can be used as it stands. -/
def isIdentifier (name : String) : Bool :=
  match name.toList with
  | [] => false
  | c :: cs =>
    (c = '_' || isAlphabetic c) && cs.all isWordChar && name ≠ "_" && !isKeyword name

/-! ## Snake case -/

/-- Characters in reverse, with an underscore to separate what comes next from what is there. -/
def separated (reversed : List Char) : List Char :=
  match reversed with
  | [] => []
  | '_' :: _ => reversed
  | _ => '_' :: reversed

/-- Whether a word starts at an upper-case character between two neighbours: behind a lower-case
character or a numeral, or at the last capital of several before a lower-case character. -/
def startsWord (previous next : Option Char) : Bool :=
  match previous with
  | none => false
  | some p =>
    isLowercase p || isNumeral p || (isUppercase p && next.any isLowercase)

/-- One character appended in snake case to characters in reverse. -/
def snakeStep (previous next : Option Char) (c : Char) (reversed : List Char) : List Char :=
  if !isAlphanumeric c then separated reversed
  else if isUppercase c then
    (lowerCase c).reverse ++ (if startsWord previous next then separated reversed else reversed)
  else c :: reversed

/-- All characters appended in snake case to characters in reverse. -/
def snakeReversed (previous : Option Char) (reversed : List Char) : List Char → List Char
  | [] => reversed
  | c :: cs => snakeReversed (some c) (snakeStep previous cs.head? c reversed) cs

/-- A name in lower-case words joined by underscores. A name without letters and numerals becomes
`field`, and one that starts with a numeral gets an underscore in front. -/
def snakeCase (name : String) : String :=
  match ((snakeReversed none [] name.toList).dropWhile (· = '_')).reverse with
  | [] => "field"
  | c :: cs => String.ofList (if isNumeral c then '_' :: c :: cs else c :: cs)

/-! ## Types, modules and fields -/

/-- The characters that follow each other in camel case; `fresh` tells whether a word starts. -/
def camelChars (fresh : Bool) : List Char → List Char
  | [] => []
  | c :: cs =>
    if isAlphanumeric c then (if fresh then upperCase c else [c]) ++ camelChars false cs
    else camelChars true cs

/-- A name as a type: its words joined, each with its first character in upper case. -/
def typeName (name : String) : String :=
  match camelChars true name.toList with
  | [] => "Master"
  | c :: cs =>
    let joined := String.ofList (if isNumeral c then 'M' :: c :: cs else c :: cs)
    if isKeyword joined then joined ++ "_" else joined

/-- A master as a module, which is also the stem of its file. -/
def moduleName (master : String) : String :=
  let name := snakeCase master
  if isKeyword name then name ++ "_" else name

/-- A column as a field. -/
def fieldIdent (name : String) : String :=
  let name := snakeCase name
  if strictKeywords.contains name then name ++ "_"
  else if isKeyword name then "r#" ++ name
  else name

/-- The identifier, or the first of its numbered forms that is not taken; among one more form than
identifiers taken there is a free one. -/
def freshIdent (taken : List String) (base : String) : String :=
  if taken.contains base then
    let numbered := (List.range' 2 (taken.length + 1)).map fun n => base ++ "_" ++ toString n
    (numbered.find? fun ident => !taken.contains ident).getD base
  else base

/-- The fields of further columns behind taken ones. -/
def fieldIdentsFrom (taken : List String) : List String → List String
  | [] => []
  | name :: names =>
    let ident := freshIdent taken (fieldIdent name)
    ident :: fieldIdentsFrom (ident :: taken) names

/-- The fields of a list of columns, all different. -/
def fieldIdents (names : List String) : List String :=
  fieldIdentsFrom [] names

/-- The type of a field of a kind. -/
def fieldType : FieldKind → String
  | .primitive p => p.typeName
  | .string => "String"
  | .boolean => "bool"
  | .enumeration name _ => typeName name
  | .array element none => "Vec<" ++ fieldType element ++ ">"
  | .array element (some n) => "[" ++ fieldType element ++ "; " ++ toString n ++ "]"
  | .opaqueType _ => "FieldValue"

end MasterData.Naming
