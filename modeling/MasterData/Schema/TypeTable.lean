-- SUMMARY: Declared type names and the kinds they stand for.
import MasterData.Schema.Kind
import MasterData.SortedMap
import MasterData.Text.Blank
import MasterData.Text.Classes

/-! # Type names

A header declares the type of a column by a free text: a scalar name, `E[]` for arrays of any
length, or `[E; N]` for arrays of a fixed one. Built-in names come before aliases and aliases before
enumerations; a name that nothing defines is opaque.
-/

namespace MasterData

/-- The type names that a project adds to the built-in ones. -/
structure TypeTable where
  aliases : SortedMap String Primitive
  enums : SortedMap String (List String)
  deriving DecidableEq, Inhabited

namespace TypeTable

def empty : TypeTable := ⟨.empty, .empty⟩

/-- The longest fixed array; a longer one is opaque. -/
def maxArrayLength : Nat := 32

/-- The kind of a name outside arrays. -/
def classifyScalar (t : TypeTable) (name : String) : FieldKind :=
  if ["string", "String", "str"].contains name then .string
  else if ["bool", "boolean"].contains name then .boolean
  else
    match Primitive.ofName? name with
    | some p => .primitive p
    | none =>
      match t.aliases.get? name with
      | some p => .primitive p
      | none =>
        match t.enums.get? name with
        | some members => .enumeration name members
        | none => .opaqueType name

/-- The array of an element type, or the whole declaration as opaque where the element is no
scalar. -/
def arrayOf (t : TypeTable) (declared element : String) (length : Option Nat) : FieldKind :=
  let kind := t.classifyScalar element
  if kind.isScalar then .array kind length else .opaqueType declared

/-- The text before a final `[]`. -/
def openArrayElement? (declared : List Char) : Option (List Char) :=
  match declared.reverse with
  | ']' :: '[' :: rest => some rest.reverse
  | _ => none

/-- A character that cannot stand inside an element name of a fixed array. -/
def isArrayMark (c : Char) : Bool :=
  c = '[' || c = ']' || c = ';'

/-- The element name in the text between the bracket and the semicolon: without the blanks around
it, or the last blank where there is nothing else. -/
def elementName? (cs : List Char) : Option (List Char) :=
  if cs.any isArrayMark then none
  else
    match Text.trimRight (Text.trimLeft cs) with
    | [] => cs.getLast?.map ([·])
    | name => some name

/-- The element name and the digits of a fixed array. -/
def fixedArrayParts? (declared : List Char) : Option (List Char × List Char) :=
  match declared with
  | '[' :: inside =>
    match inside.reverse with
    | ']' :: reversed =>
      let inside := reversed.reverse
      let element := inside.takeWhile (· ≠ ';')
      match inside.dropWhile (· ≠ ';') with
      | _ :: tail =>
        let digits := Text.trimRight (Text.trimLeft tail)
        if digits ≠ [] ∧ digits.all Text.isDecimalDigit then
          (elementName? element).map (·, digits)
        else none
      | [] => none
    | _ => none
  | _ => none

/-- The length that digits give, if they are plain ones and it is not too great. -/
def arrayLength? (digits : List Char) : Option Nat :=
  if digits.all Char.isDigit then
    some (Double.digitsValue digits) |>.filter (· ≤ maxArrayLength)
  else none

/-- The kind that a declared type stands for. -/
def classify (t : TypeTable) (declared : String) : FieldKind :=
  let declared := Text.trim declared
  match openArrayElement? declared.toList with
  | some element => t.arrayOf declared (Text.trim (String.ofList element)) none
  | none =>
    match fixedArrayParts? declared.toList with
    | some (element, digits) =>
      match arrayLength? digits with
      | some length => t.arrayOf declared (String.ofList element) (some length)
      | none => .opaqueType declared
    | none => t.classifyScalar declared

end TypeTable

end MasterData
