-- SUMMARY: The values that records hold.
import MasterData.Json.Shape
import MasterData.Number.Literal
import MasterData.Text.Quoted

/-! # Field values

A field of a record holds a number, a character, a truth value, a text, a list of values, or nothing.
Signed and unsigned whole numbers are kept apart, and a member of an enumeration is kept as its text.
-/

namespace MasterData

/-- A value of a record. -/
inductive FieldValue where
  | int (i : Int64)
  | uint (n : UInt64)
  | float (x : Double)
  | char (c : Char)
  | bool (b : Bool)
  | text (s : String)
  | array (items : List FieldValue)
  | empty
  deriving Inhabited

namespace FieldValue

/-! ## Equality -/

mutual

/-- Whether two values are equal, part by part. -/
def equals : FieldValue → FieldValue → Bool
  | int i, int j => i == j
  | uint m, uint n => m == n
  | float x, float y => x == y
  | char c, char d => c == d
  | bool b, bool c => b == c
  | text s, text t => s == t
  | array xs, array ys => equalLists xs ys
  | empty, empty => true
  | _, _ => false

def equalLists : List FieldValue → List FieldValue → Bool
  | [], [] => true
  | x :: xs, y :: ys => equals x y && equalLists xs ys
  | _, _ => false

end

mutual

theorem equals_iff_eq (a b : FieldValue) : equals a b = true ↔ a = b := by
  cases a with
  | array xs =>
    cases b with
    | array ys => simp [equals, equalLists_iff_eq xs ys]
    | _ => simp [equals]
  | _ => cases b <;> simp [equals]

theorem equalLists_iff_eq (xs ys : List FieldValue) : equalLists xs ys = true ↔ xs = ys := by
  cases xs with
  | nil => cases ys <;> simp [equalLists]
  | cons x xs =>
    cases ys with
    | nil => simp [equalLists]
    | cons y ys => simp [equalLists, equals_iff_eq x y, equalLists_iff_eq xs ys]

end

instance : DecidableEq FieldValue := fun a b => decidable_of_iff _ (equals_iff_eq a b)

/-! ## Views -/

def asText? : FieldValue → Option String
  | text s => some s
  | _ => none

/-- The value of a number of any sort as a double. -/
def asNumber? : FieldValue → Option Double
  | int i => some (Double.ofInt i.toInt)
  | uint n => some (Double.ofInt n.toNat)
  | float x => some x
  | _ => none

def asArray? : FieldValue → Option (List FieldValue)
  | array items => some items
  | _ => none

def isEmpty : FieldValue → Bool
  | empty => true
  | _ => false

mutual

/-- The text that names a value in reports. -/
def display : FieldValue → String
  | int i => toString i.toInt
  | uint n => toString n.toNat
  | float x => x.display
  | char c => Text.quotedChar c
  | bool b => toString b
  | text s => Text.quoted s
  | array items => "[" ++ ", ".intercalate (displayList items) ++ "]"
  | empty => "<empty>"

def displayList : List FieldValue → List String
  | [] => []
  | item :: rest => item.display :: displayList rest

end

mutual

/-- Whether every float in a value is a number, so that the value equals itself. -/
def isReflexive : FieldValue → Bool
  | float x => !x.isNaN
  | array items => areReflexive items
  | _ => true

def areReflexive : List FieldValue → Bool
  | [] => true
  | item :: rest => item.isReflexive && areReflexive rest

end

/-- Whether two values are one key: floats by their bits, and one that is no number is the same key
as nothing. -/
def sameKey (a b : FieldValue) : Bool :=
  a == b && a.isReflexive

/-! ## The written form -/

mutual

/-- A value under the name of its variant. -/
def toJson : FieldValue → Json
  | int i => .object [("type", .text "Int"), ("value", .ofInt i.toInt)]
  | uint n => .object [("type", .text "UInt"), ("value", .ofNat n.toNat)]
  | float x => .object [("type", .text "Float"), ("value", .ofDouble x)]
  | char c => .object [("type", .text "Char"), ("value", .text (String.ofList [c]))]
  | bool b => .object [("type", .text "Bool"), ("value", .bool b)]
  | text s => .object [("type", .text "Text"), ("value", .text s)]
  | array items => .object [("type", .text "Array"), ("value", .list (toJsonList items))]
  | empty => .object [("type", .text "Empty")]

def toJsonList : List FieldValue → List Json
  | [] => []
  | item :: rest => item.toJson :: toJsonList rest

end

/-- The names of the variants in the order of their declaration. -/
def variantNames : List String :=
  ["Int", "UInt", "Float", "Char", "Bool", "Text", "Array", "Empty"]

/-- The value that a tree spells, with `depth` nested lists and objects to come, its own included. -/
def ofJson? : (depth : Nat) → (kept : Bool) → Json → Option FieldValue
  | 0, _, _ => none
  | depth + 1, kept, j => do
    let v ← j.asVariant? variantNames depth kept
    match v.name with
    | "Int" => (v.with? Json.asInt64?).map int
    | "UInt" => (v.with? Json.asUInt64?).map uint
    | "Float" => (v.with? Json.asDouble?).map float
    | "Char" => (v.with? Json.asChar?).map char
    | "Bool" => (v.with? Json.asBool?).map bool
    | "Text" => (v.with? Json.asText?).map text
    | "Array" =>
      match depth with
      | 0 => none
      | depth + 1 => (v.with? (Json.asListOf? (ofJson? depth v.kept))).map array
    | "Empty" => if v.isBare then some empty else none
    | _ => none

end FieldValue

end MasterData
