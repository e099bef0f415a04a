-- SUMMARY: The kinds of values that a column can hold.
import MasterData.Json.Shape

/-! # Field kinds

The kind of a column says how its cells are decoded and how its values are typed. Arrays hold
scalars: numbers, characters, texts, truth values or members of an enumeration.
-/

namespace MasterData

/-- The number and character types. -/
inductive Primitive where
  | u8
  | i8
  | i16
  | u16
  | i32
  | u32
  | i64
  | u64
  | f32
  | f64
  | char
  deriving DecidableEq

namespace Primitive

def all : List Primitive := [u8, i8, i16, u16, i32, u32, i64, u64, f32, f64, char]

/-- The name of the type in generated code and in written schemas. -/
def typeName : Primitive → String
  | u8 => "u8"
  | i8 => "i8"
  | i16 => "i16"
  | u16 => "u16"
  | i32 => "i32"
  | u32 => "u32"
  | i64 => "i64"
  | u64 => "u64"
  | f32 => "f32"
  | f64 => "f64"
  | char => "char"

/-- The name that authors of sheets know the type by. -/
def authorName : Primitive → String
  | u8 => "byte"
  | i8 => "sbyte"
  | i16 => "short"
  | u16 => "ushort"
  | i32 => "int"
  | u32 => "uint"
  | i64 => "long"
  | u64 => "ulong"
  | f32 => "float"
  | f64 => "double"
  | char => "char"

/-- The type with a name of either sort. -/
def ofName? (name : String) : Option Primitive :=
  all.find? fun p => p.typeName = name || p.authorName = name

def isFloat : Primitive → Bool
  | f32 => true
  | f64 => true
  | _ => false

end Primitive

/-- The kind of a column. -/
inductive FieldKind where
  | primitive (p : Primitive)
  | string
  | boolean
  | enumeration (name : String) (members : List String)
  /-- An array of scalars, of a given length or of any. -/
  | array (element : FieldKind) (length : Option Nat)
  /-- A named type that no cell decodes to; its values are only carried forward. -/
  | opaqueType (name : String)
  deriving DecidableEq, Inhabited

namespace FieldKind

/-- Whether values of the kind can be keys of an index. -/
def isHashable : FieldKind → Bool
  | primitive p => !p.isFloat
  | string => true
  | boolean => true
  | enumeration _ _ => true
  | array _ _ => false
  | opaqueType _ => false

/-- Whether an array can hold values of the kind. -/
def isScalar : FieldKind → Bool
  | array _ _ => false
  | opaqueType _ => false
  | _ => true

/-! ## The written form -/

def toJson : FieldKind → Json
  | primitive p => .object [("kind", .text "primitive"), ("primitive", .text p.typeName)]
  | string => .object [("kind", .text "string")]
  | boolean => .object [("kind", .text "boolean")]
  | enumeration name members =>
    .object [("kind", .text "enumeration"), ("name", .text name),
      ("members", .list (members.map .text))]
  | array element length =>
    .object [("kind", .text "fixed_array"), ("element", element.toJson),
      ("len", (length.map Json.ofNat).getD .null)]
  | opaqueType name => .object [("kind", .text "opaque"), ("name", .text name)]

/-- The names of the kinds in the order of their declaration. -/
def kindNames : List String :=
  ["primitive", "string", "boolean", "enumeration", "fixed_array", "opaque"]

/-- The name of a kind and the rest of its object or list. A kind inside another one was kept for a
second reading, and so may have its number for its name. -/
def splitKind? (nested : Bool) (j : Json) : Option (String × Json) :=
  match j with
  | .object members =>
    match members.filter (·.1 = "kind") with
    | [(_, name)] =>
      (name.asListedName? kindNames nested).map (·, .object (members.filter (·.1 ≠ "kind")))
    | _ => none
  | .list (name :: rest) => (name.asListedName? kindNames nested).map (·, .list rest)
  | _ => none

/-- A length, which may be `null`; in an object it may be missing. -/
def lengthOfFields? (f : Json.Fields) : Option (Option Nat) :=
  let length (j : Json) := (j.asIntIn? 0 0xffffffffffffffff).map Int.toNat
  if f.positional then f.required? "len" (Json.asNullable? length)
  else f.defaulted? "len" none (Json.asNullable? length)

/-- The kind of a name and its fields, nested at most `depth` deep. -/
def ofParts? : Nat → String → Json → Option FieldKind
  | depth, name, rest =>
    match name with
    | "primitive" => do
      let f ← rest.fields? ["primitive"]
      let typeName ← f.required? "primitive" (Json.asVariantName? 0 true)
      (Primitive.all.find? (·.typeName = typeName)).map primitive
    | "string" => if isBare rest then some string else none
    | "boolean" => if isBare rest then some boolean else none
    | "enumeration" => do
      let f ← rest.fields? ["name", "members"]
      let name ← f.required? "name" Json.asText?
      let members ← f.required? "members" (Json.asListOf? Json.asText?)
      return enumeration name members
    | "fixed_array" =>
      match depth with
      | 0 => none
      | depth + 1 => do
        let f ← rest.fields? ["element", "len"]
        let element ← f.required? "element" fun j => do
          let (name, rest) ← splitKind? true j
          ofParts? depth name rest
        let length ← lengthOfFields? f
        return array element length
    | "opaque" => do
      let f ← rest.fields? ["name"]
      (f.required? "name" Json.asText?).map opaqueType
    | _ => none
where
  /-- Whether nothing that counts follows the name of a kind without fields. -/
  isBare : Json → Bool
    | .object _ => true
    | .list items => items.isEmpty
    | _ => false

/-- The kind that a value spells, with `depth` nested lists and objects to come, its own included.
The fields are kept until the name is known, so all of them must be usable. -/
def ofJson? (depth : Nat) (j : Json) : Option FieldKind := do
  let (name, rest) ← splitKind? false j
  if rest.isUsable depth then ofParts? depth name rest else none

end FieldKind

end MasterData
