-- SUMMARY: The types of fields in application code and the values read at them.
import MasterData.Code.Naming
import MasterData.Record.Asset
import MasterData.Schema.Kind

/-! # Typed fields

Application code reads a stored value at the type of its field. Whole numbers wrap around into the
type, floats are brought into its range; texts, truth values and members must be of their own sort,
and a list is read only if all of its items are. What cannot be read becomes the default of the type.
-/

namespace MasterData

/-- The type of a field. -/
inductive FieldType where
  | primitive (p : Primitive)
  | text
  | bool
  /-- An enumeration, which has at least one member. -/
  | enumeration (name : String) (first : String) (rest : List String)
  | list (element : FieldType)
  | fixed (element : FieldType) (length : Nat)
  /-- A value of any sort, as it is stored. -/
  | any
  deriving DecidableEq

namespace Primitive

/-- The values of a primitive type. -/
def Value : Primitive → Type
  | u8 => UInt8
  | i8 => Int8
  | i16 => Int16
  | u16 => UInt16
  | i32 => Int32
  | u32 => UInt32
  | i64 => Int64
  | u64 => UInt64
  | f32 => Single
  | f64 => Double
  | char => Char

instance (p : Primitive) : DecidableEq p.Value :=
  match p with
  | u8 => inferInstanceAs (DecidableEq UInt8)
  | i8 => inferInstanceAs (DecidableEq Int8)
  | i16 => inferInstanceAs (DecidableEq Int16)
  | u16 => inferInstanceAs (DecidableEq UInt16)
  | i32 => inferInstanceAs (DecidableEq Int32)
  | u32 => inferInstanceAs (DecidableEq UInt32)
  | i64 => inferInstanceAs (DecidableEq Int64)
  | u64 => inferInstanceAs (DecidableEq UInt64)
  | f32 => inferInstanceAs (DecidableEq Single)
  | f64 => inferInstanceAs (DecidableEq Double)
  | char => inferInstanceAs (DecidableEq Char)

/-- The value of a whole number, which wraps around into an integer type and is rounded into a float
type. Only some whole numbers are characters. -/
def ofInt? (p : Primitive) (i : Int) : Option p.Value :=
  match p with
  | u8 => some (UInt8.ofNat (i % 0x100).toNat)
  | i8 => some (Int8.ofInt i)
  | i16 => some (Int16.ofInt i)
  | u16 => some (UInt16.ofNat (i % 0x10000).toNat)
  | i32 => some (Int32.ofInt i)
  | u32 => some (UInt32.ofNat (i % 0x100000000).toNat)
  | i64 => some (Int64.ofInt i)
  | u64 => some (UInt64.ofNat (i % 0x10000000000000000).toNat)
  | f32 => some (Single.ofInt i)
  | f64 => some (Double.ofInt i)
  | char => if 0 ≤ i ∧ i.toNat.isValidChar then some (Char.ofNat i.toNat) else none

/-- The value of a float, which an integer type cuts off and brings into its range. -/
def ofDouble? (p : Primitive) (x : Double) : Option p.Value :=
  match p with
  | u8 => some (UInt8.ofNat (x.clamp 0 0xff).toNat)
  | i8 => some (Int8.ofInt (x.clamp (-0x80) 0x7f))
  | i16 => some (Int16.ofInt (x.clamp (-0x8000) 0x7fff))
  | u16 => some (UInt16.ofNat (x.clamp 0 0xffff).toNat)
  | i32 => some (Int32.ofInt (x.clamp (-0x80000000) 0x7fffffff))
  | u32 => some (UInt32.ofNat (x.clamp 0 0xffffffff).toNat)
  | i64 => some (Int64.ofInt (x.clamp (-0x8000000000000000) 0x7fffffffffffffff))
  | u64 => some (UInt64.ofNat (x.clamp 0 0xffffffffffffffff).toNat)
  | f32 => some (Single.ofDouble x)
  | f64 => some x
  | char => none

/-- The value that a stored value reads as. -/
def read? (p : Primitive) : FieldValue → Option p.Value
  | .int i => p.ofInt? i.toInt
  | .uint n => p.ofInt? n.toNat
  | .float x => p.ofDouble? x
  | .char c =>
    match p with
    | char => some c
    | _ => none
  | _ => none

/-- The default of a primitive type: zero, or the character NUL. -/
def default : (p : Primitive) → p.Value
  | u8 => (0 : UInt8)
  | i8 => (0 : Int8)
  | i16 => (0 : Int16)
  | u16 => (0 : UInt16)
  | i32 => (0 : Int32)
  | u32 => (0 : UInt32)
  | i64 => (0 : Int64)
  | u64 => (0 : UInt64)
  | f32 => (⟨0⟩ : Single)
  | f64 => (⟨0⟩ : Double)
  | char => '\x00'

/-- How a value reads in reports. -/
def describe : (p : Primitive) → p.Value → String
  | u8, (n : UInt8) => toString n.toNat
  | i8, (n : Int8) => toString n.toInt
  | i16, (n : Int16) => toString n.toInt
  | u16, (n : UInt16) => toString n.toNat
  | i32, (n : Int32) => toString n.toInt
  | u32, (n : UInt32) => toString n.toNat
  | i64, (n : Int64) => toString n.toInt
  | u64, (n : UInt64) => toString n.toNat
  | f32, (x : Single) => x.toDouble.display
  | f64, (x : Double) => x.display
  | char, (c : Char) => Text.quotedChar c

end Primitive

/-- A text that names no member of an enumeration. -/
structure UnknownMember where
  /-- The name of the enumeration in code. -/
  enum : String
  member : String
  deriving DecidableEq

/-- The wording of a failure. -/
def UnknownMember.message (e : UnknownMember) : String :=
  "'" ++ e.member ++ "' is not a member of " ++ e.enum

namespace FieldType

/-- The type that generated code gives to a field of a kind; an enumeration without members has
none. -/
def ofKind? : FieldKind → Option FieldType
  | .primitive p => some (primitive p)
  | .string => some text
  | .boolean => some bool
  | .enumeration name (first :: rest) => some (enumeration name first rest)
  | .enumeration _ [] => none
  | .array element none => (ofKind? element).map list
  | .array element (some n) => (ofKind? element).map (fixed · n)
  | .opaqueType _ => some any

/-- The values of a type. A value of an enumeration is the position of its member. -/
def Value : FieldType → Type
  | primitive p => p.Value
  | text => String
  | bool => Bool
  | enumeration _ _ rest => Fin (rest.length + 1)
  | list element => List element.Value
  | fixed element length => { items : List element.Value // items.length = length }
  | any => FieldValue

/-- The default of a type. -/
def default : (t : FieldType) → t.Value
  | primitive p => p.default
  | text => ""
  | bool => false
  | enumeration _ _ _ => (0 : Fin _)
  | list _ => []
  | fixed element length => ⟨List.replicate length element.default, List.length_replicate⟩
  | any => FieldValue.empty

/-- The position of a member among the members of an enumeration. -/
def memberIndex? (first : String) (rest : List String) (member : String) :
    Option (Fin (rest.length + 1)) :=
  ((first :: rest).finIdxOf? member).map fun i => ⟨i.val, i.isLt⟩

/-- The member that a text names. -/
def memberNamed (name first : String) (rest : List String) (text : String) :
    Except UnknownMember (Fin (rest.length + 1)) :=
  match memberIndex? first rest text with
  | some i => .ok i
  | none => .error ⟨Naming.typeName name, text⟩

/-- The value of a type that a stored value reads as. -/
def read? : (t : FieldType) → FieldValue → Option t.Value
  | primitive p, v => p.read? v
  | text, v => v.asText?
  | bool, v =>
    match v with
    | .bool b => some b
    | _ => none
  | enumeration _ first rest, v => v.asText?.bind (memberIndex? first rest)
  | list element, v => v.asArray?.bind fun items => items.mapM element.read?
  | fixed element length, v =>
    match v.asArray?.bind fun items => items.mapM element.read? with
    | some items => if h : items.length = length then some ⟨items, h⟩ else none
    | none => none
  | any, v => some v

/-- The value of a field that may be missing. -/
def decode (t : FieldType) (v : Option FieldValue) : t.Value :=
  (v.bind t.read?).getD t.default

/-- Whether two values are one key. -/
def sameKey : (t : FieldType) → t.Value → t.Value → Bool
  | primitive p, (a : p.Value), (b : p.Value) => decide (a = b)
  | text, (a : String), (b : String) => a == b
  | bool, (a : Bool), (b : Bool) => a == b
  | enumeration _ _ _, a, b => (show Fin _ from a) == (show Fin _ from b)
  | list element, a, b => go element a b
  | fixed element _, a, b => go element a.val b.val
  | any, (a : FieldValue), (b : FieldValue) => a.sameKey b
where
  /-- Whether two lists are one key, item by item. -/
  go (element : FieldType) : List element.Value → List element.Value → Bool
    | [], [] => true
    | a :: as, b :: bs => element.sameKey a b && go element as bs
    | _, _ => false

/-- How a value reads in reports: a member under the name that it has in code. -/
def describe : (t : FieldType) → t.Value → String
  | primitive p, v => p.describe v
  | text, (s : String) => Text.quoted s
  | bool, (b : Bool) => toString b
  | enumeration _ first rest, (i : Fin _) => Naming.typeName ((first :: rest)[i.val]?.getD "")
  | list element, (items : List element.Value) =>
    "[" ++ ", ".intercalate (items.map element.describe) ++ "]"
  | fixed element _, items => "[" ++ ", ".intercalate (items.val.map element.describe) ++ "]"
  | any, (v : FieldValue) => v.display

end FieldType

end MasterData
