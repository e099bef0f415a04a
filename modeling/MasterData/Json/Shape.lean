-- SUMMARY: Typed values read from JSON trees.
import MasterData.Json.Tree

/-! # Shapes of JSON values

A record is written as an object, in any order of keys, or as the list of its fields in their
declared order. Keys that are not fields are passed over; a field given twice is refused. A reading
that fails says nothing about why.
-/

namespace MasterData.Json

/-! ## Simple values -/

def asText? : Json → Option String
  | .text s => some s
  | _ => none

def asBool? : Json → Option Bool
  | .bool b => some b
  | _ => none

def asDouble? : Json → Option Double
  | .number n => n.toDouble?
  | _ => none

/-- A whole number from `low` to `high`. -/
def asIntIn? (low high : Int) : Json → Option Int
  | .number n => n.toInt?.filter fun i => low ≤ i && i ≤ high
  | _ => none

def asInt64? (j : Json) : Option Int64 :=
  (j.asIntIn? (-0x8000000000000000) 0x7fffffffffffffff).map Int64.ofInt

def asUInt64? (j : Json) : Option UInt64 :=
  (j.asIntIn? 0 0xffffffffffffffff).map fun i => UInt64.ofNat i.toNat

def asUInt32? (j : Json) : Option UInt32 :=
  (j.asIntIn? 0 0xffffffff).map fun i => UInt32.ofNat i.toNat

/-- A text of exactly one character. -/
def asChar? (j : Json) : Option Char :=
  match j.asText?.map String.toList with
  | some [c] => some c
  | _ => none

/-- A list each item of which has a shape. -/
def asListOf? (item : Json → Option α) : Json → Option (List α)
  | .list items => items.mapM item
  | _ => none

/-- An object each value of which has a shape, under any keys. -/
def asMembersOf? (value : Json → Option α) : Json → Option (List (String × α))
  | .object members => members.mapM fun (key, j) => (value j).map (key, ·)
  | _ => none

/-- A value that may be `null`. -/
def asNullable? (value : Json → Option α) : Json → Option (Option α)
  | .null => some none
  | j => (value j).map some

/-! ## Records -/

/-- The fields of a record that are there. -/
structure Fields where
  values : List (String × Json)
  /-- Whether the record was written as a list. -/
  positional : Bool

/-- The fields with the given names of a record. -/
def fields? (names : List String) : Json → Option Fields
  | .object members =>
    let known := members.filter fun (key, _) => names.contains key
    if (known.map (·.1)).Nodup then some ⟨known, false⟩ else none
  | .list items =>
    if items.length ≤ names.length then some ⟨names.zip items, true⟩ else none
  | _ => none

/-- The fields of a record that has no other keys. -/
def onlyFields? (names : List String) (j : Json) : Option Fields :=
  match j with
  | .object members =>
    if members.all fun (key, _) => names.contains key then fields? names j else none
  | j => fields? names j

namespace Fields

/-- A field that must be there. -/
def required? (f : Fields) (name : String) (value : Json → Option α) : Option α :=
  (f.values.lookup name).bind value

/-- A field with a value for when it is missing. -/
def defaulted? (f : Fields) (name : String) (default : α) (value : Json → Option α) : Option α :=
  match f.values.lookup name with
  | some j => value j
  | none => some default

end Fields

/-! ## Variants -/

/-- The name of a variant: a text, or an object with that single key and `null` under it, which takes
one of the `depth` nested lists and objects to come. In a tree that was kept for a second reading
the depth does not count any more, and an empty object stands for `null`. -/
def asVariantName? (depth : Nat) (kept : Bool) : Json → Option String
  | .text name => some name
  | .object [(name, .null)] => if kept || 0 < depth then some name else none
  | .object [(name, .object [])] => if kept then some name else none
  | _ => none

/-- The name of a variant at the head of a list: a text, or in a tree that was kept for a second
reading also the number of the name. -/
def asListedName? (names : List String) (kept : Bool) : Json → Option String
  | .text name => some name
  | .number n =>
    match n.toInt? with
    | some i => if kept && 0 ≤ i then names[i.toNat]? else none
    | none => none
  | _ => none

/-- A variant with its content, written as `{"type": name, "value": content}` or as the list of the
two. Content that stands before its name is kept until the name is known, and so must be usable at
the depth that is left; `kept` tells whether that already happened further out. -/
structure Variant where
  name : String
  content : Option Json
  /-- The content was kept for a second reading. -/
  kept : Bool

/-- The variant, one of those with the given names in order, that a value spells, with `depth` more
nested lists and objects to come. -/
def asVariant? (names : List String) (depth : Nat) (kept : Bool) : Json → Option Variant
  | .object members =>
    let known := members.filter fun (key, _) => key = "type" || key = "value"
    match known with
    | [("type", name)] => (name.asVariantName? depth kept).map (⟨·, none, kept⟩)
    | [("type", name), ("value", content)] =>
      (name.asVariantName? depth kept).map (⟨·, some content, kept⟩)
    | [("value", content), ("type", name)] =>
      if kept || content.isUsable depth then
        (name.asVariantName? depth kept).map (⟨·, some content, true⟩)
      else none
    | _ => none
  | .list [name, content] => (name.asListedName? names kept).map (⟨·, some content, kept⟩)
  | _ => none

/-- The content of a variant that has some. -/
def Variant.with? (v : Variant) (value : Json → Option α) : Option α :=
  v.content.bind value

/-- Whether a variant has no content. -/
def Variant.isBare (v : Variant) : Bool :=
  match v.content with
  | none => true
  | some .null => true
  | some _ => false

end MasterData.Json
