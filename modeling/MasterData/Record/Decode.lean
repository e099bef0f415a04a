-- SUMMARY: Cells decoded under the kinds of their columns.
import MasterData.Record.Value
import MasterData.Schema.Kind
import MasterData.Sheet
import MasterData.Text.Blank

/-! # Decoding cells

Numbers, texts and truth values decode from any cell, as the zero of their kind where the cell holds
nothing that fits. Members and arrays decode from text, all or nothing. Opaque kinds never decode.
-/

namespace MasterData

namespace Primitive

/-- A double brought into a primitive type: the nearest value of an integer type toward zero, with
what is no number as zero; a single; or the character with that code point, NUL if there is none. -/
def cast (p : Primitive) (x : Double) : FieldValue :=
  let unsigned (high : Int) : FieldValue := .uint (UInt64.ofNat (x.clamp 0 high).toNat)
  let signed (high : Int) : FieldValue := .int (Int64.ofInt (x.clamp (-high - 1) high))
  match p with
  | u8 => unsigned 0xff
  | u16 => unsigned 0xffff
  | u32 => unsigned 0xffffffff
  | u64 => unsigned 0xffffffffffffffff
  | i8 => signed 0x7f
  | i16 => signed 0x7fff
  | i32 => signed 0x7fffffff
  | i64 => signed 0x7fffffffffffffff
  | f32 => .float (Single.ofDouble x).toDouble
  | f64 => .float x
  | char => .char (Char.ofNat (x.clamp 0 0xffffffff).toNat)

end Primitive

namespace FieldKind

/-- The value of a kind where nothing else gives one. -/
def zero : FieldKind → FieldValue
  | primitive p => p.cast .zero
  | string => .text ""
  | boolean => .bool false
  | enumeration _ members => (members.head?.map .text).getD .empty
  | array element length => .array (List.replicate (length.getD 0) element.zero)
  | opaqueType _ => .empty

/-- The truth value that a text names, in any case. -/
def boolOfText? (s : String) : Option Bool :=
  let word := String.ofList ((Text.trim s).toList.map Char.toLower)
  if word = "true" then some true else if word = "false" then some false else none

/-- The element of a kind that a text spells. -/
def parseElement? (kind : FieldKind) (s : String) : Option FieldValue :=
  match kind with
  | primitive p => (Double.ofLiteral? (Text.trim s)).map p.cast
  | string => some (.text s)
  | boolean => (boolOfText? s).map .bool
  | enumeration _ members => (members.find? (· = Text.trim s)).map .text
  | array _ _ => none
  | opaqueType _ => none

/-- The pieces of a text between commas; there is always at least one. -/
def splitCommas : List Char → List (List Char)
  | [] => [[]]
  | c :: cs =>
    if c = ',' then [] :: splitCommas cs
    else
      match splitCommas cs with
      | [] => [[c]]
      | piece :: rest => (c :: piece) :: rest

/-- The elements that a cell holds: those between commas, or a lone number. -/
def decodeElements? (element : FieldKind) (cell : Cell) : Option (List FieldValue) :=
  match cell with
  | .text s =>
    if Text.isBlankText s then none
    else (splitCommas s.toList).mapM fun piece => element.parseElement? (String.ofList piece)
  | cell =>
    match element, cell.asNumber? with
    | primitive p, some x => some [p.cast x]
    | _, _ => none

/-- The value of a kind that a cell of a sheet decodes to, if it does. -/
def decode? (kind : FieldKind) (sheet : Sheet) (a : Address) : Option FieldValue :=
  match kind with
  | primitive p => some (p.cast ((sheet.numberAt? a).getD .zero))
  | string => some (.text (sheet.textAt a))
  | boolean => some (.bool ((sheet.boolAt? a).getD false))
  | enumeration _ _ => kind.parseElement? (sheet.textAt a)
  | array element length => do
    let items ← element.decodeElements? (← sheet.cell? a)
    if length.all (· = items.length) then some (.array items) else none
  | opaqueType _ => none

end FieldKind

end MasterData
