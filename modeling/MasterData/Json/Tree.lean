-- SUMMARY: JSON documents as trees.
import MasterData.Number.Literal

/-! # JSON trees

A number keeps the digits of its literal, because what it stands for depends on who asks: whole
numbers are read exactly, and a double only where one is wanted. Members of an object keep their
order and may repeat a key.
-/

namespace MasterData.Json

/-! ## Numerals -/

/-- A number as its literal spells it; `fraction` is empty where the literal has no point. -/
structure Numeral where
  negative : Bool
  whole : List Char
  fraction : List Char
  exponent : Option Int
  deriving DecidableEq

namespace Numeral

def ofNat (n : Nat) : Numeral := ⟨false, Nat.toDigits 10 n, [], none⟩

def ofInt (i : Int) : Numeral := { ofNat i.natAbs with negative := i < 0 }

/-- The whole number that a literal without point and exponent stands for. A minus sign before zero
makes a double, not a whole number. -/
def toInt? (n : Numeral) : Option Int :=
  let magnitude := Double.digitsValue n.whole
  if n.fraction ≠ [] ∨ n.exponent ≠ none then none
  else if n.negative then if magnitude = 0 then none else some (-(magnitude : Int))
  else some magnitude

/-- Digits collected into a number below `2 ^ 64`, and how many digits were used before the first
that does not fit. -/
def collect : Nat → List Char → Nat × Nat
  | n, [] => (n, 0)
  | n, c :: cs =>
    let next := 10 * n + (c.toNat - '0'.toNat)
    if next < UInt64.size then
      let (value, used) := collect next cs
      (value, used + 1)
    else (n, 0)

/-- The significand times a power of ten, with one rounding for the significand and one for the
scaling; none when the result is too large. Powers below the range take two steps. -/
def scale (significand : Nat) (exponent : Int) : Option Double :=
  let x := Double.ofRatio false significand 1
  let finite (y : Double) := if y.isFinite then some y else none
  if significand = 0 ∨ exponent < -616 then some Double.zero
  else if 308 < exponent then none
  else if -308 ≤ exponent then finite (x.scaleByTen exponent)
  else finite ((x.scaleByTen (-308)).scaleByTen (exponent + 308))

/-- The double that a literal stands for: the digits that fit into 64 bits, scaled by the power of
ten that is left; none when it is too large for a double. -/
def toDouble? (n : Numeral) : Option Double :=
  let (whole, usedWhole) := collect 0 n.whole
  let (significand, usedFraction) := collect whole n.fraction
  let written := n.exponent.getD 0
  let dropped : Int := n.whole.length - usedWhole
  let magnitude :=
    if significand = 0 then some Double.zero
    else if written > 0x7fffffff then none
    else scale significand (dropped - usedFraction + written)
  magnitude.map fun x => if n.negative then ⟨x.bits ^^^ 0x8000000000000000⟩ else x

/-- The literal of a finite double, from its shortest decimal: plain while the first digit stands
between the fifth place behind the point and the sixteenth before it. -/
def ofDouble (x : Double) : Numeral :=
  let decimal := Decimal.shortest .double .even x.magnitude
  let leading := decimal.pointPosition - 1
  if -5 ≤ leading ∧ leading ≤ 15 then
    let (whole, fraction) := decimal.plain
    ⟨x.isNegative, whole, if fraction = [] then ['0'] else fraction, none⟩
  else ⟨x.isNegative, decimal.chars.take 1, decimal.chars.drop 1, some leading⟩

end Numeral

/-! ## Trees -/

end Json

/-- A JSON document. -/
inductive Json where
  | null
  | bool (b : Bool)
  | number (n : Json.Numeral)
  | text (s : String)
  | list (items : List Json)
  | object (members : List (String × Json))
  /-- A string that is no text, because of a lone surrogate or a byte outside UTF-8, or an object
  with such a key. It is well formed and can be passed over, but it holds nothing to use. -/
  | unreadable

namespace Json

def ofNat (n : Nat) : Json := .number (.ofNat n)

def ofInt (i : Int) : Json := .number (.ofInt i)

/-- A double, or `null` where it has no literal. -/
def ofDouble (x : Double) : Json :=
  if x.isFinite then .number (.ofDouble x) else .null

/-- Whether a value uses at most `depth` nested lists and objects and each part of it can be read:
every string is text, and every number lies in the range of doubles. -/
def isUsable : Nat → Json → Bool
  | _, .null => true
  | _, .bool _ => true
  | _, .number n => n.toDouble?.isSome
  | _, .text _ => true
  | depth, .list items =>
    match depth with
    | 0 => false
    | depth + 1 => items.all (isUsable depth)
  | depth, .object members =>
    match depth with
    | 0 => false
    | depth + 1 => members.all fun member => isUsable depth member.2
  | _, .unreadable => false

end MasterData.Json
