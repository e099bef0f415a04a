-- SUMMARY: Decimal literals of doubles: reading and plain writing.
import MasterData.Number.Double
import MasterData.Number.Shortest

/-! # Literals of doubles

A literal is read to the nearest double, whatever its length. Written, a double takes its shortest
decimal without an exponent.
-/

namespace MasterData.Double

/-! ## Reading -/

/-- The double nearest to `digits * 10 ^ exponent`; far beyond both ends of the format the power of
ten itself is never formed. -/
def ofDecimal (negative : Bool) (digits : Nat) (exponent : Int) : Double :=
  let reach := exponent + (Nat.toDigits 10 digits).length
  if digits = 0 ∨ reach < -400 then ofMagnitude negative 0
  else if 400 < reach then infinity negative
  else ofRatio negative (digits * Nat.pow 10 exponent.toNat) (Nat.pow 10 (-exponent).toNat)

/-- The value of a list of decimal digits. -/
def digitsValue (cs : List Char) : Nat :=
  cs.foldl (fun n c => 10 * n + (c.toNat - '0'.toNat)) 0

/-- A sign in front of the rest. -/
def splitSign : List Char → Bool × List Char
  | '-' :: cs => (true, cs)
  | '+' :: cs => (false, cs)
  | cs => (false, cs)

/-- The exponent that a mantissa may be followed by; nothing else may follow. -/
def readExponent : List Char → Option Int
  | [] => some 0
  | c :: cs =>
    if c = 'e' ∨ c = 'E' then
      let (negative, digits) := splitSign cs
      if digits ≠ [] ∧ digits.all Char.isDigit then
        some (if negative then -(digitsValue digits : Int) else digitsValue digits)
      else none
    else none

/-- The words for what is not finite, in any case. -/
def ofWord? (negative : Bool) (cs : List Char) : Option Double :=
  let word := cs.map Char.toLower
  if word = "inf".toList ∨ word = "infinity".toList then some (infinity negative)
  else if word = "nan".toList then some nan
  else none

/-- Digits with an optional point among or around them and an optional exponent. -/
def ofDigits? (negative : Bool) (cs : List Char) : Option Double :=
  let whole := cs.takeWhile Char.isDigit
  let rest := cs.dropWhile Char.isDigit
  let (fraction, rest) := match rest with
    | '.' :: more => (more.takeWhile Char.isDigit, more.dropWhile Char.isDigit)
    | rest => ([], rest)
  if whole = [] ∧ fraction = [] then none
  else
    match readExponent rest with
    | some e => some (ofDecimal negative (digitsValue (whole ++ fraction)) (e - fraction.length))
    | none => none

/-- The double that a literal stands for: an optional sign, then digits or a word. -/
def ofLiteral? (s : String) : Option Double :=
  let (negative, cs) := splitSign s.toList
  match ofDigits? negative cs with
  | some x => some x
  | none => ofWord? negative cs

/-! ## Writing -/

/-- The text of a double: its shortest decimal without an exponent, a tie going up. -/
def display (x : Double) : String :=
  let sign := if x.isNegative then "-" else ""
  if x.isNaN then "NaN"
  else if !x.isFinite then sign ++ "inf"
  else
    let (whole, fraction) := (Decimal.shortest .double .up x.magnitude).plain
    sign ++ String.ofList (if fraction = [] then whole else whole ++ '.' :: fraction)

end MasterData.Double
