-- SUMMARY: Numbers in the 64-bit and 32-bit binary formats.
import MasterData.Number.Format

/-! # Doubles and singles

A double is held as its 64 bits, so that two doubles are equal as values of the type exactly when
their bits are: the two zeros differ, and a pattern that stands for no number equals itself.
Equality as numbers is `Double.sameNumber`.
-/

namespace MasterData

/-! ## Doubles -/

/-- A number in the 64-bit binary format. -/
structure Double where
  bits : UInt64
  deriving DecidableEq, Inhabited

namespace Double

/-- The double with a sign and a magnitude. -/
def ofMagnitude (negative : Bool) (magnitude : Nat) : Double :=
  ⟨UInt64.ofNat (magnitude + if negative then 0x8000000000000000 else 0)⟩

def isNegative (x : Double) : Bool :=
  0x8000000000000000 ≤ x.bits.toNat

/-- The bits below the sign. -/
def magnitude (x : Double) : Nat :=
  x.bits.toNat % 0x8000000000000000

def isNaN (x : Double) : Bool :=
  FloatFormat.double.infinity < x.magnitude

def isFinite (x : Double) : Bool :=
  x.magnitude < FloatFormat.double.infinity

def zero : Double := ⟨0⟩

def nan : Double := ofMagnitude false FloatFormat.double.notANumber

def infinity (negative : Bool) : Double := ofMagnitude negative FloatFormat.double.infinity

/-- The double nearest to a quotient with a sign. -/
def ofRatio (negative : Bool) (num den : Nat) : Double :=
  ofMagnitude negative (FloatFormat.double.nearest num den)

def ofInt (i : Int) : Double :=
  ofRatio (i < 0) i.natAbs 1

/-- Equality as numbers: the two zeros are equal, and what is no number equals nothing. -/
def sameNumber (x y : Double) : Bool :=
  !x.isNaN && (x == y || (x.magnitude == 0 && y.magnitude == 0))

/-- The finite number as a multiple of a power of two, without its sign. -/
def scaled (x : Double) : FloatFormat.Scaled :=
  FloatFormat.double.scaled x.magnitude

/-- The whole part of a finite number, cut off toward zero. -/
def truncate (x : Double) : Int :=
  let s := x.scaled
  let whole :=
    if 0 ≤ s.exponent then s.significand <<< s.exponent.toNat
    else s.significand >>> (-s.exponent).toNat
  if x.isNegative then -whole else whole

/-- The whole part brought into the range from `low` to `high`; zero for what is no number. -/
def clamp (low high : Int) (x : Double) : Int :=
  if x.isNaN then 0
  else if x.isFinite then max low (min high x.truncate)
  else if x.isNegative then low else high

/-- The product of two finite doubles with a power of ten taken out of the second factor: the double
nearest to `x * 10 ^ n` when `n` is not negative, to `x / 10 ^ (-n)` otherwise, where the power of
ten is itself rounded to a double first. -/
def scaleByTen (x : Double) (n : Int) : Double :=
  let s := x.scaled
  let power := FloatFormat.double.scaled (FloatFormat.double.nearest (Nat.pow 10 n.natAbs) 1)
  let up (e : Int) : Nat := 1 <<< e.toNat
  if 0 ≤ n then
    let e := s.exponent + power.exponent
    ofRatio x.isNegative (s.significand * power.significand * up e) (up (-e))
  else
    let e := s.exponent - power.exponent
    ofRatio x.isNegative (s.significand * up e) (power.significand * up (-e))

end Double

/-! ## Singles -/

/-- A number in the 32-bit binary format. -/
structure Single where
  bits : UInt32
  deriving DecidableEq, Inhabited

namespace Single

def ofMagnitude (negative : Bool) (magnitude : Nat) : Single :=
  ⟨UInt32.ofNat (magnitude + if negative then 0x80000000 else 0)⟩

def isNegative (x : Single) : Bool :=
  0x80000000 ≤ x.bits.toNat

def magnitude (x : Single) : Nat :=
  x.bits.toNat % 0x80000000

def isNaN (x : Single) : Bool :=
  FloatFormat.single.infinity < x.magnitude

/-- The single nearest to a quotient with a sign. -/
def ofRatio (negative : Bool) (num den : Nat) : Single :=
  ofMagnitude negative (FloatFormat.single.nearest num den)

def ofInt (i : Int) : Single :=
  ofRatio (i < 0) i.natAbs 1

/-- A finite number as a quotient. -/
def ratio (s : FloatFormat.Scaled) : Nat × Nat :=
  if 0 ≤ s.exponent then (s.significand <<< s.exponent.toNat, 1)
  else (s.significand, 1 <<< (-s.exponent).toNat)

/-- The single nearest to a double. -/
def ofDouble (x : Double) : Single :=
  if x.isNaN then ofMagnitude x.isNegative FloatFormat.single.notANumber
  else if x.isFinite then
    let (num, den) := ratio x.scaled
    ofRatio x.isNegative num den
  else ofMagnitude x.isNegative FloatFormat.single.infinity

/-- The double with the same value. -/
def toDouble (x : Single) : Double :=
  if x.isNaN then Double.ofMagnitude x.isNegative FloatFormat.double.notANumber
  else if x.magnitude < FloatFormat.single.infinity then
    let (num, den) := ratio (FloatFormat.single.scaled x.magnitude)
    Double.ofRatio x.isNegative num den
  else Double.infinity x.isNegative

end Single

end MasterData
