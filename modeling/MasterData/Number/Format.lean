-- SUMMARY: Binary floating-point formats and rounding into them.

/-! # Floating-point formats

A format has a field for the exponent and one for the fraction. A number without its sign is held as
the two fields in one word, its *magnitude*: magnitudes are ordered as the numbers they stand for,
infinity follows the largest finite one, and all words above infinity stand for no number.
-/

namespace MasterData

/-- A binary floating-point format, given by the widths of its fields. -/
structure FloatFormat where
  fractionBits : Nat
  exponentBits : Nat

namespace FloatFormat

def double : FloatFormat := ⟨52, 11⟩

def single : FloatFormat := ⟨23, 8⟩

/-- The power of two that the lowest fraction bit of the smallest numbers stands for. -/
def leastExponent (f : FloatFormat) : Int :=
  2 - (1 <<< (f.exponentBits - 1) : Nat) - f.fractionBits

/-- The magnitude of infinity. -/
def infinity (f : FloatFormat) : Nat :=
  (1 <<< f.exponentBits - 1) <<< f.fractionBits

/-- A magnitude that stands for no number. -/
def notANumber (f : FloatFormat) : Nat :=
  f.infinity + 1 <<< (f.fractionBits - 1)

/-- A finite number as a whole multiple of a power of two. -/
structure Scaled where
  significand : Nat
  exponent : Int
  deriving DecidableEq

/-- The number that a finite magnitude stands for. -/
def scaled (f : FloatFormat) (magnitude : Nat) : Scaled :=
  let field := magnitude >>> f.fractionBits
  let fraction := magnitude % (1 <<< f.fractionBits)
  if field = 0 then ⟨fraction, f.leastExponent⟩
  else ⟨1 <<< f.fractionBits + fraction, f.leastExponent + (field - 1)⟩

/-- The quotient rounded to the nearest whole number; a half goes to the even neighbour. -/
def roundDiv (num den : Nat) : Nat :=
  let quotient := num / den
  let twice := 2 * (num % den)
  if twice < den then quotient
  else if den < twice then quotient + 1
  else quotient + quotient % 2

/-- The quotient `num * 2 ^ shift / den` rounded to the nearest whole number. -/
def roundScaled (num den : Nat) (shift : Int) : Nat :=
  if 0 ≤ shift then roundDiv (num <<< shift.toNat) den
  else roundDiv num (den <<< (-shift).toNat)

/-- The greatest `e` with `2 ^ e ≤ num / den`, both positive. -/
def binaryExponent (num den : Nat) : Int :=
  let e : Int := (num.log2 : Int) - den.log2
  let reached := if 0 ≤ e then den <<< e.toNat ≤ num else den ≤ num <<< (-e).toNat
  if reached then e else e - 1

/-- The magnitude nearest to `num / den`; of two equally near the one with an even significand, and
infinity from half a step above the largest finite number on. -/
def nearest (f : FloatFormat) (num den : Nat) : Nat :=
  if num = 0 then 0
  else
    let unit := max (binaryExponent num den - f.fractionBits) f.leastExponent
    let significand := roundScaled num den (-unit)
    min f.infinity ((unit - f.leastExponent).toNat <<< f.fractionBits + significand)

end FloatFormat

end MasterData
