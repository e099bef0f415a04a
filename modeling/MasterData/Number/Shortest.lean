-- SUMMARY: The shortest decimal that reads back as a given binary number.
import MasterData.Number.Format

/-! # Shortest decimals

A finite binary number stands for every real number that rounds to it. Of the decimals among them
those with the fewest digits are taken, and of these the one nearest to the number itself. A decimal
grid that has a point in the interval has one next to the number, so each grid needs two tests.
-/

namespace MasterData

/-- The number `digits * 10 ^ exponent`. -/
structure Decimal where
  digits : Nat
  exponent : Int
  deriving DecidableEq

/-- Which of two equally near decimals is taken. -/
inductive Tie where
  /-- The one with an even last digit. -/
  | even
  /-- The larger one. -/
  | up
  deriving DecidableEq

namespace Decimal

/-- The characters of the digits, without leading zeros. -/
def chars (d : Decimal) : List Char :=
  Nat.toDigits 10 d.digits

/-- How many digits stand before the point; negative when zeros follow it. -/
def pointPosition (d : Decimal) : Int :=
  d.exponent + d.chars.length

/-- The digits before and behind the point when the decimal is written without an exponent. -/
def plain (d : Decimal) : List Char × List Char :=
  let cs := d.chars
  let point := d.pointPosition
  if point ≤ 0 then (['0'], List.replicate (-point).toNat '0' ++ cs)
  else if cs.length ≤ point then (cs ++ List.replicate (point.toNat - cs.length) '0', [])
  else (cs.take point.toNat, cs.drop point.toNat)

/-- The power of ten of the first digit of `num / den`, both positive. -/
def leadingExponent (num den : Nat) : Int :=
  let count (n : Nat) := (Nat.toDigits 10 n).length
  if den ≤ num then count (num / den) - 1
  else
    let c := count (den / num)
    if den ≤ num * Nat.pow 10 (c - 1) then -(c - 1 : Int) else -c

/-- A binary number with the interval that rounds to it, all in quarters of its last place, and the
grid of decimals with a fixed power of ten: the point `c` of the grid compares with `u` quarters as
`c * step` with `u * quarter`. -/
structure Grid where
  value : Nat
  low : Nat
  high : Nat
  closed : Bool
  step : Nat
  quarter : Nat

/-- Whether a point of the grid rounds to the number. -/
def Grid.holds (g : Grid) (c : Nat) : Bool :=
  let x := c * g.step
  if g.closed then g.low * g.quarter ≤ x && x ≤ g.high * g.quarter
  else g.low * g.quarter < x && x < g.high * g.quarter

/-- The nearer of the two neighbours of the number on the grid that round to it. -/
def Grid.nearest? (g : Grid) (tie : Tie) : Option Nat :=
  let below := g.value * g.quarter / g.step
  let above := below + 1
  match g.holds below, g.holds above with
  | true, true =>
    let down := g.value * g.quarter - below * g.step
    let up := above * g.step - g.value * g.quarter
    if down < up then some below
    else if up < down then some above
    else match tie with
      | .even => some (below + below % 2)
      | .up => some above
  | true, false => some below
  | false, true => some above
  | false, false => none

/-- The grid of the multiples of `10 ^ exponent` around a positive number. -/
def grid (f : FloatFormat) (s : FloatFormat.Scaled) (exponent : Int) : Grid :=
  let narrow := s.significand = 1 <<< f.fractionBits ∧ f.leastExponent < s.exponent
  let quarterExponent := s.exponent - 2
  { value := 4 * s.significand
    low := 4 * s.significand - if narrow then 1 else 2
    high := 4 * s.significand + 2
    closed := s.significand % 2 == 0
    step := Nat.pow 10 exponent.toNat <<< (-quarterExponent).toNat
    quarter := Nat.pow 10 (-exponent).toNat <<< quarterExponent.toNat }

/-- The decimal with the fewest digits, at most seventeen, that reads back as the magnitude. -/
def shortest (f : FloatFormat) (tie : Tie) (magnitude : Nat) : Decimal :=
  let s := f.scaled magnitude
  if s.significand = 0 then ⟨0, 0⟩
  else
    let num := s.significand <<< s.exponent.toNat
    let lead := leadingExponent num (1 <<< (-s.exponent).toNat)
    let attempt (count : Nat) : Option Decimal :=
      let exponent := lead - (count - 1 : Int)
      match (grid f s exponent).nearest? tie with
      | some c =>
        some (if c = Nat.pow 10 count then ⟨1, exponent + count⟩ else ⟨c, exponent⟩)
      | none => none
    ((List.range' 1 17).findSome? attempt).getD ⟨s.significand, s.exponent⟩

end Decimal

end MasterData
