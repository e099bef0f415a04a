-- SUMMARY: Where a cell stands in its sheet.

/-! # Cell addresses

Rows and columns are counted from zero. Columns are lettered by the numerals without a zero: `A` to
`Z`, then `AA` and on. A label such as `C10` counts rows from one.
-/

namespace MasterData

/-- The place of a cell, counted from zero. -/
structure Address where
  row : UInt32
  col : UInt32
  deriving DecidableEq, Inhabited

namespace Address

/-- Row by row, and by column within a row. -/
instance : Ord Address where
  compare := compareLex (compareOn row) (compareOn col)

instance : Std.TransOrd Address :=
  inferInstanceAs (Std.TransCmp (compareLex (compareOn row) (compareOn col)))

instance : Std.LawfulEqOrd Address where
  eq_of_compare {a b} h := by
    have h : compareLex (compareOn row) (compareOn col) a b = .eq := h
    simp only [compareLex, compareOn, Ordering.then_eq_eq, Std.LawfulEqOrd.compare_eq_iff_eq] at h
    cases a
    cases b
    simp_all

/-- The letters of the `n`-th column counted from one, the last letter first. -/
def reversedLetters (n : Nat) : List Char :=
  if n = 0 then []
  else Char.ofNat ('A'.toNat + (n - 1) % 26) :: reversedLetters ((n - 1) / 26)
termination_by n
decreasing_by omega

/-- The letters of a column counted from zero. -/
def columnLetters (col : UInt32) : String :=
  String.ofList (reversedLetters (col.toNat + 1)).reverse

/-- The label of an address, letters first. -/
def label (a : Address) : String :=
  columnLetters a.col ++ toString (a.row.toNat + 1)

end Address

end MasterData
