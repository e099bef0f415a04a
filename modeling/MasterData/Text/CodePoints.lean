-- SUMMARY: Sets of characters given as runs of code points.

/-! # Sets of characters

A property of characters is stored as a list of runs: a first code point, a last one, and the
step between neighbours (1 for a solid block, 2 for alphabets that alternate two cases).
-/

namespace MasterData.Text

/-- The code points `first`, `first + step`, … up to `last`. -/
structure Run where
  first : Nat
  last : Nat
  step : Nat
  deriving DecidableEq

/-- Whether the code point `n` is one of the run. -/
def Run.contains (r : Run) (n : Nat) : Bool :=
  r.first ≤ n && n ≤ r.last && (n - r.first) % r.step == 0

/-- A set of characters. -/
structure CodePoints where
  runs : List Run

/-- The set that consists of solid blocks, each given by its ends. -/
def CodePoints.ofBlocks (blocks : List (Nat × Nat)) : CodePoints :=
  ⟨blocks.map fun (first, last) => ⟨first, last, 1⟩⟩

/-- Whether a character belongs to the set. -/
def CodePoints.contains (s : CodePoints) (c : Char) : Bool :=
  s.runs.any (·.contains c.toNat)

theorem CodePoints.contains_iff {s : CodePoints} {c : Char} :
    s.contains c = true ↔ ∃ r ∈ s.runs, r.contains c.toNat = true := by
  simp [CodePoints.contains]

end MasterData.Text
