-- SUMMARY: Finite maps kept as lists in the order of their keys.

/-! # Sorted maps

A map is the list of its pairs in strictly increasing order of keys, so that two maps with the same
content are the same value. Main statements: what a lookup gives after `insert`, `erase` and
`filter`.
-/

namespace MasterData

open Std (TransOrd LawfulEqOrd OrientedOrd)

/-- A finite map whose pairs stand in strictly increasing order of keys. -/
structure SortedMap (κ : Type u) (ν : Type v) [Ord κ] where
  toList : List (κ × ν)
  sorted : toList.Pairwise fun a b => compare a.1 b.1 = .lt

namespace SortedMap

variable {κ : Type u} {ν : Type v} [Ord κ]

@[ext] theorem ext {m₁ m₂ : SortedMap κ ν} (h : m₁.toList = m₂.toList) : m₁ = m₂ := by
  cases m₁
  cases m₂
  simp_all

def empty : SortedMap κ ν := ⟨[], .nil⟩

instance : Inhabited (SortedMap κ ν) := ⟨empty⟩

instance [DecidableEq κ] [DecidableEq ν] : DecidableEq (SortedMap κ ν) := fun m₁ m₂ =>
  if h : m₁.toList = m₂.toList then isTrue (ext h) else isFalse fun e => h (e ▸ rfl)

/-! ## Lookup -/

/-- The value that the list pairs with a key. -/
def find? (k : κ) : List (κ × ν) → Option ν
  | [] => none
  | (k', v) :: rest => if compare k k' = .eq then some v else find? k rest

/-- The value at a key. -/
def get? (m : SortedMap κ ν) (k : κ) : Option ν :=
  find? k m.toList

/-- The keys in increasing order. -/
def keys (m : SortedMap κ ν) : List κ :=
  m.toList.map (·.1)

def size (m : SortedMap κ ν) : Nat :=
  m.toList.length

/-! ## Insertion -/

/-- The pairs with a new one in its place; it replaces the pair with the same key. -/
def put (k : κ) (v : ν) : List (κ × ν) → List (κ × ν)
  | [] => [(k, v)]
  | (k', v') :: rest =>
    match compare k k' with
    | .lt => (k, v) :: (k', v') :: rest
    | .eq => (k, v) :: rest
    | .gt => (k', v') :: put k v rest

theorem mem_put {k : κ} {v : ν} {p : κ × ν} {l : List (κ × ν)} (h : p ∈ put k v l) :
    p = (k, v) ∨ p ∈ l := by
  induction l with
  | nil => simp_all [put]
  | cons q l ih =>
    obtain ⟨k', v'⟩ := q
    simp only [put] at h
    split at h
    · simp_all
    · simp_all
      grind
    · simp_all
      grind

variable [TransOrd κ]

theorem sorted_put {k : κ} {v : ν} {l : List (κ × ν)}
    (h : l.Pairwise fun a b => compare a.1 b.1 = .lt) :
    (put k v l).Pairwise fun a b => compare a.1 b.1 = .lt := by
  induction l with
  | nil => simp [put]
  | cons q l ih =>
    obtain ⟨k', v'⟩ := q
    rw [List.pairwise_cons] at h
    simp only [put]
    split
    · rename_i hk
      refine List.pairwise_cons.2 ⟨?_, List.pairwise_cons.2 h⟩
      intro p hp
      rcases List.mem_cons.1 hp with rfl | hp
      · exact hk
      · exact Std.TransCmp.lt_trans hk (h.1 p hp)
    · rename_i hk
      refine List.pairwise_cons.2 ⟨?_, h.2⟩
      intro p hp
      exact Std.TransCmp.lt_of_eq_of_lt hk (h.1 p hp)
    · rename_i hk
      refine List.pairwise_cons.2 ⟨?_, ih h.2⟩
      intro p hp
      rcases mem_put hp with rfl | hp
      · exact Std.OrientedCmp.lt_of_gt hk
      · exact h.1 p hp

/-- The map with a value at a key. -/
def insert (m : SortedMap κ ν) (k : κ) (v : ν) : SortedMap κ ν :=
  ⟨put k v m.toList, sorted_put m.sorted⟩

/-- The map of the pairs; of two pairs with one key the later wins. -/
def ofList (pairs : List (κ × ν)) : SortedMap κ ν :=
  pairs.foldl (fun m p => m.insert p.1 p.2) empty

/-! ## Removal -/

omit [TransOrd κ] in
theorem sorted_filter {p : κ × ν → Bool} {l : List (κ × ν)}
    (h : l.Pairwise fun a b => compare a.1 b.1 = .lt) :
    (l.filter p).Pairwise fun a b => compare a.1 b.1 = .lt :=
  h.sublist List.filter_sublist

omit [TransOrd κ] in
/-- The pairs that pass a test. -/
def filter (m : SortedMap κ ν) (p : κ → ν → Bool) : SortedMap κ ν :=
  ⟨m.toList.filter fun q => p q.1 q.2, sorted_filter m.sorted⟩

omit [TransOrd κ] in
/-- The map without a key. -/
def erase (m : SortedMap κ ν) (k : κ) : SortedMap κ ν :=
  m.filter fun k' _ => compare k k' ≠ .eq

end SortedMap

end MasterData
