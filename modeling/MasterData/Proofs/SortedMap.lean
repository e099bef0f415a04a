-- SUMMARY: What a lookup in a sorted map gives.
import Mathlib.Data.List.Sort
import MasterData.SortedMap

/-! # Lookup

A lookup gives a value that the map pairs with the key. At an inserted key it gives the inserted value,
and at any other key what was there before. Where keys that compare alike are equal, a lookup finds
exactly the pairs of the map, and maps with the same lookups are the same.
-/

namespace MasterData.SortedMap

variable {κ : Type u} {ν : Type v} [Ord κ] [Std.TransOrd κ]

omit [Std.TransOrd κ] in
/-- A lookup gives a value of a pair in the map. -/
theorem exists_of_get? {m : SortedMap κ ν} {k : κ} {v : ν}
    (h : m.get? k = some v) : ∃ k', compare k k' = .eq ∧ (k', v) ∈ m.toList := by
  have hfind : ∀ l : List (κ × ν), find? k l = some v → ∃ k', compare k k' = .eq ∧ (k', v) ∈ l := by
    intro l h
    induction l with
    | nil => cases h
    | cons p rest ih =>
      obtain ⟨k₁, v₁⟩ := p
      simp only [find?] at h
      split at h
      · rename_i heq
        cases h
        exact ⟨k₁, heq, List.mem_cons_self ..⟩
      · obtain ⟨k', heq, hmem⟩ := ih h
        exact ⟨k', heq, List.mem_cons_of_mem _ hmem⟩
  exact hfind m.toList h

theorem find?_put (k k' : κ) (v : ν) (l : List (κ × ν)) :
    find? k' (put k v l) = if compare k' k = .eq then some v else find? k' l := by
  induction l with
  | nil => rfl
  | cons p l ih =>
    obtain ⟨k₁, v₁⟩ := p
    unfold put
    split
    · rfl
    · rename_i heq
      have hk : compare k' k = compare k' k₁ := Std.TransCmp.congr_right heq
      simp only [find?, hk]
      split <;> rfl
    · rename_i hgt
      simp only [find?, ih]
      split
      · rename_i heq
        -- The entry that `k'` finds stands before the place of `k`, so `k'` does not find the new one.
        have hne : compare k' k ≠ .eq := by
          rw [Std.TransCmp.congr_left heq, Std.OrientedCmp.lt_of_gt hgt]
          decide
        rw [if_neg hne]
      · rfl

theorem get?_insert (m : SortedMap κ ν) (k k' : κ) (v : ν) :
    (m.insert k v).get? k' = if compare k' k = .eq then some v else m.get? k' :=
  find?_put k k' v m.toList

theorem get?_insert_self (m : SortedMap κ ν) (k : κ) (v : ν) : (m.insert k v).get? k = some v := by
  rw [get?_insert, if_pos (Std.ReflCmp.compare_self ..)]

/-- An insertion takes no key away. -/
theorem isSome_get?_insert {m : SortedMap κ ν} {k' : κ} (h : (m.get? k').isSome) (k : κ) (v : ν) :
    ((m.insert k v).get? k').isSome := by
  rw [get?_insert]
  split
  · rfl
  · exact h

/-! ## Content -/

section Content

variable [Std.LawfulEqOrd κ]

theorem find?_of_mem {k : κ} {v : ν} {l : List (κ × ν)}
    (hsorted : l.Pairwise fun a b => compare a.1 b.1 = .lt) (h : (k, v) ∈ l) :
    find? k l = some v := by
  induction l with
  | nil => cases h
  | cons p l ih =>
    obtain ⟨k₁, v₁⟩ := p
    rw [List.pairwise_cons] at hsorted
    rcases List.mem_cons.1 h with heq | hmem
    · cases heq
      rw [find?, if_pos Std.ReflCmp.compare_self]
    · have hgt : compare k k₁ = .gt := Std.OrientedCmp.gt_of_lt (hsorted.1 _ hmem)
      rw [find?, if_neg (by simp [hgt]), ih hsorted.2 hmem]

/-- A lookup finds exactly the pairs of the map. -/
theorem get?_eq_some_iff {m : SortedMap κ ν} {k : κ} {v : ν} :
    m.get? k = some v ↔ (k, v) ∈ m.toList := by
  refine ⟨fun h => ?_, find?_of_mem m.sorted⟩
  obtain ⟨k', heq, hmem⟩ := exists_of_get? h
  rwa [Std.LawfulEqOrd.eq_of_compare heq]

/-- Maps in which every lookup gives the same are the same. -/
theorem eq_of_get? {m₁ m₂ : SortedMap κ ν} (h : ∀ k, m₁.get? k = m₂.get? k) : m₁ = m₂ := by
  have : Std.Irrefl fun a b : κ × ν => compare a.1 b.1 = .lt :=
    ⟨fun a => by simp [Std.ReflCmp.compare_self]⟩
  have : Std.Antisymm fun a b : κ × ν => compare a.1 b.1 = .lt :=
    ⟨fun a b hab hba => by simp [Std.OrientedCmp.gt_of_lt hba] at hab⟩
  refine ext (List.Pairwise.eq_of_mem_iff m₁.sorted m₂.sorted ?_)
  rintro ⟨k, v⟩
  rw [← get?_eq_some_iff, ← get?_eq_some_iff, h]

theorem get?_filter (m : SortedMap κ ν) (p : κ → ν → Bool) (k : κ) :
    (m.filter p).get? k = (m.get? k).filter (p k) := by
  ext v
  rw [get?_eq_some_iff, Option.filter_eq_some_iff, get?_eq_some_iff]
  exact List.mem_filter

theorem get?_erase (m : SortedMap κ ν) [DecidableEq κ] (k k' : κ) :
    (m.erase k).get? k' = if k' = k then none else m.get? k' := by
  rw [erase, get?_filter]
  split
  · rename_i heq
    simp [heq]
  · rename_i hne
    cases m.get? k' <;> simp [Ne.symm hne]

/-- The map of a list has the pairs of the list only. -/
theorem mem_of_get?_ofList {l : List (κ × ν)} {k : κ} {v : ν} (h : (ofList l).get? k = some v) :
    (k, v) ∈ l := by
  have hfold : ∀ m : SortedMap κ ν, (l.foldl (fun m p => m.insert p.1 p.2) m).get? k = some v →
      (k, v) ∈ l ∨ m.get? k = some v := by
    clear h
    intro m h
    induction l generalizing m with
    | nil => exact .inr h
    | cons p l ih =>
      obtain ⟨k', v'⟩ := p
      rcases ih _ h with hmem | hget
      · exact .inl (List.mem_cons_of_mem _ hmem)
      · rw [get?_insert] at hget
        split at hget
        · rename_i heq
          cases hget
          rw [Std.LawfulEqOrd.eq_of_compare heq]
          exact .inl (List.mem_cons_self ..)
        · exact .inr hget
  exact (hfold empty h).resolve_right (by simp [get?, find?, empty])

/-- The map of a list has a pair of the list that no other pair with its key overrules. -/
theorem get?_ofList_of_mem {l : List (κ × ν)} {k : κ} {v : ν} (hmem : (k, v) ∈ l)
    (h : ∀ v', (k, v') ∈ l → v' = v) : (ofList l).get? k = some v := by
  have hfold : ∀ m : SortedMap κ ν, (k, v) ∈ l ∨ m.get? k = some v →
      (l.foldl (fun m p => m.insert p.1 p.2) m).get? k = some v := by
    clear hmem
    intro m hor
    induction l generalizing m with
    | nil => exact hor.resolve_left (List.not_mem_nil)
    | cons p l ih =>
      obtain ⟨k', v'⟩ := p
      refine ih (fun v'' hv => h v'' (List.mem_cons_of_mem _ hv)) _ ?_
      rw [get?_insert]
      split
      · rename_i heq
        have := Std.LawfulEqOrd.eq_of_compare heq
        subst this
        exact .inr (congrArg some (h v' (List.mem_cons_self ..)))
      · rename_i hne
        refine hor.imp_left fun hmem => (List.mem_cons.1 hmem).resolve_left fun heq => hne ?_
        cases heq
        exact Std.ReflCmp.compare_self
  exact hfold empty (.inl hmem)

end Content

end MasterData.SortedMap
