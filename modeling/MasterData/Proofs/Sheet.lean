-- SUMMARY: What the views of a sheet give, and what storing a cell changes of them.
import MasterData.Proofs.SortedMap
import MasterData.Sheet

/-! # Views of a sheet

The populated cells of a sheet are those that hold something, row by row. All views but the last row
are taken of them, so a stored cell that holds nothing shows in the last row alone.
-/

namespace MasterData

/-- Row by row, and by column within a row. -/
theorem Address.compare_eq_lt_iff {a b : Address} :
    compare a b = .lt ↔ a.row < b.row ∨ a.row = b.row ∧ a.col < b.col := by
  have hcompare : compare a b = (compare a.row b.row).then (compare a.col b.col) := rfl
  rw [hcompare, Ordering.then_eq_lt, Std.compare_eq_lt, Std.compare_eq_lt, Std.compare_eq_iff_eq]

namespace Sheet

variable {s t : Sheet} {a b : Address} {c : Cell}

/-! ## Stored cells -/

theorem get?_set (s : Sheet) (a b : Address) (c : Cell) :
    (s.set a c).cells.get? b
      = if b = a then (if c = .empty then none else some c) else s.cells.get? b := by
  unfold set
  split_ifs with hempty heq heq
  · simp [SortedMap.get?_erase, heq]
  · simp [SortedMap.get?_erase, heq]
  · simp [SortedMap.get?_insert, heq]
  · simp [SortedMap.get?_insert, heq]

theorem cell?_eq_some_iff : s.cell? a = some c ↔ s.cells.get? a = some c ∧ c ≠ .empty := by
  rw [cell?, Option.filter_eq_some_iff, decide_eq_true_iff]

theorem cell?_set (s : Sheet) (a b : Address) (c : Cell) :
    (s.set a c).cell? b
      = if b = a then (if c = .empty then none else some c) else s.cell? b := by
  rw [cell?, get?_set]
  split_ifs with hb hempty
  · rfl
  · simp [hempty]
  · rfl

/-- Sheets of one name, size and visibility are the same if they store the same cells. -/
theorem eq_of_get? (hname : s.name = t.name) (hdimensions : s.dimensions = t.dimensions)
    (hhidden : s.hidden = t.hidden) (h : ∀ a, s.cells.get? a = t.cells.get? a) : s = t := by
  cases s
  cases t
  simp only at hname hdimensions hhidden h
  rw [hname, hdimensions, hhidden, SortedMap.eq_of_get? h]

/-! ## Populated cells -/

theorem mem_populated_iff : (a, c) ∈ s.populated ↔ s.cell? a = some c := by
  rw [cell?_eq_some_iff, SortedMap.get?_eq_some_iff, populated, List.mem_filter, decide_eq_true_iff]

theorem pairwise_populated (s : Sheet) :
    s.populated.Pairwise fun p q => compare p.1 q.1 = .lt :=
  SortedMap.sorted_filter s.cells.sorted

/-- The last of numbers in increasing order is the greatest. -/
theorem getLast?_eq_some_iff_of_pairwise {l : List UInt32} {n : UInt32} (h : l.Pairwise (· ≤ ·)) :
    l.getLast? = some n ↔ n ∈ l ∧ ∀ m ∈ l, m ≤ n := by
  have hgreatest : ∀ n, l.getLast? = some n → ∀ m ∈ l, m ≤ n := by
    rintro n hn m hm
    obtain ⟨before, rfl⟩ := List.getLast?_eq_some_iff.1 hn
    rcases List.mem_append.1 hm with hm | hm
    · exact (List.pairwise_append.1 h).2.2 m hm n (List.mem_singleton_self n)
    · rw [List.mem_singleton.1 hm]
      exact UInt32.le_refl n
  refine ⟨fun hn => ⟨List.mem_of_getLast? hn, hgreatest n hn⟩, ?_⟩
  rintro ⟨hmem, hle⟩
  cases hlast : l.getLast? with
  | none =>
    rw [List.getLast?_eq_none_iff.1 hlast] at hmem
    cases hmem
  | some m => rw [UInt32.le_antisymm (hle m (List.mem_of_getLast? hlast)) (hgreatest m hlast n hmem)]

theorem mem_rowCells_iff {row col : UInt32} :
    (col, c) ∈ s.rowCells row ↔ s.cell? ⟨row, col⟩ = some c := by
  rw [← mem_populated_iff, rowCells, List.mem_map]
  constructor
  · rintro ⟨⟨a, c'⟩, hmem, heq⟩
    obtain ⟨hmem, hrow⟩ := List.mem_filter.1 hmem
    cases heq
    rw [← of_decide_eq_true hrow]
    exact hmem
  · intro hmem
    exact ⟨(⟨row, col⟩, c), List.mem_filter.2 ⟨hmem, decide_eq_true rfl⟩, rfl⟩

/-- The cells of a row stand in the order of their columns. -/
theorem pairwise_rowCells (s : Sheet) (row : UInt32) :
    (s.rowCells row).Pairwise fun p q => p.1 < q.1 := by
  refine List.pairwise_map.2 (List.pairwise_filter.2 (s.pairwise_populated.imp ?_))
  intro p q hlt hp hq
  rcases Address.compare_eq_lt_iff.1 hlt with hrow | ⟨-, hcol⟩
  · rw [of_decide_eq_true hp, of_decide_eq_true hq] at hrow
    exact absurd hrow (UInt32.lt_irrefl _)
  · exact hcol

/-- The last column of a row is the greatest one of a populated cell. -/
theorem lastCol?_eq_some_iff {row col : UInt32} :
    s.lastCol? row = some col ↔ (s.cell? ⟨row, col⟩).isSome
      ∧ ∀ col', (s.cell? ⟨row, col'⟩).isSome → col' ≤ col := by
  have hmem : ∀ col, col ∈ (s.rowCells row).map (·.1) ↔ (s.cell? ⟨row, col⟩).isSome := by
    intro col
    simp only [Option.isSome_iff_exists, ← mem_rowCells_iff, List.mem_map, Prod.exists,
      exists_and_right, exists_eq_right]
  have hsorted : ((s.rowCells row).map (·.1)).Pairwise (· ≤ ·) :=
    List.pairwise_map.2 ((s.pairwise_rowCells row).imp UInt32.le_of_lt)
  rw [lastCol?, ← List.getLast?_map, getLast?_eq_some_iff_of_pairwise hsorted]
  simp only [hmem]

theorem lastCol?_eq_none_iff {row : UInt32} :
    s.lastCol? row = none ↔ ∀ col, s.cell? ⟨row, col⟩ = none := by
  rw [lastCol?, Option.map_eq_none_iff, List.getLast?_eq_none_iff, List.eq_nil_iff_forall_not_mem,
    Prod.forall]
  exact forall_congr' fun col => by
    simp only [mem_rowCells_iff, Option.eq_none_iff_forall_ne_some, ne_eq]

/-- The last row is the greatest one of a stored cell, whatever the cell holds. -/
theorem lastRow?_eq_some_iff {row : UInt32} :
    s.lastRow? = some row ↔ (∃ col, (s.cells.get? ⟨row, col⟩).isSome)
      ∧ ∀ a, (s.cells.get? a).isSome → a.row ≤ row := by
  have hmem : ∀ row, row ∈ s.cells.toList.map (·.1.row)
      ↔ ∃ col, (s.cells.get? ⟨row, col⟩).isSome := by
    intro row
    simp only [Option.isSome_iff_exists, SortedMap.get?_eq_some_iff, List.mem_map]
    constructor
    · rintro ⟨⟨⟨row, col⟩, c⟩, hp, rfl⟩
      exact ⟨col, c, hp⟩
    · rintro ⟨col, c, hp⟩
      exact ⟨_, hp, rfl⟩
  have hsorted : (s.cells.toList.map (·.1.row)).Pairwise (· ≤ ·) := by
    refine List.pairwise_map.2 (s.cells.sorted.imp fun hlt => ?_)
    rcases Address.compare_eq_lt_iff.1 hlt with hrow | ⟨hrow, -⟩
    · exact UInt32.le_of_lt hrow
    · rw [hrow]
      exact UInt32.le_refl _
  rw [lastRow?, ← List.getLast?_map (f := fun p : Address × Cell => p.1.row),
    getLast?_eq_some_iff_of_pairwise hsorted]
  simp only [hmem]
  exact and_congr_right fun _ =>
    ⟨fun h a ha => h a.row ⟨a.col, ha⟩, fun h row ⟨col, hcol⟩ => h ⟨row, col⟩ hcol⟩

theorem lastRow?_eq_none_iff : s.lastRow? = none ↔ ∀ a, s.cells.get? a = none := by
  rw [lastRow?, Option.map_eq_none_iff, List.getLast?_eq_none_iff]
  constructor
  · intro hnil a
    rw [SortedMap.get?, hnil, SortedMap.find?]
  · intro h
    refine List.eq_nil_iff_forall_not_mem.2 fun p hp => ?_
    have hstored : s.cells.get? p.1 = some p.2 := SortedMap.get?_eq_some_iff.2 hp
    rw [h] at hstored
    cases hstored

/-! ## The anchor -/

theorem findAnchor?_eq_none_iff :
    s.findAnchor? = none ↔ ∀ a, s.cell? a ≠ some (.text anchorMark) := by
  simp only [findAnchor?, Option.map_eq_none_iff, List.find?_eq_none, decide_eq_true_iff,
    mem_populated_iff, Prod.forall]
  exact ⟨fun h a hmark => h a _ hmark rfl, fun h a c hc heq => h a (heq ▸ hc)⟩

/-- The anchor is the first of the cells with the anchor mark, row by row. -/
theorem findAnchor?_eq_some_iff :
    s.findAnchor? = some a ↔ s.cell? a = some (.text anchorMark)
      ∧ ∀ b, s.cell? b = some (.text anchorMark) → b = a ∨ compare a b = .lt := by
  have hfirst : ∀ a, s.findAnchor? = some a → s.cell? a = some (.text anchorMark)
      ∧ ∀ b, s.cell? b = some (.text anchorMark) → b = a ∨ compare a b = .lt := by
    intro a h
    obtain ⟨⟨a', c⟩, hfind, rfl⟩ := Option.map_eq_some_iff.1 h
    obtain ⟨hmark, before, after, hpopulated, hbefore⟩ := List.find?_eq_some_iff_append.1 hfind
    obtain rfl := of_decide_eq_true hmark
    refine ⟨mem_populated_iff.1 (by simp [hpopulated]), fun b hb => ?_⟩
    have hsorted := s.pairwise_populated
    rw [← mem_populated_iff, hpopulated, List.mem_append, List.mem_cons] at hb
    rw [hpopulated] at hsorted
    rcases hb with hb | hb | hb
    · simpa using hbefore _ hb
    · exact .inl (congrArg (·.1) hb)
    · exact .inr ((List.pairwise_cons.1 (List.pairwise_append.1 hsorted).2.1).1 _ hb)
  refine ⟨hfirst a, fun ⟨hmark, hleast⟩ => ?_⟩
  cases hfound : s.findAnchor? with
  | none => exact absurd hmark (findAnchor?_eq_none_iff.1 hfound a)
  | some b =>
    obtain ⟨hmark', hleast'⟩ := hfirst b hfound
    rcases hleast b hmark' with heq | hlt
    · rw [heq]
    · rcases hleast' a hmark with heq | hgt
      · rw [heq]
      · simp [Std.OrientedCmp.gt_of_lt hgt] at hlt

end Sheet

end MasterData
