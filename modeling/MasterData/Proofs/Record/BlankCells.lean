-- SUMMARY: Stored cells that hold nothing count for no view of a sheet but its last row.
import MasterData.Proofs.Record.ShownCells

/-! # Blank cells

A sheet may store a cell that holds nothing. All views but one read the sheet as if no such cell were
stored: the last row is that of the last stored cell. As materializing goes down to the last row, blank
cells below the data make further records, after those that the sheet has without them. Sheets whose
cells were stored one by one have no blank cells.
Main statement: `Sheet.blank_cells_show_in_last_row_only`.
-/

namespace MasterData

namespace Sheet

variable {s t : Sheet}

/-! ## Sheets without blank cells -/

/-- The sheet without the stored cells that hold nothing. -/
def compact (s : Sheet) : Sheet :=
  { s with cells := s.cells.filter fun _ c => c ≠ .empty }

theorem get?_compact (s : Sheet) (a : Address) : s.compact.cells.get? a = s.cell? a :=
  s.cells.get?_filter _ a

theorem cell?_compact (s : Sheet) (a : Address) : s.compact.cell? a = s.cell? a := by
  ext c
  rw [cell?_eq_some_iff, get?_compact, cell?_eq_some_iff, and_assoc, and_self]

theorem populated_compact (s : Sheet) : s.compact.populated = s.populated := by
  simp only [populated, compact, SortedMap.filter, List.filter_filter, Bool.and_self]

theorem compact_set (s : Sheet) (a : Address) (c : Cell) :
    (s.set a c).compact = s.compact.set a c := by
  refine eq_of_get? rfl rfl rfl fun b => ?_
  rw [get?_compact, cell?_set, get?_set, get?_compact]

/-- The sheet after some cells were stored one by one. -/
def setAll (s : Sheet) (cells : List (Address × Cell)) : Sheet :=
  cells.foldl (fun sheet p => sheet.set p.1 p.2) s

/-- Cells that are stored one by one add no blank cells. -/
theorem compact_setAll (s : Sheet) (cells : List (Address × Cell)) :
    (s.setAll cells).compact = s.compact.setAll cells := by
  induction cells generalizing s with
  | nil => rfl
  | cons p rest ih => exact (ih _).trans (by rw [compact_set]; rfl)

/-! ## Views -/

/-- The sheets read alike through every view but the last row. -/
structure ReadsAlike (s t : Sheet) : Prop where
  cell?_eq : ∀ a, s.cell? a = t.cell? a
  textAt_eq : ∀ a, s.textAt a = t.textAt a
  numberAt?_eq : ∀ a, s.numberAt? a = t.numberAt? a
  boolAt?_eq : ∀ a, s.boolAt? a = t.boolAt? a
  populated_eq : s.populated = t.populated
  rowCells_eq : ∀ row, s.rowCells row = t.rowCells row
  lastCol?_eq : ∀ row, s.lastCol? row = t.lastCol? row
  isEmpty_eq : s.isEmpty = t.isEmpty

theorem readsAlike_compact (s : Sheet) : s.compact.ReadsAlike s where
  cell?_eq := s.cell?_compact
  textAt_eq a := by rw [textAt, cell?_compact, textAt]
  numberAt?_eq a := by rw [numberAt?, cell?_compact, numberAt?]
  boolAt?_eq a := by rw [boolAt?, cell?_compact, boolAt?]
  populated_eq := s.populated_compact
  rowCells_eq row := by rw [rowCells, populated_compact, rowCells]
  lastCol?_eq row := by rw [lastCol?, rowCells, populated_compact, lastCol?, rowCells]
  isEmpty_eq := by rw [isEmpty, populated_compact, isEmpty]

theorem showsAlike_compact (s : Sheet) : s.compact.ShowsAlike s :=
  .of_cell? s.cell?_compact

/-! ## The last row -/

/-- Without blank cells the last row is the greatest one of a populated cell. -/
theorem lastRow?_compact_eq_some_iff {row : UInt32} :
    s.compact.lastRow? = some row ↔ (∃ col, (s.cell? ⟨row, col⟩).isSome)
      ∧ ∀ a, (s.cell? a).isSome → a.row ≤ row := by
  rw [lastRow?_eq_some_iff]
  simp only [get?_compact]

theorem isSome_get?_of_cell? {a : Address} (h : (s.cell? a).isSome) : (s.cells.get? a).isSome := by
  obtain ⟨c, hc⟩ := Option.isSome_iff_exists.1 h
  rw [(cell?_eq_some_iff.1 hc).1, Option.isSome_some]

theorem stored_of_compact (s : Sheet) (a : Address) (h : (s.compact.cells.get? a).isSome) :
    (s.cells.get? a).isSome :=
  isSome_get?_of_cell? (s.get?_compact a ▸ h)

/-- Blank cells leave the last row as it is if each stands at or above a row with a populated cell. -/
theorem lastRow?_compact_eq_iff :
    s.compact.lastRow? = s.lastRow?
      ↔ ∀ a, (s.cells.get? a).isSome → ∃ b, (s.cell? b).isSome ∧ a.row ≤ b.row := by
  constructor
  · intro heq a ha
    cases hlast : s.lastRow? with
    | none => simp [lastRow?_eq_none_iff.1 hlast a] at ha
    | some row =>
      rw [hlast] at heq
      obtain ⟨⟨col, hcol⟩, -⟩ := lastRow?_compact_eq_some_iff.1 heq
      exact ⟨⟨row, col⟩, hcol, (lastRow?_eq_some_iff.1 hlast).2 a ha⟩
  · intro h
    cases hlast : s.lastRow? with
    | none =>
      have hstored := lastRow?_eq_none_iff.1 hlast
      exact lastRow?_eq_none_iff.2 fun a => by rw [get?_compact, cell?, hstored]; rfl
    | some row =>
      obtain ⟨⟨col, hcol⟩, hle⟩ := lastRow?_eq_some_iff.1 hlast
      obtain ⟨b, hb, hrow⟩ := h _ hcol
      obtain rfl : b.row = row := UInt32.le_antisymm (hle b (isSome_get?_of_cell? hb)) hrow
      exact lastRow?_compact_eq_some_iff.2
        ⟨⟨b.col, hb⟩, fun a ha => hle a (isSome_get?_of_cell? ha)⟩

end Sheet

/-! ## Records -/

namespace MasterSchema

theorem materializeSheet_compact_prefix (s : MasterSchema) (sheet : Sheet) (prior : Option Asset) :
    s.materializeSheet sheet.compact prior <+: s.materializeSheet sheet prior :=
  s.materializeSheet_prefix sheet.showsAlike_compact sheet.stored_of_compact prior

/-- Blank cells make no further records exactly if they leave the number of data rows as it is. -/
theorem materializeSheet_compact_eq_iff (s : MasterSchema) (sheet : Sheet) (prior : Option Asset) :
    s.materializeSheet sheet.compact prior = s.materializeSheet sheet prior
      ↔ s.rowCount sheet.compact = s.rowCount sheet :=
  s.materializeSheet_eq_iff sheet.showsAlike_compact sheet.stored_of_compact prior

end MasterSchema

/-- Cells that hold nothing count for the last row alone. All other views read a sheet as the one
without them: a populated cell is a stored one that holds something, the populated cells stand in
row-major order, and the last column of a row is the greatest one of a populated cell. The last row of
the sheet without blank cells is the greatest one of a populated cell; the sheet itself has the same one
exactly if no blank cell stands below all populated cells. Its records begin with those that it has
without blank cells, and these are all exactly if the blank cells add no data row. Cells that are stored
one by one add no blank cells. -/
theorem Sheet.blank_cells_show_in_last_row_only (s : Sheet) :
    s.compact.ReadsAlike s
      ∧ (∀ a c, (s.cell? a = some c ↔ s.cells.get? a = some c ∧ c ≠ .empty)
          ∧ ((a, c) ∈ s.populated ↔ s.cell? a = some c))
      ∧ (s.populated.Pairwise fun p q =>
          p.1.row < q.1.row ∨ p.1.row = q.1.row ∧ p.1.col < q.1.col)
      ∧ (∀ row col, s.lastCol? row = some col ↔ (s.cell? ⟨row, col⟩).isSome
          ∧ ∀ col', (s.cell? ⟨row, col'⟩).isSome → col' ≤ col)
      ∧ (∀ row, s.compact.lastRow? = some row ↔ (∃ col, (s.cell? ⟨row, col⟩).isSome)
          ∧ ∀ a, (s.cell? a).isSome → a.row ≤ row)
      ∧ (s.compact.lastRow? = s.lastRow?
          ↔ ∀ a, (s.cells.get? a).isSome → ∃ b, (s.cell? b).isSome ∧ a.row ≤ b.row)
      ∧ (∀ (schema : MasterSchema) (prior : Option Asset),
          schema.materializeSheet s.compact prior <+: schema.materializeSheet s prior
            ∧ (schema.materializeSheet s.compact prior = schema.materializeSheet s prior
              ↔ schema.rowCount s.compact = schema.rowCount s))
      ∧ ∀ cells, (s.setAll cells).compact = s.compact.setAll cells := by
  refine ⟨s.readsAlike_compact, fun a c => ⟨cell?_eq_some_iff, mem_populated_iff⟩, ?_,
    fun row col => lastCol?_eq_some_iff, fun row => lastRow?_compact_eq_some_iff,
    lastRow?_compact_eq_iff, fun schema prior => ⟨?_, ?_⟩, s.compact_setAll⟩
  · exact s.pairwise_populated.imp Address.compare_eq_lt_iff.1
  · exact schema.materializeSheet_compact_prefix s prior
  · exact schema.materializeSheet_compact_eq_iff s prior

/-- A sheet with a single record and a blank cell two rows below it. -/
def Sheet.blankBelow : Sheet :=
  let record := (Sheet.named "Loot").set ⟨5, 0⟩ (.int 7)
  { record with cells := record.cells.insert ⟨7, 0⟩ .empty }

/-- A master whose first data row is that of the record. -/
def MasterSchema.idSchema : MasterSchema where
  masterName := "Loot"
  masterDescription := ""
  keyType := "int"
  keyColumn := 0
  fields := [⟨0, "int", .primitive .i32, "id", ""⟩]
  source := ⟨"book.json", "Loot"⟩
  anchor := ⟨1, 0⟩
  dataStartRow := 5

/-- The blank cell moves the last row and makes two further records. -/
theorem Sheet.lastRow?_blankBelow :
    blankBelow.lastRow? = some 7 ∧ blankBelow.compact.lastRow? = some 5
      ∧ MasterSchema.idSchema.materializeSheet blankBelow none
        = [⟨[.int 7]⟩, ⟨[.int 0]⟩, ⟨[.int 0]⟩]
      ∧ MasterSchema.idSchema.materializeSheet blankBelow.compact none = [⟨[.int 7]⟩] := by
  decide +kernel

end MasterData
