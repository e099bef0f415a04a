-- SUMMARY: Sheets that show the same cells give the same anchor, the same schema and the same values.
import MasterData.Proofs.Record.Materialize
import MasterData.Proofs.Sheet

/-! # Shown cells

A cell shows unless it holds nothing or a text without characters. Anchors, header blocks and values
are read from the cells that show. The last row is not: it counts any stored cell. So of two sheets
that show the same, the one that stores more may have further records, behind those of the other. An anchor and its
schema depend on the rows of the header block alone. Main statements: `MasterSchema.extract_congr`,
`MasterSchema.extract_of_showsAlikeTo` and `MasterSchema.materializeSheet_prefix`.
-/

namespace MasterData

theorem Cell.ne_empty {c : Cell} (h : c.isEmpty = false) : c ≠ .empty := by
  rintro rfl
  cases h

namespace Sheet

variable {s t : Sheet}

/-- The cell at an address, if it shows. -/
def shown? (s : Sheet) (a : Address) : Option Cell :=
  (s.cell? a).filter fun c => !c.isEmpty

/-- The sheets show the same cells. -/
def ShowsAlike (s t : Sheet) : Prop :=
  ∀ a, s.shown? a = t.shown? a

/-- The sheets show the same cells down to a last row. -/
def ShowsAlikeTo (s t : Sheet) (last : Nat) : Prop :=
  ∀ a : Address, a.row.toNat ≤ last → s.shown? a = t.shown? a

theorem ShowsAlike.to (h : s.ShowsAlike t) (last : Nat) : s.ShowsAlikeTo t last :=
  fun a _ => h a

theorem shown?_eq_some_iff {a : Address} {c : Cell} :
    s.shown? a = some c ↔ s.cell? a = some c ∧ c.isEmpty = false := by
  rw [shown?, Option.filter_eq_some_iff, Bool.not_eq_true']

theorem shown?_eq_filter_get? (s : Sheet) (a : Address) :
    s.shown? a = (s.cells.get? a).filter fun c => !c.isEmpty := by
  rw [shown?, cell?, Option.filter_filter]
  congr 1
  funext c
  cases c <;> simp [Cell.isEmpty]

theorem ShowsAlike.of_cell? (h : ∀ a, s.cell? a = t.cell? a) : s.ShowsAlike t := fun a => by
  rw [shown?, h, shown?]

/-! ## Views -/

theorem textAt_eq (s : Sheet) (a : Address) :
    s.textAt a = match s.shown? a with
      | some (.text text) => text
      | some (.boolean b) => toString b
      | _ => "" := by
  rw [textAt, shown?]
  cases s.cell? a with
  | none => rfl
  | some c =>
    cases c with
    | text text => by_cases htext : text = "" <;> simp [Option.filter, Cell.isEmpty, htext]
    | int _ | number _ | boolean _ | error _ | empty => rfl

theorem textAt_congr {a : Address} (h : s.shown? a = t.shown? a) : s.textAt a = t.textAt a := by
  rw [textAt_eq, h, textAt_eq]

/-- A view that makes nothing of a cell that does not show is the same on both sheets. -/
theorem bind_cell?_congr {α : Type} {view : Cell → Option α}
    (hview : ∀ c, c.isEmpty = true → view c = none) (h : s.ShowsAlike t) (a : Address) :
    (s.cell? a).bind view = (t.cell? a).bind view := by
  have hshown : ∀ s : Sheet, (s.cell? a).bind view = (s.shown? a).bind view := by
    intro s
    rw [shown?]
    cases s.cell? a with
    | none => rfl
    | some c => cases hempty : c.isEmpty <;> simp [Option.filter, hempty, hview]
  rw [hshown, h, hshown]

theorem numberAt?_congr (h : s.ShowsAlike t) (a : Address) : s.numberAt? a = t.numberAt? a :=
  bind_cell?_congr (fun c hc => by cases c <;> first | rfl | cases hc) h a

theorem boolAt?_congr (h : s.ShowsAlike t) (a : Address) : s.boolAt? a = t.boolAt? a :=
  bind_cell?_congr (fun c hc => by cases c <;> first | rfl | cases hc) h a

/-- The anchor mark is a text with a character, so it shows. -/
theorem cell?_eq_mark_iff {a : Address} :
    s.cell? a = some (.text anchorMark) ↔ s.shown? a = some (.text anchorMark) := by
  rw [shown?_eq_some_iff]
  exact (and_iff_left (by decide)).symm

theorem findAnchor?_congr (h : s.ShowsAlike t) : s.findAnchor? = t.findAnchor? := by
  ext a
  simp only [findAnchor?_eq_some_iff, cell?_eq_mark_iff, h _]

/-- The anchor is found from the cells down to its own row: marks further down come behind it. -/
theorem findAnchor?_of_showsAlikeTo {anchor : Address} {last : Nat} (h : s.ShowsAlikeTo t last)
    (hlast : anchor.row.toNat ≤ last) (hanchor : s.findAnchor? = some anchor) :
    t.findAnchor? = some anchor := by
  simp only [findAnchor?_eq_some_iff, cell?_eq_mark_iff] at hanchor ⊢
  obtain ⟨hmark, hfirst⟩ := hanchor
  refine ⟨h anchor hlast ▸ hmark, fun b hb => ?_⟩
  rcases Nat.lt_or_ge last b.row.toNat with hbelow | habove
  · exact .inr (Address.compare_eq_lt_iff.2 (.inl (UInt32.lt_iff_toNat_lt.2 (by omega))))
  · exact hfirst b ((h b habove).trans hb)

/-- The cells of a row that show, by column. -/
def shownCells (s : Sheet) (row : UInt32) : List (UInt32 × Cell) :=
  (s.rowCells row).filter fun p => !p.2.isEmpty

theorem mem_shownCells_iff {row col : UInt32} {c : Cell} :
    (col, c) ∈ s.shownCells row ↔ s.shown? ⟨row, col⟩ = some c := by
  rw [shownCells, List.mem_filter, mem_rowCells_iff, shown?_eq_some_iff, Bool.not_eq_true']

theorem shownCells_congr {row : UInt32} (h : ∀ col, s.shown? ⟨row, col⟩ = t.shown? ⟨row, col⟩) :
    s.shownCells row = t.shownCells row := by
  have hpairwise : ∀ s : Sheet, (s.shownCells row).Pairwise fun p q => p.1 < q.1 := fun s =>
    (s.pairwise_rowCells row).sublist List.filter_sublist
  have : Std.Irrefl fun p q : UInt32 × Cell => p.1 < q.1 := ⟨fun p => UInt32.lt_irrefl p.1⟩
  have : Std.Antisymm fun p q : UInt32 × Cell => p.1 < q.1 :=
    ⟨fun p q hpq hqp => absurd hqp (UInt32.lt_asymm hpq)⟩
  refine List.Pairwise.eq_of_mem_iff (hpairwise s) (hpairwise t) ?_
  rintro ⟨col, c⟩
  rw [mem_shownCells_iff, mem_shownCells_iff, h]

/-! ## The last row -/

/-- A sheet that stores all cells of another one ends at its last row or below. -/
theorem exists_lastRow?_of_stored (hstored : ∀ a, (s.cells.get? a).isSome → (t.cells.get? a).isSome)
    {last : UInt32} (hlast : s.lastRow? = some last) :
    ∃ last', t.lastRow? = some last' ∧ last ≤ last' := by
  obtain ⟨⟨col, hcol⟩, -⟩ := lastRow?_eq_some_iff.1 hlast
  have hcol := hstored _ hcol
  cases hlast' : t.lastRow? with
  | none => simp [lastRow?_eq_none_iff.1 hlast'] at hcol
  | some last' => exact ⟨last', rfl, (lastRow?_eq_some_iff.1 hlast').2 _ hcol⟩

end Sheet

/-! ## Schemas -/

namespace MasterSchema

variable {s t : Sheet}

/-- No row of a header block comes after the third below the anchor, also where the count wraps. -/
theorem toNat_add_le {row n : UInt32} (hn : n.toNat ≤ 3) :
    (row + n).toNat ≤ row.toNat + 3 := by
  rw [UInt32.toNat_add]
  exact (Nat.mod_le _ _).trans (Nat.add_le_add_left hn _)

/-- A column is read from the rows between the anchor and the records. -/
theorem column?_congr {anchorRow : UInt32} (h : s.ShowsAlikeTo t (anchorRow.toNat + 3))
    (types : TypeTable) (col : UInt32) :
    column? types s anchorRow col = column? types t anchorRow col := by
  have htext (n : UInt32) (hn : n.toNat ≤ 3) :
      s.textAt ⟨anchorRow + n, col⟩ = t.textAt ⟨anchorRow + n, col⟩ :=
    Sheet.textAt_congr (h _ (toNat_add_le hn))
  simp only [column?, htext 1 (by decide), htext 2 (by decide), htext 3 (by decide)]

/-- A cell of the type row that does not show gives no column. -/
theorem column?_of_isEmpty {anchorRow col : UInt32} {c : Cell}
    (hc : s.cell? ⟨anchorRow + 1, col⟩ = some c) (hempty : c.isEmpty) (types : TypeTable) :
    column? types s anchorRow col = none := by
  have hshown : s.shown? ⟨anchorRow + 1, col⟩ = none := by
    rw [Sheet.shown?, hc, Option.filter, if_neg (by simp [hempty])]
  have htype : Text.trim (s.textAt ⟨anchorRow + 1, col⟩) = "" := by
    rw [Sheet.textAt_eq, hshown]
    decide
  simp only [column?, htype, true_or, if_true]

/-- Only the cells of the type row that show give columns. -/
theorem columns_eq_of_shown (types : TypeTable) (s : Sheet) (anchor : Address) :
    (((s.rowCells (anchor.row + 1)).map (·.1)).filter (anchor.col ≤ ·)).filterMap
        (column? types s anchor.row)
      = (((s.shownCells (anchor.row + 1)).map (·.1)).filter (anchor.col ≤ ·)).filterMap
        (column? types s anchor.row) := by
  simp only [List.filter_map, List.filterMap_map, List.filterMap_filter, Sheet.shownCells]
  refine List.filterMap_congr fun p hp => ?_
  obtain ⟨col, c⟩ := p
  cases hempty : c.isEmpty with
  | false => simp
  | true =>
    simp [column?_of_isEmpty (Sheet.mem_rowCells_iff.1 hp) hempty types]

theorem columns_congr {anchor : Address} (h : s.ShowsAlikeTo t (anchor.row.toNat + 3))
    (types : TypeTable) :
    (((s.rowCells (anchor.row + 1)).map (·.1)).filter (anchor.col ≤ ·)).filterMap
        (column? types s anchor.row)
      = (((t.rowCells (anchor.row + 1)).map (·.1)).filter (anchor.col ≤ ·)).filterMap
        (column? types t anchor.row) := by
  have hcolumn : column? types s anchor.row = column? types t anchor.row :=
    funext fun col => column?_congr h types col
  have htypes : s.shownCells (anchor.row + 1) = t.shownCells (anchor.row + 1) :=
    Sheet.shownCells_congr fun col => h _ (toNat_add_le (by decide))
  rw [columns_eq_of_shown, htypes, hcolumn, ← columns_eq_of_shown]

/-- A schema is read from the rows down to the last one of the header block. -/
theorem extract_of_showsAlikeTo {anchor : Address} (h : s.ShowsAlikeTo t (anchor.row.toNat + 3))
    (hname : s.name = t.name) (types : TypeTable) (workbook : String) :
    extract types workbook s anchor = extract types workbook t anchor := by
  have htop (a : Address) (ha : a.row = 0) : s.textAt a = t.textAt a :=
    Sheet.textAt_congr (h a (by rw [ha]; exact Nat.zero_le _))
  simp only [extract, columns_congr h, htop nameCell rfl, htop descriptionCell rfl, hname]

/-- Sheets of one name that show the same cells declare the same master, or are refused alike. -/
theorem extract_congr (h : s.ShowsAlike t) (hname : s.name = t.name) (types : TypeTable)
    (workbook : String) (anchor : Address) :
    extract types workbook s anchor = extract types workbook t anchor :=
  extract_of_showsAlikeTo (h.to _) hname types workbook

end MasterSchema

/-! ## Values -/

/-- Nothing and a text without characters have no elements. -/
theorem FieldKind.decodeElements?_of_isEmpty {c : Cell} (h : c.isEmpty) (element : FieldKind) :
    element.decodeElements? c = none := by
  cases c with
  | empty => cases element <;> rfl
  | text text =>
    have htext : text = "" := by simpa [Cell.isEmpty] using h
    rw [decodeElements?, htext]
    rfl
  | int _ | number _ | boolean _ | error _ => cases h

theorem FieldKind.decode?_congr {s t : Sheet} (h : s.ShowsAlike t) (kind : FieldKind) (a : Address) :
    kind.decode? s a = kind.decode? t a := by
  cases kind with
  | primitive p => rw [decode?, Sheet.numberAt?_congr h, decode?]
  | string => rw [decode?, Sheet.textAt_congr (h a), decode?]
  | boolean => rw [decode?, Sheet.boolAt?_congr h, decode?]
  | enumeration _ _ => rw [decode?, Sheet.textAt_congr (h a), decode?]
  | array element length =>
    have hitems : (s.cell? a).bind element.decodeElements?
        = (t.cell? a).bind element.decodeElements? :=
      Sheet.bind_cell?_congr (fun _ hempty => decodeElements?_of_isEmpty hempty element) h a
    simp only [decode?, Option.bind_eq_bind, ← Option.bind_assoc, hitems]
  | opaqueType _ => rfl

/-! ## Records -/

namespace MasterSchema

variable {sheet sheet' : Sheet} {prior : Option Asset}

theorem materialize_congr (h : sheet.ShowsAlike sheet') (s : MasterSchema) (first last : UInt32)
    (prior : Option Asset) :
    s.materialize sheet first last prior = s.materialize sheet' first last prior := by
  simp only [materialize, recordAt, FieldKind.decode?_congr h]

/-- Fewer rows make the first ones of the records. -/
theorem materialize_prefix (s : MasterSchema) {first last last' : UInt32} (h : last ≤ last') :
    s.materialize sheet first last prior <+: s.materialize sheet first last' prior := by
  have hle : last.toNat + 1 - first.toNat ≤ last'.toNat + 1 - first.toNat := by
    have := UInt32.le_iff_toNat_le.1 h
    omega
  have hrange : List.range (last.toNat + 1 - first.toNat)
      <+: List.range (last'.toNat + 1 - first.toNat) := by
    rw [← Nat.min_eq_left hle, ← List.take_range]
    exact List.take_prefix ..
  exact hrange.map _

/-- Of two sheets that show the same, the one that stores more has the records of the other one
first. -/
theorem materializeSheet_prefix (h : sheet.ShowsAlike sheet')
    (hstored : ∀ a, (sheet.cells.get? a).isSome → (sheet'.cells.get? a).isSome) (s : MasterSchema)
    (prior : Option Asset) :
    s.materializeSheet sheet prior <+: s.materializeSheet sheet' prior := by
  cases hlast : sheet.lastRow? with
  | none =>
    simp only [materializeSheet, hlast]
    exact List.nil_prefix
  | some last =>
    obtain ⟨last', hlast', hle⟩ := Sheet.exists_lastRow?_of_stored hstored hlast
    simp only [materializeSheet, hlast, hlast']
    rw [s.materialize_congr h]
    exact s.materialize_prefix hle

/-- They have the same records exactly if their data blocks have the same number of rows. -/
theorem materializeSheet_eq_iff (h : sheet.ShowsAlike sheet')
    (hstored : ∀ a, (sheet.cells.get? a).isSome → (sheet'.cells.get? a).isSome) (s : MasterSchema)
    (prior : Option Asset) :
    s.materializeSheet sheet prior = s.materializeSheet sheet' prior
      ↔ s.rowCount sheet = s.rowCount sheet' := by
  rw [← s.length_materializeSheet sheet prior, ← s.length_materializeSheet sheet' prior]
  exact ⟨congrArg List.length, (s.materializeSheet_prefix h hstored prior).eq_of_length⟩

/-- A data block has a row at a position exactly if a cell is stored in that row or below it. -/
theorem lt_rowCount_iff {s : MasterSchema} {position : Nat} :
    position < s.rowCount sheet ↔ ∃ a, (sheet.cells.get? a).isSome
      ∧ s.dataStartRow.toNat + position ≤ a.row.toNat := by
  rw [rowCount]
  cases hlast : sheet.lastRow? with
  | none => simp [Sheet.lastRow?_eq_none_iff.1 hlast]
  | some last =>
    obtain ⟨⟨col, hcol⟩, hle⟩ := Sheet.lastRow?_eq_some_iff.1 hlast
    have hrow : (∃ a, (sheet.cells.get? a).isSome ∧ s.dataStartRow.toNat + position ≤ a.row.toNat)
        ↔ s.dataStartRow.toNat + position ≤ last.toNat :=
      ⟨fun ⟨a, ha, h⟩ => h.trans (UInt32.le_iff_toNat_le.1 (hle a ha)),
        fun h => ⟨⟨last, col⟩, hcol, h⟩⟩
    rw [hrow]
    simp only [UInt32.le_iff_toNat_le]
    split <;> omega

/-- The data blocks have the same number of rows exactly if every cell that the larger sheet stores in
the block stands at or above a cell that the smaller one stores. -/
theorem rowCount_eq_iff (s : MasterSchema)
    (hstored : ∀ a, (sheet.cells.get? a).isSome → (sheet'.cells.get? a).isSome) :
    s.rowCount sheet = s.rowCount sheet'
      ↔ ∀ a, (sheet'.cells.get? a).isSome → s.dataStartRow ≤ a.row →
        ∃ b, (sheet.cells.get? b).isSome ∧ a.row ≤ b.row := by
  simp only [UInt32.le_iff_toNat_le]
  constructor
  · intro heq a ha hstart
    have hrow : a.row.toNat - s.dataStartRow.toNat < s.rowCount sheet := by
      rw [heq, lt_rowCount_iff]
      exact ⟨a, ha, by omega⟩
    obtain ⟨b, hb, hle⟩ := lt_rowCount_iff.1 hrow
    exact ⟨b, hb, by omega⟩
  · intro h
    refine Nat.le_antisymm (forall_lt_iff_le.1 fun n hn => ?_) (forall_lt_iff_le.1 fun n hn => ?_)
    · obtain ⟨a, ha, hle⟩ := lt_rowCount_iff.1 hn
      exact lt_rowCount_iff.2 ⟨a, hstored a ha, hle⟩
    · obtain ⟨a, ha, hle⟩ := lt_rowCount_iff.1 hn
      obtain ⟨b, hb, hab⟩ := h a ha (by omega)
      exact lt_rowCount_iff.2 ⟨b, hb, hle.trans hab⟩

end MasterSchema

end MasterData
