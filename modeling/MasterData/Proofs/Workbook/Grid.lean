-- SUMMARY: A grid of values reads alike from a document and from a spreadsheet, but for blank texts below the data.
import MasterData.Proofs.Record.BlankCells
import MasterData.Proofs.Workbook.Editing
import MasterData.Workbook.Book

/-! # Grids

The same grid of values may be listed in a document and used in a range of a spreadsheet. A document
keeps a text without characters as a cell, a spreadsheet drops it. Both sheets show the same cells, so
they give the same anchor and the same schema. But a kept text counts for the last row: below all that
shows it makes further records.
Main statement: `Grid.read_alike_above_blank_texts`.
-/

namespace MasterData

/-! ## Used ranges -/

namespace StoredValue

/-- What a spreadsheet stores for the value of a cell. -/
def ofCell : Cell → StoredValue
  | .int i => .int i
  | .number x => .float x
  | .text s => .text s
  | .boolean b => .bool b
  | .error code => .error code
  | .empty => .empty

theorem toCell_ofCell (c : Cell) : (ofCell c).toCell = c := by
  cases c <;> rfl

theorem isDropped_ofCell (c : Cell) : (ofCell c).isDropped = c.isEmpty := by
  cases c <;> rfl

end StoredValue

namespace UsedRange

/-- The used cells at their addresses in the sheet. -/
def placed (r : UsedRange) : List (Address × StoredValue) :=
  let origin := r.start.getD ⟨0, 0⟩
  r.used.map fun (row, col, v) => (⟨origin.row + row, origin.col + col⟩, v)

/-- The cells with a stored value read at its address. -/
def place (found : SortedMap Address Cell) (p : Address × StoredValue) : SortedMap Address Cell :=
  if p.2.isDropped then found.erase p.1 else found.insert p.1 p.2.toCell

theorem cells_eq (r : UsedRange) : r.cells = r.placed.foldl place .empty := by
  rw [placed, List.foldl_map]
  rfl

theorem get?_place (found : SortedMap Address Cell) (a b : Address) (v : StoredValue) :
    (place found (a, v)).get? b
      = if b = a then (if v.isDropped then none else some v.toCell) else found.get? b := by
  unfold place
  split_ifs with hdropped heq heq
  · rw [SortedMap.get?_erase, if_pos heq]
  · rw [SortedMap.get?_erase, if_neg heq]
  · rw [heq, SortedMap.get?_insert_self]
  · rw [SortedMap.get?_insert, if_neg fun h => heq (Std.LawfulEqOrd.eq_of_compare h)]

/-- Where no position is used twice, reading gives the values at their addresses but for those that it
drops, and leaves other addresses as they are. -/
theorem get?_foldl_place {l : List (Address × StoredValue)} (hnodup : (l.map (·.1)).Nodup)
    (found : SortedMap Address Cell) (a : Address) (c : Cell) :
    (l.foldl place found).get? a = some c
      ↔ (∃ v, (a, v) ∈ l ∧ v.isDropped = false ∧ v.toCell = c)
        ∨ a ∉ l.map (·.1) ∧ found.get? a = some c := by
  induction l generalizing found with
  | nil => simp
  | cons p rest ih =>
    obtain ⟨b, v⟩ := p
    rw [List.map_cons, List.nodup_cons] at hnodup
    rw [List.foldl_cons, ih hnodup.2, get?_place]
    by_cases hab : a = b
    · subst hab
      have hrest : ∀ w, (a, w) ∉ rest := fun w hw => hnodup.1 (List.mem_map_of_mem (f := (·.1)) hw)
      cases hdropped : v.isDropped <;> simp [hnodup.1, hrest, hdropped]
    · simp [hab]

end UsedRange

/-! ## Listed cells -/

/-- Where no address is listed twice, a listed value is the last one there. -/
theorem DocumentSheet.lastValue?_eq_some_iff {a : Address} {c : Cell} {cells : List DocumentCell}
    (hnodup : (cells.map (·.address)).Nodup) :
    lastValue? a cells = some c ↔ ⟨a, some c⟩ ∈ cells := by
  induction cells with
  | nil => simp [lastValue?]
  | cons d rest ih =>
    obtain ⟨b, v⟩ := d
    rw [List.map_cons, List.nodup_cons] at hnodup
    rw [lastValue?, List.mem_cons, ← ih hnodup.2]
    by_cases hba : b = a
    · subst hba
      simp [lastValue?_eq_none hnodup.1, eq_comm]
    · simp [hba, Ne.symm hba]

/-! ## Grids -/

/-- Values at addresses, each address once. -/
structure Grid where
  entries : List (Address × Cell)
  nodup : (entries.map (·.1)).Nodup

namespace Grid

/-- The cells that the sheet of a document lists, in any order, are the values of the grid. -/
def IsListedIn (g : Grid) (s : DocumentSheet) : Prop :=
  s.cells.Perm (g.entries.map fun p => ⟨p.1, some p.2⟩)

/-- The used cells of a range, in any order, are the values of the grid that are not empty. -/
def IsUsedIn (g : Grid) (r : UsedRange) : Prop :=
  r.placed.Perm ((g.entries.filter (·.2 ≠ .empty)).map fun p => (p.1, .ofCell p.2))

/-- A sheet of a workbook holds the grid. -/
def IsIn (g : Grid) (name : String) : Workbook → Prop
  | .document d => ∃ s, d.sheets.find? (·.name = name) = some s ∧ g.IsListedIn s
  | .spreadsheet b => ∃ s r, b.sheets.find? (·.name = name) = some s ∧ s.range = some r ∧ g.IsUsedIn r

variable {g : Grid}

/-- A document gives all values of the grid. -/
theorem get?_toSheet_iff {s : DocumentSheet} (h : g.IsListedIn s) (a : Address) (c : Cell) :
    s.toSheet.cells.get? a = some c ↔ (a, c) ∈ g.entries ∧ c ≠ .empty := by
  have hnodup : (s.cells.map (·.address)).Nodup := by
    rw [(h.map _).nodup_iff, List.map_map]
    exact g.nodup
  rw [DocumentSheet.get?_toSheet, Option.filter_eq_some_iff,
    DocumentSheet.lastValue?_eq_some_iff hnodup, h.mem_iff]
  simp

/-- A spreadsheet gives those that show. -/
theorem get?_cells_iff {r : UsedRange} (h : g.IsUsedIn r) (a : Address) (c : Cell) :
    r.cells.get? a = some c ↔ (a, c) ∈ g.entries ∧ c.isEmpty = false := by
  have hnodup : (r.placed.map (·.1)).Nodup := by
    rw [(h.map _).nodup_iff, List.map_map]
    exact g.nodup.sublist (List.filter_sublist.map _)
  have hmem : ∀ v, (a, v) ∈ r.placed ↔ ∃ c, (a, c) ∈ g.entries ∧ c ≠ .empty ∧ .ofCell c = v := by
    intro v
    simp [h.mem_iff, and_assoc]
  rw [UsedRange.cells_eq, UsedRange.get?_foldl_place hnodup]
  have hempty : (SortedMap.empty : SortedMap Address Cell).get? a = none := rfl
  simp only [hmem, hempty, reduceCtorEq, and_false, or_false]
  constructor
  · rintro ⟨-, ⟨c', hc', -, rfl⟩, hdropped, rfl⟩
    rw [StoredValue.isDropped_ofCell] at hdropped
    rw [StoredValue.toCell_ofCell]
    exact ⟨hc', hdropped⟩
  · rintro ⟨hc, hshows⟩
    refine ⟨.ofCell c, ⟨c, hc, Cell.ne_empty hshows, rfl⟩, ?_, StoredValue.toCell_ofCell c⟩
    rw [StoredValue.isDropped_ofCell, hshows]

/-! ## Both readers -/

theorem readSheet_document {d : Document} {name : String} (h : g.IsIn name (.document d)) :
    ∃ s, (Workbook.document d).readSheet name = .ok s ∧ s.name = name
      ∧ ∀ a c, s.cells.get? a = some c ↔ (a, c) ∈ g.entries ∧ c ≠ .empty := by
  obtain ⟨listed, hfind, hlisted⟩ := h
  refine ⟨listed.toSheet, ?_, ?_, get?_toSheet_iff hlisted⟩
  · simp only [Workbook.readSheet, Document.sheet?, hfind, Option.map_some]
  · rw [DocumentSheet.name_toSheet]
    simpa using List.find?_some hfind

theorem readSheet_spreadsheet {b : Spreadsheet} {name : String} (h : g.IsIn name (.spreadsheet b)) :
    ∃ s, (Workbook.spreadsheet b).readSheet name = .ok s ∧ s.name = name
      ∧ ∀ a c, s.cells.get? a = some c ↔ (a, c) ∈ g.entries ∧ c.isEmpty = false := by
  obtain ⟨stored, r, hfind, hrange, hused⟩ := h
  refine ⟨Spreadsheet.sheetOfRange name r, ?_, rfl, get?_cells_iff hused⟩
  simp only [Workbook.readSheet, hfind, hrange]

/-- A text without characters stands in a row from `first` on, below all that shows. -/
def HasBlankTextBelow (g : Grid) (first : UInt32) : Prop :=
  ∃ p ∈ g.entries, p.2 = .text "" ∧ first ≤ p.1.row
    ∧ ∀ q ∈ g.entries, q.2.isEmpty = false → q.1.row < p.1.row

instance (g : Grid) (first : UInt32) : Decidable (g.HasBlankTextBelow first) :=
  inferInstanceAs (Decidable (∃ p ∈ g.entries, p.2 = .text "" ∧ first ≤ p.1.row
    ∧ ∀ q ∈ g.entries, q.2.isEmpty = false → q.1.row < p.1.row))

/-- Two sheets that hold a grid, the first without its blank texts. -/
structure AreReadings (g : Grid) (s t : Sheet) : Prop where
  shown : ∀ a c, s.cells.get? a = some c ↔ (a, c) ∈ g.entries ∧ c.isEmpty = false
  stored : ∀ a c, t.cells.get? a = some c ↔ (a, c) ∈ g.entries ∧ c ≠ .empty

namespace AreReadings

variable {s t : Sheet}

theorem stored_of_shown (h : g.AreReadings s t) (a : Address) (ha : (s.cells.get? a).isSome) :
    (t.cells.get? a).isSome := by
  obtain ⟨c, hc⟩ := Option.isSome_iff_exists.1 ha
  obtain ⟨hmem, hshows⟩ := (h.shown a c).1 hc
  rw [(h.stored a c).2 ⟨hmem, Cell.ne_empty hshows⟩, Option.isSome_some]

theorem showsAlike (h : g.AreReadings s t) : s.ShowsAlike t := by
  intro a
  ext c
  rw [Sheet.shown?_eq_filter_get?, Sheet.shown?_eq_filter_get?, Option.filter_eq_some_iff,
    Option.filter_eq_some_iff, h.shown, h.stored, Bool.not_eq_true']
  constructor
  · rintro ⟨⟨hmem, hshows⟩, -⟩
    exact ⟨⟨hmem, Cell.ne_empty hshows⟩, hshows⟩
  · rintro ⟨⟨hmem, -⟩, hshows⟩
    exact ⟨⟨hmem, hshows⟩, hshows⟩

/-- What is stored and does not show is a text without characters. -/
theorem rowCount_eq_iff (h : g.AreReadings s t) (schema : MasterSchema) :
    schema.rowCount s = schema.rowCount t ↔ ¬ g.HasBlankTextBelow schema.dataStartRow := by
  rw [schema.rowCount_eq_iff h.stored_of_shown]
  have hshown : ∀ a, (s.cells.get? a).isSome ↔ ∃ c, (a, c) ∈ g.entries ∧ c.isEmpty = false :=
    fun a => by simp only [Option.isSome_iff_exists, h.shown]
  have hstored : ∀ a, (t.cells.get? a).isSome ↔ ∃ c, (a, c) ∈ g.entries ∧ c ≠ .empty :=
    fun a => by simp only [Option.isSome_iff_exists, h.stored]
  constructor
  · rintro hrows ⟨⟨a, _⟩, ha, rfl, hfirst, hbelow⟩
    obtain ⟨b, hb, hle⟩ := hrows a ((hstored a).2 ⟨_, ha, by simp⟩) hfirst
    obtain ⟨c, hc, hshows⟩ := (hshown b).1 hb
    exact absurd hle (UInt32.not_le.2 (hbelow _ hc hshows))
  · intro hnone a ha hfirst
    obtain ⟨c, hc, hne⟩ := (hstored a).1 ha
    cases hshows : c.isEmpty with
    | false => exact ⟨a, (hshown a).2 ⟨c, hc, hshows⟩, UInt32.le_refl _⟩
    | true =>
      obtain rfl : c = .text "" := by
        cases c with
        | text text => rw [of_decide_eq_true hshows]
        | empty => exact absurd rfl hne
        | int _ | number _ | boolean _ | error _ => cases hshows
      by_contra hbelow
      refine hnone ⟨_, hc, rfl, hfirst, fun q hq hqshows => UInt32.not_le.1 fun hle => hbelow ?_⟩
      exact ⟨q.1, (hshown q.1).2 ⟨q.2, hq, hqshows⟩, hle⟩

end AreReadings

/-- A document and a spreadsheet that hold the same grid are both read, and give the same anchor and
the same schema, or refusal, under any type names. The records of the spreadsheet are the first ones of
the document. They are all of them exactly if the grid has no text without characters in the data block
below all values that show. -/
theorem read_alike_above_blank_texts (g : Grid) {d : Document} {b : Spreadsheet} {name : String}
    (hd : g.IsIn name (.document d)) (hb : g.IsIn name (.spreadsheet b)) :
    ∃ s t, (Workbook.spreadsheet b).readSheet name = .ok s
      ∧ (Workbook.document d).readSheet name = .ok t
      ∧ s.findAnchor? = t.findAnchor?
      ∧ (∀ types workbook anchor, MasterSchema.extract types workbook s anchor
          = MasterSchema.extract types workbook t anchor)
      ∧ ∀ (schema : MasterSchema) (prior : Option Asset),
        schema.materializeSheet s prior <+: schema.materializeSheet t prior
          ∧ (schema.materializeSheet s prior = schema.materializeSheet t prior
            ↔ ¬ g.HasBlankTextBelow schema.dataStartRow) := by
  obtain ⟨s, hs, hsname, hshown⟩ := readSheet_spreadsheet hb
  obtain ⟨t, ht, htname, hstored⟩ := readSheet_document hd
  have h : g.AreReadings s t := ⟨hshown, hstored⟩
  have hname : s.name = t.name := hsname.trans htname.symm
  refine ⟨s, t, hs, ht, Sheet.findAnchor?_congr h.showsAlike, ?_, fun schema prior => ⟨?_, ?_⟩⟩
  · exact MasterSchema.extract_congr h.showsAlike hname
  · exact schema.materializeSheet_prefix h.showsAlike h.stored_of_shown prior
  · rw [schema.materializeSheet_eq_iff h.showsAlike h.stored_of_shown, h.rowCount_eq_iff]

/-- A master with one record, and a text without characters two rows below it. -/
def blankBelow : Grid where
  entries := [
    (⟨0, 0⟩, .text "Loot"), (⟨1, 0⟩, .text "@"), (⟨2, 0⟩, .text "int"), (⟨3, 0⟩, .text "id"),
    (⟨5, 0⟩, .number (.ofInt 7)), (⟨7, 0⟩, .text "")]
  nodup := by decide

/-- The document that lists the grid in one sheet. -/
def toDocument (g : Grid) (name : String) : Document :=
  ⟨1, [⟨name, g.entries.map fun p => ⟨p.1, some p.2⟩, none, false⟩]⟩

/-- The spreadsheet that has the range around the grid as its one sheet. -/
def toSpreadsheet (g : Grid) (name : String) : Spreadsheet :=
  let stored := (g.entries.filter (·.2 ≠ .empty)).map fun p => (p.1, StoredValue.ofCell p.2)
  ⟨[⟨name, some (.around stored)⟩]⟩

theorem isIn_blankBelow :
    blankBelow.IsIn "Loot" (.document (blankBelow.toDocument "Loot"))
      ∧ blankBelow.IsIn "Loot" (.spreadsheet (blankBelow.toSpreadsheet "Loot")) := by
  refine ⟨⟨_, rfl, List.Perm.refl _⟩, ⟨_, _, rfl, rfl, List.Perm.of_eq ?_⟩⟩
  decide

/-- The records differ where the data block reaches down to the text, and are the same where it starts
below it. -/
theorem read_alike_above_blank_texts_blankBelow :
    blankBelow.IsIn "Loot" (.document (blankBelow.toDocument "Loot"))
      ∧ blankBelow.IsIn "Loot" (.spreadsheet (blankBelow.toSpreadsheet "Loot"))
      ∧ ∃ s t, (Workbook.spreadsheet (blankBelow.toSpreadsheet "Loot")).readSheet "Loot" = .ok s
        ∧ (Workbook.document (blankBelow.toDocument "Loot")).readSheet "Loot" = .ok t
        ∧ s.findAnchor? = t.findAnchor?
        ∧ MasterSchema.idSchema.materializeSheet s none ≠ MasterSchema.idSchema.materializeSheet t none
        ∧ { MasterSchema.idSchema with dataStartRow := 8 }.materializeSheet s none
          = { MasterSchema.idSchema with dataStartRow := 8 }.materializeSheet t none := by
  obtain ⟨s, t, hs, ht, hanchor, -, hrecords⟩ :=
    blankBelow.read_alike_above_blank_texts isIn_blankBelow.1 isIn_blankBelow.2
  refine ⟨isIn_blankBelow.1, isIn_blankBelow.2, s, t, hs, ht, hanchor, ?_, ?_⟩
  · rw [ne_eq, (hrecords _ none).2, not_not]
    decide
  · rw [(hrecords _ none).2]
    decide

/-- A file can list the grid. What its document makes of the text below the record are two further
records, which a spreadsheet with the same values has not. -/
theorem not_read_alike_blankBelow :
    Document.parse? (Text.symbols (blankBelow.toDocument "Loot").render)
        = some (blankBelow.toDocument "Loot")
      ∧ blankBelow.IsIn "Loot" (.document (blankBelow.toDocument "Loot"))
      ∧ blankBelow.IsIn "Loot" (.spreadsheet (blankBelow.toSpreadsheet "Loot"))
      ∧ ∃ s t, (Workbook.spreadsheet (blankBelow.toSpreadsheet "Loot")).readSheet "Loot" = .ok s
        ∧ (Workbook.document (blankBelow.toDocument "Loot")).readSheet "Loot" = .ok t
        ∧ MasterSchema.extract .empty "book.json" s ⟨1, 0⟩ = .ok (some MasterSchema.idSchema)
        ∧ MasterSchema.idSchema.materializeSheet s none = [⟨[.int 7]⟩]
        ∧ MasterSchema.idSchema.materializeSheet t none = [⟨[.int 7]⟩, ⟨[.int 0]⟩, ⟨[.int 0]⟩] := by
  have hnumber : (Double.ofInt 7).ReadsBack := by decide
  refine ⟨Document.parse?_render ?_, isIn_blankBelow.1, isIn_blankBelow.2, _, _, rfl, rfl, ?_⟩
  · simp [Document.ReadsBack, toDocument, blankBelow, Cell.ReadsBack, hnumber]
  · decide

end Grid

end MasterData
