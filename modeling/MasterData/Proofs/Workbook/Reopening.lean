-- SUMMARY: Documents that are saved and opened again.
import MasterData.Proofs.Workbook.Editing

/-! # Saving and reopening

A document that is opened has only finite numbers, since no other number has a literal. Edits bring in
the numbers that they store and no others. As long as those are finite as well, the saved document is
opened as the same one again; with any other number in a cell its text is not accepted.
Main statement: `Document.reopened_reads_alike_if_finite`.
-/

namespace MasterData

/-! ## Numbers -/

/-- The number in a cell. -/
def Cell.number? : Cell → Option Double
  | number x => some x
  | _ => none

theorem Cell.number?_eq_some_iff {v : Cell} {x : Double} : v.number? = some x ↔ v = .number x := by
  cases v <;> simp [number?]

/-- The numbers in some cells of a document. -/
def DocumentSheet.numbersIn (cells : List DocumentCell) : List Double :=
  cells.filterMap fun c => c.value.bind Cell.number?

theorem DocumentSheet.mem_numbersIn_iff {cells : List DocumentCell} {x : Double} :
    x ∈ numbersIn cells ↔ ∃ c ∈ cells, c.value = some (.number x) := by
  simp [numbersIn, Option.bind_eq_some_iff, Cell.number?_eq_some_iff]

namespace Document

variable {d : Document} {x : Double}

/-- The numbers in the cells of some sheets. -/
def numbersIn (sheets : List DocumentSheet) : List Double :=
  sheets.flatMap fun s => DocumentSheet.numbersIn s.cells

/-- The numbers in the cells of a document. -/
def numbers (d : Document) : List Double :=
  numbersIn d.sheets

theorem mem_numbers_iff :
    x ∈ d.numbers ↔ ∃ s ∈ d.sheets, ∃ c ∈ s.cells, c.value = some (.number x) := by
  simp [numbers, numbersIn, DocumentSheet.mem_numbersIn_iff]

/-- Whether all numbers in the cells of a document are finite. -/
def HasFiniteNumbers (d : Document) : Prop :=
  ∀ x ∈ d.numbers, x.isFinite

instance (d : Document) : Decidable d.HasFiniteNumbers :=
  inferInstanceAs (Decidable (∀ x ∈ d.numbers, x.isFinite))

theorem readsBack_of_forall (h : ∀ x ∈ d.numbers, x.ReadsBack) : d.ReadsBack := by
  intro s hs c hc v hv
  cases v with
  | number x => exact h x (mem_numbers_iff.2 ⟨s, hs, c, hc, hv⟩)
  | int _ | text _ | boolean _ | error _ | empty => trivial

/-! ## What is opened -/

/-- A field has its value for when it is missing, or one that was read. -/
theorem eq_default_or_exists_of_defaulted? {α : Type} {f : Json.Fields} {name : String}
    {default a : α} {read : Json → Option α} (h : f.defaulted? name default read = some a) :
    a = default ∨ ∃ j, read j = some a := by
  unfold Json.Fields.defaulted? at h
  split at h
  · exact .inr ⟨_, h⟩
  · exact .inl (Option.some.inj h).symm

theorem isFinite_of_valueOfJson? {j : Json} (h : valueOfJson? j = some (.number x)) :
    x.isFinite := by
  obtain ⟨variant, -, h⟩ := Option.bind_eq_some_iff.1 h
  unfold valueOfVariant? at h
  -- One case for each name of a variant; only one of them gives a number.
  split at h
  · simp at h
  · simp only [Json.Variant.with?, Option.map_eq_some_iff, Option.bind_eq_some_iff,
      Cell.number.injEq] at h
    obtain ⟨y, ⟨content, -, hy⟩, rfl⟩ := h
    exact Json.isFinite_of_asDouble? hy
  · simp at h
  · simp at h
  · simp at h
  · simp at h
  · cases h

theorem isFinite_of_cellOfJson? {j : Json} {c : DocumentCell} (h : cellOfJson? j = some c)
    (hx : c.value = some (.number x)) : x.isFinite := by
  simp only [cellOfJson?, Option.bind_eq_bind, Option.bind_eq_some_iff, Option.pure_def,
    Option.some.injEq] at h
  obtain ⟨f, -, row, -, col, -, value, hvalue, rfl⟩ := h
  obtain rfl : value = some (.number x) := hx
  obtain hnone | ⟨j, hj⟩ := eq_default_or_exists_of_defaulted? hvalue
  · cases hnone
  · unfold Json.asNullable? at hj
    split at hj
    · cases hj
    · obtain ⟨v, hv, heq⟩ := Option.map_eq_some_iff.1 hj
      exact isFinite_of_valueOfJson? (Option.some.inj heq ▸ hv)

theorem isFinite_of_sheetOfJson? {j : Json} {s : DocumentSheet} (h : sheetOfJson? j = some s)
    {c : DocumentCell} (hc : c ∈ s.cells) (hx : c.value = some (.number x)) : x.isFinite := by
  simp only [sheetOfJson?, Option.bind_eq_bind, Option.bind_eq_some_iff, Option.pure_def,
    Option.some.injEq] at h
  obtain ⟨f, -, name, -, cells, hcells, dimensions, -, hidden, -, rfl⟩ := h
  obtain rfl | ⟨j, hj⟩ := eq_default_or_exists_of_defaulted? hcells
  · cases hc
  · obtain ⟨j, hj⟩ := Json.exists_of_mem_asListOf? hj hc
    exact isFinite_of_cellOfJson? hj hx

/-- A document that is read has finite numbers only. -/
theorem hasFiniteNumbers_of_parse? {input : List Text.Symbol} (h : parse? input = some d) :
    d.HasFiniteNumbers := by
  obtain ⟨j, -, h⟩ := Option.bind_eq_some_iff.1 h
  simp only [ofJson?, Option.bind_eq_bind, Option.bind_eq_some_iff, Option.pure_def,
    Option.some.injEq] at h
  obtain ⟨f, -, version, -, sheets, hsheets, rfl⟩ := h
  intro x hx
  obtain ⟨s, hs, c, hc, hvalue⟩ := mem_numbers_iff.1 hx
  obtain rfl | ⟨j, hj⟩ := eq_default_or_exists_of_defaulted? hsheets
  · cases hs
  · obtain ⟨j, hj⟩ := Json.exists_of_mem_asListOf? hj hs
    exact isFinite_of_sheetOfJson? hj hc hvalue

/-! ## What edits store -/

/-- The numbers that a change of a document stores. -/
def Edit.numbers : Edit → List Double
  | .addSheet _ => []
  | .setCell _ _ v => v.number?.toList
  | .putSheet sheet => sheet.cells.toList.filterMap (·.2.number?)

theorem mem_numbersIn_setIn {a : Address} {v : Cell} {cells : List DocumentCell}
    (h : x ∈ DocumentSheet.numbersIn (DocumentSheet.setIn a v cells)) :
    x ∈ DocumentSheet.numbersIn cells ∨ v = .number x := by
  induction cells with
  | nil => exact .inr (by simpa [DocumentSheet.setIn, DocumentSheet.mem_numbersIn_iff] using h)
  | cons c rest ih =>
    simp only [DocumentSheet.setIn, DocumentSheet.mem_numbersIn_iff] at h ih ⊢
    split at h
    · obtain ⟨c', hc', hx⟩ := h
      obtain rfl | hc' := List.mem_cons.1 hc'
      · exact .inr (Option.some.inj hx)
      · exact .inl ⟨c', List.mem_cons_of_mem _ hc', hx⟩
    · obtain ⟨c', hc', hx⟩ := h
      obtain rfl | hc' := List.mem_cons.1 hc'
      · exact .inl ⟨c', List.mem_cons_self .., hx⟩
      · obtain ⟨c'', hc'', hx⟩ | hv := ih ⟨c', hc', hx⟩
        · exact .inl ⟨c'', List.mem_cons_of_mem _ hc'', hx⟩
        · exact .inr hv

/-- A change of one sheet brings in the numbers that the changed sheet has. -/
theorem mem_numbersIn_editSheet {name : String} {change : DocumentSheet → DocumentSheet}
    {stored : List Double}
    (hchange : ∀ s, x ∈ DocumentSheet.numbersIn (change s).cells →
      x ∈ DocumentSheet.numbersIn s.cells ∨ x ∈ stored)
    {sheets : List DocumentSheet} (h : x ∈ numbersIn (editSheet name change sheets)) :
    x ∈ numbersIn sheets ∨ x ∈ stored := by
  induction sheets with
  | nil =>
    have hx : x ∈ DocumentSheet.numbersIn (change (.named name)).cells := by
      simpa [numbersIn, editSheet] using h
    exact (hchange _ hx).imp_left fun hnone => by cases hnone
  | cons s rest ih =>
    simp only [numbersIn, editSheet, List.flatMap_cons, List.mem_append] at h ih ⊢
    split at h
    · rw [List.flatMap_cons, List.mem_append] at h
      obtain h | h := h
      · exact (hchange s h).imp_left .inl
      · exact .inl (.inr h)
    · rw [List.flatMap_cons, List.mem_append] at h
      obtain h | h := h
      · exact .inl (.inl h)
      · exact (ih h).imp_left .inr

/-- The step: a change brings in no numbers but those that it stores. -/
theorem mem_numbers_edit {e : Edit} (h : x ∈ (d.edit e).numbers) : x ∈ d.numbers ∨ x ∈ e.numbers := by
  cases e with
  | addSheet name =>
    refine mem_numbersIn_editSheet (fun s hx => ?_) h
    exact .inl hx
  | setCell name a v =>
    refine mem_numbersIn_editSheet (fun s hx => ?_) h
    obtain hx | rfl := mem_numbersIn_setIn hx
    · exact .inl hx
    · exact .inr (by simp [Edit.numbers, Cell.number?])
  | putSheet sheet =>
    refine mem_numbersIn_editSheet (fun s hx => .inr ?_) h
    simp only [DocumentSheet.numbersIn, List.filterMap_map] at hx
    exact hx

/-- The run: after any changes a document has the numbers that it had and those that were stored. -/
theorem mem_numbers_after {edits : List Edit} (h : x ∈ (d.after edits).numbers) :
    x ∈ d.numbers ∨ ∃ e ∈ edits, x ∈ e.numbers := by
  induction edits generalizing d with
  | nil => exact .inl h
  | cons e rest ih =>
    obtain h | ⟨e', he', hx⟩ := ih (d := d.edit e) h
    · exact (mem_numbers_edit h).imp_right fun hx => ⟨e, List.mem_cons_self .., hx⟩
    · exact .inr ⟨e', List.mem_cons_of_mem _ he', hx⟩

/-! ## Reopening -/

theorem valueOfJson?_number_eq_none (hx : x.isFinite = false) :
    valueOfJson? (valueJson (.number x)) = none := by
  simp [valueJson, valueOfJson?, Json.asVariant?_content, valueOfVariant?, Json.Variant.with?,
    Json.asDouble?_ofDouble_of_not_isFinite hx]

/-- The text of a document with a number that is not finite is the text of no document. -/
theorem parse?_render_eq_none (hx : x ∈ d.numbers) (hfinite : x.isFinite = false) :
    parse? (Text.symbols d.render) = none := by
  obtain ⟨s, hs, c, hc, hvalue⟩ := mem_numbers_iff.1 hx
  have hcell : cellOfJson? (cellJson c) = none := by
    rw [cellOfJson?_cellJson_eq, hvalue, Option.map_some, Option.getD_some, Json.asNullable?,
      valueOfJson?_number_eq_none hfinite]
    · rfl
    · simp [valueJson]
  have hsheet : sheetOfJson? (sheetJson s) = none := by
    rw [sheetOfJson?_sheetJson_eq, Json.mapM_map_eq_none hc hcell, Option.map_none]
  rw [parse?_render_eq, ofJson?_toJson_eq, Json.mapM_map_eq_none hs hsheet, Option.map_none]

/-- After any edits of a document that was opened, its text is accepted just if all its numbers are
finite, as they are if all that the edits store are. What is opened from the text then has the same
sheets in the same order, reads alike under every name and has the same text again. Finite numbers are
assumed to be read back from the literals that are written of them. -/
theorem reopened_reads_alike_if_finite {input : List Text.Symbol} {opened : Document}
    {edits : List Edit} (hopen : parse? input = some opened)
    (hexact : ∀ x ∈ (opened.after edits).numbers, x.isFinite → x.ReadsBack) :
    ((∀ e ∈ edits, ∀ x ∈ e.numbers, x.isFinite) → (opened.after edits).HasFiniteNumbers)
      ∧ ((opened.after edits).HasFiniteNumbers →
        ∃ reopened, parse? (Text.symbols (opened.after edits).render) = some reopened
          ∧ reopened.sheetNames = (opened.after edits).sheetNames
          ∧ (∀ name, reopened.sheet? name = (opened.after edits).sheet? name)
          ∧ reopened.render = (opened.after edits).render)
      ∧ (¬ (opened.after edits).HasFiniteNumbers →
        parse? (Text.symbols (opened.after edits).render) = none) := by
  refine ⟨fun hedits x hx => ?_, fun hfinite => ?_, fun hnot => ?_⟩
  · obtain hx | ⟨e, he, hx⟩ := mem_numbers_after hx
    · exact hasFiniteNumbers_of_parse? hopen x hx
    · exact hedits e he x hx
  · have hreads : (opened.after edits).ReadsBack :=
      readsBack_of_forall fun x hx => hexact x hx (hfinite x hx)
    exact ⟨_, parse?_render hreads, rfl, fun _ => rfl, rfl⟩
  · obtain ⟨x, hx, hinfinite⟩ : ∃ x ∈ (opened.after edits).numbers, x.isFinite = false := by
      simpa [HasFiniteNumbers] using hnot
    exact parse?_render_eq_none hx hinfinite

/-- A document with two sheets of one name, the first of which lists a cell twice. -/
def listedTwice : Document :=
  ⟨1, [⟨"S", [⟨⟨0, 0⟩, some (.number (.ofInt 7))⟩, ⟨⟨0, 0⟩, some (.text "b")⟩], some (3, 2), true⟩,
    ⟨"S", [], none, false⟩]⟩

/-- Edits that store a number. -/
def storing (x : Double) : List Edit :=
  [.addSheet "T", .setCell "S" ⟨0, 0⟩ (.number x)]

theorem reopened_reads_alike_if_finite_listedTwice :
    (∃ reopened, parse? (Text.symbols (listedTwice.after (storing (.ofInt 1))).render) = some reopened
      ∧ reopened.sheetNames = ["S", "S", "T"]
      ∧ (∀ name, reopened.sheet? name = (listedTwice.after (storing (.ofInt 1))).sheet? name)
      ∧ reopened.render = (listedTwice.after (storing (.ofInt 1))).render)
    ∧ parse? (Text.symbols (listedTwice.after (storing .nan)).render) = none := by
  have hopen : parse? (Text.symbols listedTwice.render) = some listedTwice := by
    refine parse?_render (readsBack_of_forall ?_)
    decide +kernel
  obtain ⟨hfinite, hreads, -⟩ :=
    @reopened_reads_alike_if_finite _ _ (storing (.ofInt 1)) hopen (by decide +kernel)
  obtain ⟨-, -, hrefuses⟩ :=
    @reopened_reads_alike_if_finite _ _ (storing .nan) hopen (by decide +kernel)
  obtain ⟨reopened, hparse, hnames, hsheets, hrender⟩ := hreads (hfinite (by decide +kernel))
  exact ⟨⟨reopened, hparse, hnames.trans (by decide), hsheets, hrender⟩, hrefuses (by decide +kernel)⟩

end Document

end MasterData
