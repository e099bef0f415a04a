-- SUMMARY: What a document reads as after a cell was set.
import MasterData.Proofs.Sheet
import MasterData.Proofs.Workbook.Document
import MasterData.Proofs.Workbook.DocumentText

/-! # Edited documents

A sheet of a document may list an address more than once. Reading takes the last value listed there,
while setting a cell changes the first listing: a value in a listing behind it overrules what is set.
No edit makes such a listing, so a document without any reads back whatever is set in it, after any
edits.
Main statement: `Document.setCell_reads_back_unless_overruled`.
-/

namespace MasterData

namespace DocumentSheet

/-! ## Listed cells -/

/-- The last value that is listed at an address. -/
def lastValue? (a : Address) : List DocumentCell → Option Cell
  | [] => none
  | c :: rest => (lastValue? a rest).or (if c.address = a then c.value else none)

/-- The last value that is listed at an address behind the first listing there. -/
def overruling? (a : Address) : List DocumentCell → Option Cell
  | [] => none
  | c :: rest => if c.address = a then lastValue? a rest else overruling? a rest

variable {a : Address} {cells : List DocumentCell}

theorem lastValue?_setIn (a b : Address) (v : Cell) (cells : List DocumentCell) :
    lastValue? b (setIn a v cells)
      = if b = a then (overruling? a cells).or (some v) else lastValue? b cells := by
  induction cells with
  | nil =>
    by_cases hb : b = a
    · simp [setIn, lastValue?, overruling?, hb]
    · simp [setIn, lastValue?, hb, Ne.symm hb]
  | cons c rest ih =>
    by_cases hc : c.address = a
    · by_cases hb : b = a
      · simp [setIn, lastValue?, overruling?, hc, hb]
      · simp [setIn, lastValue?, hc, hb, Ne.symm hb]
    · by_cases hb : b = a
      · subst hb
        simp [setIn, lastValue?, overruling?, hc, ih]
      · simp [setIn, lastValue?, hc, hb, ih]

/-- Setting a cell leaves the listings behind the first one as they are. -/
theorem overruling?_setIn (a b : Address) (v : Cell) (cells : List DocumentCell) :
    overruling? b (setIn a v cells) = overruling? b cells := by
  induction cells with
  | nil => simp [setIn, overruling?, lastValue?]
  | cons c rest ih =>
    by_cases hc : c.address = a
    · simp [setIn, overruling?, hc]
    · by_cases hb : c.address = b
      · have hne : b ≠ a := hb ▸ hc
        simp [setIn, overruling?, hb, lastValue?_setIn, hne]
      · simp [setIn, overruling?, hc, hb, ih]

/-- What overrules a listing is the last value of all. -/
theorem lastValue?_of_overruling? {w : Cell} (h : overruling? a cells = some w) :
    lastValue? a cells = some w := by
  induction cells with
  | nil => cases h
  | cons c rest ih =>
    have hrest : lastValue? a rest = some w := by
      rw [overruling?] at h
      split_ifs at h
      · exact h
      · exact ih h
    rw [lastValue?, hrest, Option.some_or]

theorem lastValue?_eq_none (h : a ∉ cells.map (·.address)) : lastValue? a cells = none := by
  induction cells with
  | nil => rfl
  | cons c rest ih =>
    rw [List.map_cons, List.mem_cons, not_or] at h
    rw [lastValue?, ih h.2, if_neg (Ne.symm h.1), Option.or_none]

theorem overruling?_eq_none_of_nodup (h : (cells.map (·.address)).Nodup) :
    overruling? a cells = none := by
  induction cells with
  | nil => rfl
  | cons c rest ih =>
    rw [List.map_cons, List.nodup_cons] at h
    rw [overruling?]
    split
    · rename_i heq
      exact lastValue?_eq_none (heq ▸ h.1)
    · exact ih h.2

theorem get?_foldl_set (sheet : Sheet) (a : Address) (cells : List DocumentCell) :
    (cells.foldl (fun (sheet : Sheet) c =>
        match c.value with
        | some v => sheet.set c.address v
        | none => sheet) sheet).cells.get? a
      = ((lastValue? a cells).map fun v => if v = .empty then none else some v).getD
          (sheet.cells.get? a) := by
  induction cells generalizing sheet with
  | nil => rfl
  | cons c rest ih =>
    rw [List.foldl_cons, ih, lastValue?]
    cases hrest : lastValue? a rest with
    | some v => rfl
    | none =>
      cases hc : c.value with
      | none => simp
      | some v =>
        by_cases ha : c.address = a
        · simp [Sheet.get?_set, ha]
        · simp [Sheet.get?_set, ha, Ne.symm ha]

/-- A sheet holds at an address the last value that is listed there. -/
theorem get?_toSheet (s : DocumentSheet) (a : Address) :
    s.toSheet.cells.get? a = (lastValue? a s.cells).filter (· ≠ .empty) := by
  have h : s.toSheet.cells.get? a = _ := get?_foldl_set (.named s.name) a s.cells
  rw [h]
  cases lastValue? a s.cells with
  | none => rfl
  | some v => by_cases hv : v = .empty <;> simp [Option.filter, hv]

end DocumentSheet

namespace Document

variable {d : Document} {name : String} {a : Address} {v w : Cell}

/-! ## Edits -/

/-- The last value that is listed at an address of a sheet behind the first listing there. -/
def overruling? (d : Document) (name : String) (a : Address) : Option Cell :=
  DocumentSheet.overruling? a (d.listed name).cells

/-- A change of a document. -/
inductive Edit where
  | addSheet (name : String)
  | setCell (name : String) (a : Address) (v : Cell)
  | putSheet (sheet : Sheet)

def edit (d : Document) : Edit → Document
  | .addSheet name => d.addSheet name
  | .setCell name a v => d.setCell name a v
  | .putSheet sheet => d.putSheet sheet

/-- The document after some changes. -/
def after (d : Document) (edits : List Edit) : Document :=
  edits.foldl edit d

/-- A sheet that is put in lists no address twice. -/
theorem overruling?_putSheet (d : Document) (sheet : Sheet) (name : String) (a : Address) :
    (d.putSheet sheet).overruling? name a
      = if name = sheet.name then none else d.overruling? name a := by
  rw [overruling?, cells_listed_putSheet]
  split_ifs
  · refine DocumentSheet.overruling?_eq_none_of_nodup ?_
    rw [List.map_map]
    refine List.pairwise_map.2 (sheet.cells.sorted.imp fun {p q} hlt heq => ?_)
    have heq : p.1 = q.1 := heq
    rw [heq] at hlt
    simp at hlt
  · rfl

/-- No edit overrules what is not overruled already. -/
theorem overruling?_edit {e : Edit} (h : (d.edit e).overruling? name a = some w) :
    d.overruling? name a = some w := by
  cases e with
  | addSheet added =>
    rw [edit, overruling?, listed_addSheet] at h
    exact h
  | setCell edited b v =>
    rw [edit, overruling?, listed_setCell] at h
    split_ifs at h with hname
    · rw [overruling?, hname, ← h]
      exact (DocumentSheet.overruling?_setIn ..).symm
    · exact h
  | putSheet sheet =>
    rw [edit, overruling?_putSheet] at h
    split_ifs at h
    exact h

theorem overruling?_after {edits : List Edit} (h : (d.after edits).overruling? name a = some w) :
    d.overruling? name a = some w := by
  induction edits generalizing d with
  | nil => exact h
  | cons e rest ih => exact overruling?_edit (ih h)

/-! ## Setting a cell -/

/-- The second document reads as the first one with a value at an address of a sheet, which is added
at the end if there is none of that name. -/
structure StoresCell (d d' : Document) (name : String) (a : Address) (v : Cell) : Prop where
  value : (d'.sheet? name).map (·.cells.get? a) = some (if v = .empty then none else some v)
  cells : ∀ other b, ¬ (other = name ∧ b = a) →
    (d'.content other).cells.get? b = (d.content other).cells.get? b
  dimensions : ∀ other, (d'.content other).dimensions = (d.content other).dimensions
  hidden : ∀ other, (d'.content other).hidden = (d.content other).hidden
  sheetNames : d'.sheetNames
    = if name ∈ d.sheetNames then d.sheetNames else d.sheetNames ++ [name]

/-- A cell that was set reads as what overrules it, if anything does. -/
theorem get?_content_setCell (d : Document) (name : String) (a : Address) (v : Cell)
    (other : String) (b : Address) :
    ((d.setCell name a v).content other).cells.get? b
      = if other = name ∧ b = a then ((d.overruling? name a).or (some v)).filter (· ≠ .empty)
        else (d.content other).cells.get? b := by
  simp only [content, DocumentSheet.get?_toSheet, listed_setCell]
  by_cases hname : other = name
  · subst hname
    rw [if_pos rfl, DocumentSheet.lastValue?_setIn]
    by_cases hb : b = a
    · rw [if_pos hb, if_pos ⟨rfl, hb⟩, overruling?]
    · rw [if_neg hb, if_neg fun h => hb h.2]
  · rw [if_neg hname, if_neg fun h => hname h.1]

theorem mem_sheetNames_setCell (d : Document) (name : String) (a : Address) (v : Cell) :
    name ∈ (d.setCell name a v).sheetNames := by
  rw [sheetNames_setCell]
  split_ifs with h
  · exact h
  · simp

/-- The size and the visibility of the sheets stay as they are. -/
theorem frame_content_setCell (d : Document) (name : String) (a : Address) (v : Cell)
    (other : String) :
    ((d.setCell name a v).content other).dimensions = (d.content other).dimensions
      ∧ ((d.setCell name a v).content other).hidden = (d.content other).hidden := by
  have hlisted : ((d.setCell name a v).listed other).dimensions = (d.listed other).dimensions
      ∧ ((d.setCell name a v).listed other).hidden = (d.listed other).hidden := by
    rw [listed_setCell]
    split_ifs with h
    · rw [h]
      exact ⟨rfl, rfl⟩
    · exact ⟨rfl, rfl⟩
  exact hlisted

/-- A cell that was set reads back unless another value overrules it. -/
theorem storesCell_setCell_iff :
    StoresCell d (d.setCell name a v) name a v ↔ ∀ w, d.overruling? name a = some w → w = v := by
  have hvalue : ((d.setCell name a v).sheet? name).map (·.cells.get? a)
      = some (((d.overruling? name a).or (some v)).filter (· ≠ .empty)) := by
    rw [sheet?_eq, if_pos (mem_sheetNames_setCell ..), Option.map_some, get?_content_setCell,
      if_pos ⟨rfl, rfl⟩]
  have hread : ∀ w : Cell, (some w).filter (· ≠ .empty) = if w = .empty then none else some w := by
    intro w
    by_cases hw : w = .empty <;> simp [Option.filter, hw]
  constructor
  · intro h w hw
    have heq := h.value
    rw [hvalue, hw, Option.some_or, hread, Option.some.injEq] at heq
    split_ifs at heq with hw hv hv
    · rw [hw, hv]
    · exact Option.some.inj heq
  · intro h
    refine ⟨?_, ?_, fun other => (d.frame_content_setCell name a v other).1,
      fun other => (d.frame_content_setCell name a v other).2, d.sheetNames_setCell name a v⟩
    · have hlast : (d.overruling? name a).or (some v) = some v := by
        cases hw : d.overruling? name a with
        | none => rfl
        | some w => rw [h w hw, Option.some_or]
      rw [hvalue, hlast, hread]
    · intro other b hother
      rw [get?_content_setCell, if_neg hother]

/-- A cell that is overruled can be set to anything without a difference. -/
theorem sheet?_setCell_of_overruling? (hw : d.overruling? name a = some w) (other : String) :
    (d.setCell name a v).sheet? other = d.sheet? other := by
  have hname : name ∈ d.sheetNames := by
    by_contra h
    rw [overruling?, listed_of_not_mem h] at hw
    cases hw
  have hcontent : (d.setCell name a v).content other = d.content other := by
    obtain ⟨hdimensions, hhidden⟩ := d.frame_content_setCell name a v other
    refine Sheet.eq_of_get? ?_ hdimensions hhidden fun b => ?_
    · rw [name_content, name_content]
    · rw [get?_content_setCell]
      split_ifs with h
      · obtain ⟨rfl, rfl⟩ := h
        rw [content, DocumentSheet.get?_toSheet, hw, DocumentSheet.lastValue?_of_overruling? hw,
          Option.some_or]
      · rfl
  rw [sheet?_eq, sheet?_eq, hcontent, sheetNames_setCell, if_pos hname]

/-- After any edits, a cell that was set reads back, and all else reads as before, unless another value
is listed behind the first listing of its address; in that case no sheet reads any different, whatever
was set. Such a listing can only come from the document that was opened, where it stands already. -/
theorem setCell_reads_back_unless_overruled (d : Document) (edits : List Edit) (name : String)
    (a : Address) (v : Cell) :
    (StoresCell (d.after edits) ((d.after edits).setCell name a v) name a v
        ↔ ∀ w, (d.after edits).overruling? name a = some w → w = v)
      ∧ (∀ w, (d.after edits).overruling? name a = some w →
        d.overruling? name a = some w
          ∧ ∀ other, ((d.after edits).setCell name a v).sheet? other = (d.after edits).sheet? other) :=
  ⟨storesCell_setCell_iff, fun _ hw => ⟨overruling?_after hw, sheet?_setCell_of_overruling? hw⟩⟩

/-- A sheet that lists a cell twice. -/
def twice : Document :=
  ⟨1, [⟨"S", [⟨⟨0, 0⟩, some (.text "a")⟩, ⟨⟨0, 0⟩, some (.text "b")⟩], none, false⟩]⟩

/-- A file may list a cell twice; a text that is set there is lost behind the second listing. -/
theorem not_storesCell_twice :
    parse? (Text.symbols twice.render) = some twice
      ∧ ((twice.setCell "S" ⟨0, 0⟩ (.text "c")).sheet? "S").map (·.cells.get? ⟨0, 0⟩)
        = some (some (.text "b"))
      ∧ ¬ StoresCell twice (twice.setCell "S" ⟨0, 0⟩ (.text "c")) "S" ⟨0, 0⟩ (.text "c") := by
  have hread : ((twice.setCell "S" ⟨0, 0⟩ (.text "c")).sheet? "S").map (·.cells.get? ⟨0, 0⟩)
      = some (some (.text "b")) := by
    decide +kernel
  refine ⟨parse?_render (by simp [ReadsBack, twice, Cell.ReadsBack]), hread, fun h => ?_⟩
  have hvalue := h.value
  rw [hread] at hvalue
  exact absurd hvalue (by decide)

end Document

end MasterData
