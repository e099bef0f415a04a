-- SUMMARY: The sheets of a document by name, and what an edit changes of them.
import Mathlib.Data.List.Nodup
import Mathlib.Tactic.SplitIfs
import MasterData.Workbook.Document

/-! # Sheets by name

All access to a document by name means the first sheet of that name. An edit changes that sheet alone,
or adds it at the end.
-/

namespace MasterData

theorem DocumentSheet.name_toSheet (s : DocumentSheet) : s.toSheet.name = s.name := by
  refine List.foldlRecOn (motive := fun (sheet : Sheet) => sheet.name = s.name) s.cells _ rfl ?_
  intro sheet hname c _
  split <;> exact hname

namespace Document

variable {d : Document} {name : String}

/-! ## Reading -/

/-- The first sheet with a name as the document lists it, or an empty one. -/
def listed (d : Document) (name : String) : DocumentSheet :=
  (d.sheets.find? (·.name = name)).getD (.named name)

/-- The first sheet with a name as it is read, or an empty one. -/
def content (d : Document) (name : String) : Sheet :=
  (d.listed name).toSheet

theorem name_listed (d : Document) (name : String) : (d.listed name).name = name := by
  rw [listed]
  cases h : d.sheets.find? (·.name = name) with
  | none => rfl
  | some s => simpa using List.find?_some h

theorem name_content (d : Document) (name : String) : (d.content name).name = name := by
  rw [content, DocumentSheet.name_toSheet, name_listed]

theorem find?_eq_none_iff : d.sheets.find? (·.name = name) = none ↔ name ∉ d.sheetNames := by
  simp [sheetNames, List.find?_eq_none]

theorem listed_of_not_mem (h : name ∉ d.sheetNames) : d.listed name = .named name := by
  rw [listed, find?_eq_none_iff.2 h, Option.getD_none]

theorem find?_eq_some_listed (h : name ∈ d.sheetNames) :
    d.sheets.find? (·.name = name) = some (d.listed name) := by
  rw [listed]
  cases hs : d.sheets.find? (·.name = name) with
  | none => exact absurd h (find?_eq_none_iff.1 hs)
  | some s => rfl

theorem sheet?_eq (d : Document) (name : String) :
    d.sheet? name = if name ∈ d.sheetNames then some (d.content name) else none := by
  split_ifs with h
  · rw [sheet?, find?_eq_some_listed h, Option.map_some, content]
  · rw [sheet?, find?_eq_none_iff.2 h, Option.map_none]

theorem name_of_sheet? {sheet : Sheet} (h : d.sheet? name = some sheet) : sheet.name = name := by
  rw [sheet?_eq] at h
  split_ifs at h
  rw [← Option.some.inj h, name_content]

/-- Where no name is repeated, a name stands for its own sheet. -/
theorem sheet?_of_nodup (hnodup : d.sheetNames.Nodup) {s : DocumentSheet} (hs : s ∈ d.sheets) :
    d.sheet? s.name = some s.toSheet := by
  have hmem : s.name ∈ d.sheetNames := List.mem_map_of_mem hs
  have hlisted : d.listed s.name ∈ d.sheets := List.mem_of_find?_eq_some (find?_eq_some_listed hmem)
  rw [sheet?_eq, if_pos hmem, content, List.inj_on_of_nodup_map hnodup hlisted hs (name_listed ..)]

/-! ## Editing -/

section EditSheet

variable {change : DocumentSheet → DocumentSheet} (hchange : ∀ s, (change s).name = s.name)

include hchange

theorem find?_editSheet (name other : String) (sheets : List DocumentSheet) :
    (editSheet name change sheets).find? (·.name = other)
      = if other = name then
          some (change ((sheets.find? (·.name = name)).getD (.named name)))
        else sheets.find? (·.name = other) := by
  induction sheets with
  | nil =>
    have hname : (change (.named name)).name = name := hchange _
    by_cases hother : other = name
    · simp [editSheet, hname, hother]
    · simp [editSheet, hname, hother, Ne.symm hother]
  | cons s rest ih =>
    by_cases hs : s.name = name
    · by_cases hother : other = name
      · simp [editSheet, hs, hother, hchange]
      · simp [editSheet, hs, hother, hchange, Ne.symm hother]
    · by_cases hother : s.name = other
      · have hne : other ≠ name := hother ▸ hs
        simp [editSheet, hother, hne]
      · simp [editSheet, hs, hother, ih]

theorem names_editSheet (name : String) (sheets : List DocumentSheet) :
    (editSheet name change sheets).map (·.name)
      = if name ∈ sheets.map (·.name) then sheets.map (·.name)
        else sheets.map (·.name) ++ [name] := by
  induction sheets with
  | nil =>
    have hname : (change (.named name)).name = name := hchange _
    simp [editSheet, hname]
  | cons s rest ih =>
    by_cases hs : s.name = name
    · simp [editSheet, hs, hchange]
    · rw [editSheet, if_neg hs, List.map_cons, ih]
      simp only [List.map_cons, List.mem_cons, Ne.symm hs, false_or]
      split_ifs <;> rfl

theorem listed_editSheet (d : Document) (name other : String) :
    listed { d with sheets := editSheet name change d.sheets } other
      = if other = name then change (d.listed name) else d.listed other := by
  simp only [listed, find?_editSheet hchange]
  split_ifs <;> rfl

end EditSheet

theorem listed_addSheet (d : Document) (name other : String) :
    (d.addSheet name).listed other = d.listed other := by
  refine (listed_editSheet ?_ d name other).trans ?_
  · exact fun _ => rfl
  · split_ifs with hname
    · rw [hname, id]
    · rfl

theorem listed_setCell (d : Document) (name : String) (a : Address) (v : Cell) (other : String) :
    (d.setCell name a v).listed other
      = if other = name then
          { d.listed name with cells := DocumentSheet.setIn a v (d.listed name).cells }
        else d.listed other := by
  refine listed_editSheet ?_ d name other
  exact fun _ => rfl

theorem sheetNames_setCell (d : Document) (name : String) (a : Address) (v : Cell) :
    (d.setCell name a v).sheetNames
      = if name ∈ d.sheetNames then d.sheetNames else d.sheetNames ++ [name] := by
  refine names_editSheet ?_ name d.sheets
  exact fun _ => rfl

/-- The cells of a sheet that was put in are listed by address, each once. -/
theorem cells_listed_putSheet (d : Document) (sheet : Sheet) (other : String) :
    ((d.putSheet sheet).listed other).cells
      = if other = sheet.name then sheet.cells.toList.map fun p => ⟨p.1, some p.2⟩
        else (d.listed other).cells := by
  refine (congrArg DocumentSheet.cells (listed_editSheet ?_ d sheet.name other)).trans ?_
  · exact fun _ => rfl
  · split_ifs <;> rfl

end Document

end MasterData
