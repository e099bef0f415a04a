-- SUMMARY: White space around a text, which trimming takes away.
import Mathlib.Data.List.TakeWhile
import MasterData.Proofs.Text.Characters

/-! # White space around a text

A text is white space, what trimming leaves of it, and white space again. Trimming leaves the same of a
text with more white space around it. Main statements: `trim_append` and `exists_trim`.
-/

namespace MasterData.Text

/-! ## Characters -/

theorem trimLeft_append {before : List Char} (h : ∀ c ∈ before, isBlank c = true) (cs : List Char) :
    trimLeft (before ++ cs) = trimLeft cs :=
  List.dropWhile_append_of_pos h

theorem trimRight_append {after : List Char} (h : ∀ c ∈ after, isBlank c = true) (cs : List Char) :
    trimRight (cs ++ after) = trimRight cs := by
  have hafter : ∀ c ∈ after.reverse, isBlank c = true := fun c hc => h c (List.mem_reverse.1 hc)
  rw [trimRight, List.reverse_append, List.dropWhile_append_of_pos hafter, trimRight]

theorem trimLeft_eq_nil_iff {cs : List Char} : trimLeft cs = [] ↔ ∀ c ∈ cs, isBlank c = true :=
  List.dropWhile_eq_nil_iff

theorem trimRight_eq_nil_iff {cs : List Char} : trimRight cs = [] ↔ ∀ c ∈ cs, isBlank c = true := by
  rw [trimRight, List.reverse_eq_nil_iff, List.dropWhile_eq_nil_iff]
  simp only [List.mem_reverse]

/-- What trimming both ends leaves of a text with white space behind it. -/
theorem trimRight_trimLeft_append {after : List Char} (h : ∀ c ∈ after, isBlank c = true)
    (cs : List Char) : trimRight (trimLeft (cs ++ after)) = trimRight (trimLeft cs) := by
  by_cases hblank : ∀ c ∈ cs, isBlank c = true
  · have hall : ∀ c ∈ cs ++ after, isBlank c = true := List.forall_mem_append.2 ⟨hblank, h⟩
    rw [trimLeft_eq_nil_iff.2 hall, trimLeft_eq_nil_iff.2 hblank]
  · have hleft : trimLeft (cs ++ after) = trimLeft cs ++ after := by
      have hne : (cs.dropWhile isBlank).isEmpty = false :=
        List.isEmpty_eq_false_iff.2 (mt trimLeft_eq_nil_iff.1 hblank)
      rw [trimLeft, List.dropWhile_append, hne]
      rfl
    rw [hleft, trimRight_append h]

theorem exists_trimLeft (cs : List Char) :
    ∃ before, (∀ c ∈ before, isBlank c = true) ∧ cs = before ++ trimLeft cs :=
  ⟨cs.takeWhile isBlank, fun _ hc => List.mem_takeWhile_imp hc, List.takeWhile_append_dropWhile.symm⟩

theorem exists_trimRight (cs : List Char) :
    ∃ after, (∀ c ∈ after, isBlank c = true) ∧ cs = trimRight cs ++ after := by
  obtain ⟨before, hblank, hcs⟩ := exists_trimLeft cs.reverse
  refine ⟨before.reverse, fun c hc => hblank c (List.mem_reverse.1 hc), ?_⟩
  have hreverse := congrArg List.reverse hcs
  rwa [List.reverse_reverse, List.reverse_append] at hreverse

/-! ## Texts -/

theorem toList_trim (s : String) : (trim s).toList = trimRight (trimLeft s.toList) :=
  String.toList_ofList

/-- White space around a text does not count. -/
theorem trim_append {before after : String} (hbefore : isBlankText before = true)
    (hafter : isBlankText after = true) (s : String) : trim (before ++ s ++ after) = trim s := by
  rw [isBlankText, List.all_eq_true] at hbefore hafter
  rw [trim, String.toList_append, trimRight_trimLeft_append hafter, String.toList_append,
    trimLeft_append hbefore, trim]

/-- A text is what trimming leaves of it between white space. -/
theorem exists_trim (s : String) :
    ∃ before after, isBlankText before = true ∧ isBlankText after = true
      ∧ s = before ++ trim s ++ after := by
  obtain ⟨before, hbefore, hleft⟩ := exists_trimLeft s.toList
  obtain ⟨after, hafter, hright⟩ := exists_trimRight (trimLeft s.toList)
  refine ⟨String.ofList before, String.ofList after, ?_, ?_, String.toList_inj.1 ?_⟩
  · simpa [isBlankText] using hbefore
  · simpa [isBlankText] using hafter
  · rw [String.toList_append, String.toList_append, toList_trim, String.toList_ofList,
      String.toList_ofList, List.append_assoc, ← hright, ← hleft]

theorem trim_eq_empty_iff {s : String} : trim s = "" ↔ isBlankText s = true := by
  rw [← String.toList_eq_nil_iff, toList_trim, isBlankText, List.all_eq_true]
  constructor
  · intro hnil
    obtain ⟨before, hbefore, hleft⟩ := exists_trimLeft s.toList
    rw [hleft, List.forall_mem_append]
    exact ⟨hbefore, trimRight_eq_nil_iff.1 hnil⟩
  · intro hblank
    rw [trimLeft_eq_nil_iff.2 hblank]
    rfl

end MasterData.Text
