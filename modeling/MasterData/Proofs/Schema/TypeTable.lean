-- SUMMARY: Which names of a type table stand for what they were added for.
import Mathlib.Tactic.SplitIfs
import MasterData.Proofs.Text.Characters
import MasterData.Schema.TypeTable

/-! # Declared types

A declared type is read without the white space around it. If it has the form of an array it is one,
or opaque. Otherwise the spellings of texts and truth values come first, then the primitives, and only
then the names that a project adds. Main statements: `classify_eq_primitive_iff` and
`classify_eq_enumeration_iff`, for any table and any declared type.
-/

namespace MasterData.TypeTable

/-- A spelling of the texts or of the truth values, the built-in types that are no primitives. -/
def isTextOrTruth (name : String) : Bool :=
  ["string", "String", "str"].contains name || ["bool", "boolean"].contains name

/-- A name that has the form of an array. -/
def isArrayForm (name : String) : Bool :=
  (openArrayElement? name.toList).isSome || (fixedArrayParts? name.toList).isSome

/-- The primitive that a name stands for: a built-in one, or else that of an alias. -/
def primitive? (t : TypeTable) (name : String) : Option Primitive :=
  (Primitive.ofName? name).or (t.aliases.get? name)

/-! ## Arrays -/

theorem arrayOf_cases (t : TypeTable) (declared element : String) (length : Option Nat) :
    (∃ kind, t.arrayOf declared element length = .array kind length)
      ∨ t.arrayOf declared element length = .opaqueType declared := by
  unfold arrayOf
  simp only
  split
  · exact .inl ⟨_, rfl⟩
  · exact .inr rfl

/-- What has the form of an array is an array or opaque. -/
theorem classify_of_isArrayForm (t : TypeTable) {declared : String}
    (h : isArrayForm (Text.trim declared) = true) :
    (∃ kind length, t.classify declared = .array kind length)
      ∨ t.classify declared = .opaqueType (Text.trim declared) := by
  unfold classify
  simp only
  split
  · obtain ⟨kind, heq⟩ | heq := t.arrayOf_cases (Text.trim declared) _ none
    · exact .inl ⟨kind, none, heq⟩
    · exact .inr heq
  · rename_i hopen
    split
    · split
      · obtain ⟨kind, heq⟩ | heq := t.arrayOf_cases (Text.trim declared) _ (some _)
        · exact .inl ⟨kind, _, heq⟩
        · exact .inr heq
      · exact .inr rfl
    · rename_i hfixed
      simp [isArrayForm, hopen, hfixed] at h

theorem classify_of_not_isArrayForm (t : TypeTable) {declared : String}
    (h : isArrayForm (Text.trim declared) = false) :
    t.classify declared = t.classifyScalar (Text.trim declared) := by
  simp only [isArrayForm, Bool.or_eq_false_iff, Option.isSome_eq_false_iff, Option.isNone_iff_eq_none]
    at h
  rw [classify, h.1, h.2]

/-- Only names with brackets have the form of an array. -/
theorem bracket_mem_of_isArrayForm {name : String} (h : isArrayForm name = true) :
    ']' ∈ name.toList ∨ '[' ∈ name.toList := by
  simp only [isArrayForm, Bool.or_eq_true] at h
  rcases h with hopen | hfixed
  · left
    unfold openArrayElement? at hopen
    split at hopen
    · rename_i heq
      rw [← List.mem_reverse, heq]
      exact List.mem_cons_self ..
    · cases hopen
  · right
    unfold fixedArrayParts? at hfixed
    split at hfixed
    · rename_i heq
      rw [heq]
      exact List.mem_cons_self ..
    · cases hfixed

/-! ## Scalars -/

/-- The spellings of texts and truth values mean these, whatever a project adds. -/
theorem classifyScalar_of_isTextOrTruth (t : TypeTable) {name : String}
    (h : isTextOrTruth name = true) :
    t.classifyScalar name = .string ∨ t.classifyScalar name = .boolean := by
  unfold isTextOrTruth at h
  unfold classifyScalar
  split_ifs with htext htruth
  · exact .inl rfl
  · exact .inr rfl
  · rw [Bool.or_eq_true] at h
    exact absurd h (not_or.2 ⟨htext, htruth⟩)

/-- Any other name is looked for among the primitives and then among the enumerations. -/
theorem classifyScalar_of_not_isTextOrTruth (t : TypeTable) {name : String}
    (h : isTextOrTruth name = false) :
    t.classifyScalar name =
      match t.primitive? name, t.enums.get? name with
      | some p, _ => .primitive p
      | none, some members => .enumeration name members
      | none, none => .opaqueType name := by
  simp only [isTextOrTruth, Bool.or_eq_false_iff] at h
  rw [classifyScalar, if_neg (by simp only [h.1]; decide), if_neg (by simp only [h.2]; decide),
    primitive?]
  cases Primitive.ofName? name with
  | some p => rfl
  | none =>
    cases t.aliases.get? name with
    | some p => rfl
    | none => cases t.enums.get? name <;> rfl

theorem classifyScalar_eq_primitive_iff (t : TypeTable) (name : String) (p : Primitive) :
    t.classifyScalar name = .primitive p
      ↔ isTextOrTruth name = false ∧ t.primitive? name = some p := by
  cases h : isTextOrTruth name with
  | true => obtain heq | heq := t.classifyScalar_of_isTextOrTruth h <;> simp [heq]
  | false =>
    rw [t.classifyScalar_of_not_isTextOrTruth h]
    cases t.primitive? name with
    | some q => simp
    | none => cases t.enums.get? name <;> simp

theorem classifyScalar_eq_enumeration_iff (t : TypeTable) (declared name : String)
    (members : List String) :
    t.classifyScalar declared = .enumeration name members
      ↔ isTextOrTruth declared = false ∧ t.primitive? declared = none
        ∧ declared = name ∧ t.enums.get? declared = some members := by
  cases h : isTextOrTruth declared with
  | true => obtain heq | heq := t.classifyScalar_of_isTextOrTruth h <;> simp [heq]
  | false =>
    rw [t.classifyScalar_of_not_isTextOrTruth h]
    cases t.primitive? declared with
    | some q => simp
    | none => cases t.enums.get? declared <;> simp

/-! ## Declared types -/

/-- The declared types that stand for a primitive. -/
theorem classify_eq_primitive_iff (t : TypeTable) (declared : String) (p : Primitive) :
    t.classify declared = .primitive p
      ↔ isArrayForm (Text.trim declared) = false
        ∧ isTextOrTruth (Text.trim declared) = false
        ∧ t.primitive? (Text.trim declared) = some p := by
  cases hform : isArrayForm (Text.trim declared) with
  | true =>
    obtain ⟨kind, length, heq⟩ | heq := t.classify_of_isArrayForm hform <;> simp [heq]
  | false =>
    rw [t.classify_of_not_isArrayForm hform, classifyScalar_eq_primitive_iff]
    simp

/-- The declared types that stand for an enumeration. -/
theorem classify_eq_enumeration_iff (t : TypeTable) (declared name : String)
    (members : List String) :
    t.classify declared = .enumeration name members
      ↔ isArrayForm (Text.trim declared) = false
        ∧ isTextOrTruth (Text.trim declared) = false
        ∧ t.primitive? (Text.trim declared) = none
        ∧ Text.trim declared = name ∧ t.enums.get? (Text.trim declared) = some members := by
  cases hform : isArrayForm (Text.trim declared) with
  | true =>
    obtain ⟨kind, length, heq⟩ | heq := t.classify_of_isArrayForm hform <;> simp [heq]
  | false =>
    rw [t.classify_of_not_isArrayForm hform, classifyScalar_eq_enumeration_iff]
    simp

end MasterData.TypeTable
