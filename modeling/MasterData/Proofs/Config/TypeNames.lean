-- SUMMARY: Which type names of a valid configuration stand for what they were configured for.
import MasterData.Proofs.Config.Validation
import MasterData.Proofs.Schema.TypeTable

/-! # Configured type names

A valid configuration has no alias and no enumeration that a project could mean in two ways: an alias
has no name of a primitive, and no name is both. The check knows of primitives only. A name that spells
texts or truth values stands for these, an enumeration with the name of a primitive stands for the
primitive, and an alias with brackets is read as an array. Every other name takes effect.
Main statement: `Config.type_names_take_effect_unless_built_in`.
-/

namespace MasterData

/-! ## Identifiers -/

namespace Naming

theorem isWordChar_of_isIdentifier {name : String} (h : isIdentifier name = true) :
    ∀ c ∈ name.toList, isWordChar c = true := by
  unfold isIdentifier at h
  split at h
  · cases h
  · rename_i c cs heq
    simp only [Bool.and_eq_true, Bool.or_eq_true, decide_eq_true_eq, List.all_eq_true] at h
    obtain ⟨⟨⟨hfirst, hrest⟩, -⟩, -⟩ := h
    rw [heq, List.forall_mem_cons]
    refine ⟨?_, hrest⟩
    rcases hfirst with rfl | halphabetic
    · rfl
    · simp [isWordChar, Text.isAlphanumeric, halphabetic]

theorem not_isBlank_of_isWordChar {c : Char} (h : isWordChar c = true) : Text.isBlank c = false := by
  rw [isWordChar, Bool.or_eq_true, decide_eq_true_eq] at h
  rcases h with rfl | h
  · decide
  · exact Text.not_isBlank_of_isAlphanumeric h

theorem trim_of_isIdentifier {name : String} (h : isIdentifier name = true) :
    Text.trim name = name :=
  Text.trim_eq_self_of_forall fun c hc =>
    not_isBlank_of_isWordChar (isWordChar_of_isIdentifier h c hc)

theorem not_isArrayForm_of_isIdentifier {name : String} (h : isIdentifier name = true) :
    TypeTable.isArrayForm name = false := by
  refine Bool.eq_false_iff.2 fun hform => ?_
  rcases TypeTable.bracket_mem_of_isArrayForm hform with hmem | hmem
  · exact absurd (isWordChar_of_isIdentifier h _ hmem) (by decide)
  · exact absurd (isWordChar_of_isIdentifier h _ hmem) (by decide)

end Naming

namespace Config

/-! ## What the check grants -/

variable {c : Config} {name : String}

theorem IsValid.aliasIssues_eq_nil (h : c.IsValid) {target : String}
    (hmem : (name, target) ∈ c.types.aliases.toList) : aliasIssues c.types name target = [] := by
  unfold IsValid issues at h
  simp only [List.append_eq_nil_iff, List.flatMap_eq_nil_iff] at h
  exact h.1.2 _ hmem

/-- An alias is neither a primitive nor an enumeration, and its target is a primitive. -/
theorem IsValid.of_mem_aliases (h : c.IsValid) {target : String}
    (hmem : (name, target) ∈ c.types.aliases.toList) :
    Primitive.ofName? name = none ∧ (∃ p, Primitive.ofName? target = some p)
      ∧ c.types.enums.get? name = none := by
  have hissues := h.aliasIssues_eq_nil hmem
  simp only [aliasIssues, List.append_eq_nil_iff] at hissues
  obtain ⟨⟨hname, htarget⟩, henum⟩ := hissues
  refine ⟨?_, ?_, ?_⟩
  · simpa using hname
  · exact Option.ne_none_iff_exists'.1 (by simpa using htarget)
  · simpa using henum

/-! ## What the table holds -/

theorem mem_aliases_of_get? {p : Primitive} (h : c.typeTable.aliases.get? name = some p) :
    ∃ target, (name, target) ∈ c.types.aliases.toList ∧ Primitive.ofName? target = some p := by
  obtain ⟨⟨name', target⟩, hmem, hmap⟩ := List.mem_filterMap.1 (SortedMap.mem_of_get?_ofList h)
  obtain ⟨q, hq, heq⟩ := Option.map_eq_some_iff.1 hmap
  cases heq
  exact ⟨target, hmem, hq⟩

theorem get?_aliases {target : String} {p : Primitive}
    (hmem : (name, target) ∈ c.types.aliases.toList) (htarget : Primitive.ofName? target = some p) :
    c.typeTable.aliases.get? name = some p := by
  refine SortedMap.get?_ofList_of_mem ?_ fun q hq => ?_
  · exact List.mem_filterMap.2 ⟨(name, target), hmem, by simp [htarget]⟩
  · -- The configuration has one target only for the name.
    obtain ⟨⟨name', other⟩, hother, hmap⟩ := List.mem_filterMap.1 hq
    obtain ⟨q', hq', heq⟩ := Option.map_eq_some_iff.1 hmap
    cases heq
    rw [← SortedMap.get?_eq_some_iff] at hmem hother
    have hsame : other = target := Option.some.inj (hother.symm.trans hmem)
    rw [hsame, htarget] at hq'
    exact (Option.some.inj hq').symm

/-- The name of an enumeration stands for no alias. -/
theorem IsValid.primitive?_of_enum (h : c.IsValid) {members : List String}
    (hmem : (name, members) ∈ c.types.enums.toList) :
    c.typeTable.primitive? name = Primitive.ofName? name := by
  have hnone : c.typeTable.aliases.get? name = none := by
    refine Option.eq_none_iff_forall_ne_some.2 fun p hp => ?_
    obtain ⟨target, halias, -⟩ := mem_aliases_of_get? hp
    have hget := SortedMap.get?_eq_some_iff.2 hmem
    rw [(h.of_mem_aliases halias).2.2] at hget
    cases hget
  rw [TypeTable.primitive?, hnone, Option.or_none]

/-! ## Effect -/

/-- Every configured name stands for what it was configured for: an alias for the primitive of its
target, an enumeration for itself. -/
def TypeNamesTakeEffect (c : Config) : Prop :=
  (∀ a ∈ c.types.aliases.toList,
      (Primitive.ofName? a.2).map .primitive = some (c.typeTable.classify a.1))
    ∧ ∀ e ∈ c.types.enums.toList, c.typeTable.classify e.1 = .enumeration e.1 e.2

instance : Decidable c.TypeNamesTakeEffect := by
  unfold TypeNamesTakeEffect
  infer_instance

/-- In a valid configuration an alias stands for its target unless it has the form of an array, spells
texts or truth values, or has white space at its ends and without it names another primitive or none.
An enumeration stands for itself unless its name spells texts, truth values or a primitive. -/
theorem type_names_take_effect_unless_built_in (h : c.IsValid) :
    (∀ name target, (name, target) ∈ c.types.aliases.toList →
      ∃ p, Primitive.ofName? target = some p
        ∧ (c.typeTable.classify name = .primitive p
          ↔ TypeTable.isArrayForm (Text.trim name) = false
            ∧ TypeTable.isTextOrTruth (Text.trim name) = false
            ∧ (Text.trim name = name ∨ c.typeTable.primitive? (Text.trim name) = some p)))
      ∧ ∀ name members, (name, members) ∈ c.types.enums.toList →
        (c.typeTable.classify name = .enumeration name members
          ↔ TypeTable.isTextOrTruth name = false ∧ Primitive.ofName? name = none) := by
  constructor
  · intro name target hmem
    obtain ⟨hbuiltin, ⟨p, hp⟩, -⟩ := h.of_mem_aliases hmem
    refine ⟨p, hp, ?_⟩
    rw [TypeTable.classify_eq_primitive_iff]
    have hprimitive : Text.trim name = name → c.typeTable.primitive? (Text.trim name) = some p := by
      intro htrim
      rw [htrim, TypeTable.primitive?, hbuiltin, Option.none_or, get?_aliases hmem hp]
    rw [or_iff_right_of_imp hprimitive]
  · intro name members hmem
    obtain ⟨hidentifier, -⟩ := h.of_mem_enums hmem
    rw [TypeTable.classify_eq_enumeration_iff, Naming.trim_of_isIdentifier hidentifier,
      h.primitive?_of_enum hmem]
    simp [Naming.not_isArrayForm_of_isIdentifier hidentifier,
      show c.typeTable.enums.get? name = some members from SortedMap.get?_eq_some_iff.2 hmem]

/-- A configuration with type names. -/
def ofTypeNames (types : TypeNames) : Config where
  workbooks := "data"
  generatedSource := "src"
  assets := "assets"
  runtimeCrate := "runtime"
  types := types
  baseDir := ""

/-- An alias and an enumeration with names of their own. -/
def ownNames : TypeNames :=
  ⟨.ofList [("Int32", "int")], .ofList [("Element", ["Fire", "Water"])]⟩

theorem type_names_take_effect_ownNames :
    (ofTypeNames ownNames).IsValid ∧ (ofTypeNames ownNames).TypeNamesTakeEffect := by
  have hvalid : (ofTypeNames ownNames).IsValid := by decide
  obtain ⟨haliases, henums⟩ := type_names_take_effect_unless_built_in hvalid
  refine ⟨hvalid, List.forall_mem_singleton.2 ?_, List.forall_mem_singleton.2 ?_⟩
  · obtain ⟨p, hp, heffect⟩ := haliases "Int32" "int" (List.mem_singleton_self _)
    have htrim : Text.trim "Int32" = "Int32" := by decide
    rw [hp, heffect.2 ⟨by decide, by decide, .inl htrim⟩, Option.map_some]
  · exact (henums "Element" _ (List.mem_singleton_self _)).2 (by decide)

/-- An alias with a spelling of texts and an enumeration with one of truth values. -/
def spelledNames : TypeNames :=
  ⟨.ofList [("string", "int")], .ofList [("bool", ["Off", "On"])]⟩

/-- The check lets both pass, and neither takes effect. -/
theorem not_type_names_take_effect_spelledNames :
    (ofTypeNames spelledNames).IsValid
      ∧ (ofTypeNames spelledNames).typeTable.classify "string" = .string
      ∧ (ofTypeNames spelledNames).typeTable.classify "bool" = .boolean
      ∧ ¬ (ofTypeNames spelledNames).TypeNamesTakeEffect := by
  decide

end Config

end MasterData
