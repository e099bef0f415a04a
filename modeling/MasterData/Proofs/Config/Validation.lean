-- SUMMARY: What a configuration without issues grants about its enumerations and folders.
import Mathlib.Data.List.Nodup
import MasterData.Config.Validation
import MasterData.Proofs.Path
import MasterData.Proofs.SortedMap
import MasterData.Proofs.Text.Characters

/-! # Valid configurations

In a configuration without issues every enumeration has a plain name and a member, different
enumerations generate different types, none of them reserved, the folder of generated source has a
path, and the path of the runtime is made of words and colons.
-/

namespace MasterData

namespace Config

theorem of_enumIssues_eq_nil {earlier : List String} {name : String} {members : List String}
    (h : enumIssues earlier name members = []) :
    Naming.isIdentifier name = true
      ∧ Naming.isReservedType (Naming.typeName name) = false
      ∧ (∀ other ∈ earlier, Naming.typeName other ≠ Naming.typeName name)
      ∧ members ≠ [] := by
  simp only [enumIssues, List.append_eq_nil_iff] at h
  obtain ⟨⟨⟨⟨hidentifier, hreserved⟩, hclash⟩, hempty⟩, -⟩ := h
  refine ⟨by simpa using hidentifier, by simpa using hreserved, fun other hother => ?_,
    by simpa using hempty⟩
  split at hclash
  · rename_i hnone
    simpa using List.find?_eq_none.1 hnone other hother
  · cases hclash

/-- Without issues, each enumeration has none behind some names, the earlier ones among them. -/
theorem exists_enumIssues_eq_nil {earlier : List String} {enums : List (String × List String)}
    (h : enumsIssues earlier enums = []) :
    ∀ e ∈ enums, ∃ before, earlier ⊆ before ∧ enumIssues before e.1 e.2 = [] := by
  induction enums generalizing earlier with
  | nil => simp
  | cons e rest ih =>
    obtain ⟨name, members⟩ := e
    obtain ⟨hfirst, hrest⟩ := List.append_eq_nil_iff.1 h
    refine List.forall_mem_cons.2 ⟨⟨earlier, List.Subset.refl earlier, hfirst⟩, fun e he => ?_⟩
    obtain ⟨before, hbefore, hissues⟩ := ih hrest e he
    exact ⟨before, List.subset_of_cons_subset hbefore, hissues⟩

theorem nodup_of_enumsIssues_eq_nil {earlier : List String} {enums : List (String × List String)}
    (h : enumsIssues earlier enums = []) : (enums.map fun e => Naming.typeName e.1).Nodup := by
  induction enums generalizing earlier with
  | nil => simp
  | cons e rest ih =>
    obtain ⟨name, members⟩ := e
    have hrest := (List.append_eq_nil_iff.1 h).2
    rw [List.map_cons, List.nodup_cons]
    refine ⟨fun hmem => ?_, ih hrest⟩
    -- The rest was checked with this name among the earlier ones, which sets its types apart.
    obtain ⟨e, he, heq⟩ := List.mem_map.1 hmem
    obtain ⟨before, hbefore, hissues⟩ := exists_enumIssues_eq_nil hrest e he
    obtain ⟨-, -, hapart, -⟩ := of_enumIssues_eq_nil hissues
    exact hapart name (hbefore (List.mem_cons_self ..)) heq.symm

variable {c : Config}

theorem mem_enums_of_get? {name : String} {members : List String}
    (h : c.typeTable.enums.get? name = some members) : (name, members) ∈ c.types.enums.toList := by
  obtain ⟨name', heq, hmem⟩ := SortedMap.exists_of_get? h
  rwa [Std.LawfulEqCmp.eq_of_compare heq]

theorem IsValid.enumsIssues_eq_nil (h : c.IsValid) : enumsIssues [] c.types.enums.toList = [] := by
  unfold IsValid issues at h
  exact (List.append_eq_nil_iff.1 h).2

/-- An enumeration has a plain name, a type that is not reserved and members. -/
theorem IsValid.of_mem_enums (h : c.IsValid) {name : String} {members : List String}
    (hmem : (name, members) ∈ c.types.enums.toList) :
    Naming.isIdentifier name = true
      ∧ Naming.isReservedType (Naming.typeName name) = false
      ∧ members ≠ [] := by
  obtain ⟨before, -, hissues⟩ := exists_enumIssues_eq_nil h.enumsIssues_eq_nil _ hmem
  obtain ⟨hidentifier, hreserved, -, hmembers⟩ := of_enumIssues_eq_nil hissues
  exact ⟨hidentifier, hreserved, hmembers⟩

theorem IsValid.members_ne_nil (h : c.IsValid) {name : String} {members : List String}
    (hget : c.typeTable.enums.get? name = some members) : members ≠ [] :=
  (h.of_mem_enums (mem_enums_of_get? hget)).2.2

/-- Enumerations that generate one type are one enumeration. -/
theorem IsValid.enum_eq (h : c.IsValid) {name name' : String} {members members' : List String}
    (hget : c.typeTable.enums.get? name = some members)
    (hget' : c.typeTable.enums.get? name' = some members')
    (htype : Naming.typeName name = Naming.typeName name') : name = name' ∧ members = members' := by
  have hnodup := nodup_of_enumsIssues_eq_nil h.enumsIssues_eq_nil
  have heq := List.inj_on_of_nodup_map hnodup (mem_enums_of_get? hget) (mem_enums_of_get? hget') htype
  exact Prod.mk.inj heq

theorem IsValid.generatedFolder_ne_empty (h : c.IsValid) : c.generatedFolder ≠ "" := by
  refine Path.join_ne_empty _ fun hempty => ?_
  have hmem : ConfigIssue.emptyPath "generated_source" ∈ c.pathIssues :=
    List.mem_filterMap.2 ⟨("generated_source", c.generatedSource), by simp, by simp [hempty]⟩
  have hnil : c.pathIssues = [] := by
    unfold IsValid issues at h
    simp only [List.append_eq_nil_iff] at h
    exact h.1.1.1
  rw [hnil] at hmem
  cases hmem

/-! ## The runtime -/

theorem isWordPart_of_startsSegment {ch : Char} (h : startsSegment ch = true) :
    Text.isWordPart ch = true := by
  simp only [startsSegment, Bool.or_eq_true, decide_eq_true_eq] at h
  rcases h with h | rfl
  · simp [Text.isWordPart, Char.isAlphanum, h]
  · rfl

theorem forall_mem_of_isRuntimePathFrom {fresh : Bool} {cs : List Char}
    (h : isRuntimePathFrom fresh cs = true) : ∀ ch ∈ cs, ch = ':' ∨ Text.isWordPart ch = true := by
  induction fresh, cs using isRuntimePathFrom.induct with
  | case1 fresh => simp
  | case2 fresh cs ih =>
    rw [isRuntimePathFrom, Bool.and_eq_true] at h
    exact List.forall_mem_cons.2 ⟨.inl rfl, List.forall_mem_cons.2 ⟨.inl rfl, ih h.2⟩⟩
  | case3 fresh ch cs hcolons ih =>
    rw [isRuntimePathFrom, Bool.and_eq_true, Bool.or_eq_true, Bool.and_eq_true] at h
    · refine List.forall_mem_cons.2 ⟨.inr ?_, ih h.2⟩
      rcases h.1 with hstart | hdigit
      · exact isWordPart_of_startsSegment hstart
      · simp [Text.isWordPart, Char.isAlphanum, hdigit.2]
    · exact hcolons

theorem IsValid.forall_mem_runtimeCrate (h : c.IsValid) :
    ∀ ch ∈ c.runtimeCrate.toList, ch = ':' ∨ Text.isWordPart ch = true := by
  unfold IsValid issues at h
  simp only [List.append_eq_nil_iff] at h
  have hpath : isRuntimePath c.runtimeCrate = true := by
    by_contra hno
    simp [runtimeIssues, hno] at h
  exact forall_mem_of_isRuntimePathFrom hpath

end Config

end MasterData
