-- SUMMARY: Which members of enumerations the check of a configuration refuses.
import MasterData.Proofs.Config.TypeNames

/-! # Members of enumerations

The check goes through the members of an enumeration in order. It has an issue of a member exactly if the
member is no identifier or generates the variant of one before it, whether or not that one was refused
itself. So the members of a valid configuration are identifiers, and their variants differ.
Main statement: `Config.exists_member_issue_iff`.
-/

namespace MasterData

/-- The enumeration and the index of the member that an issue is about. -/
def ConfigIssue.member? : ConfigIssue → Option (String × Nat)
  | memberNotAnIdentifier enum index _ => some (enum, index)
  | memberRepeated enum index _ => some (enum, index)
  | memberClash enum index _ _ _ => some (enum, index)
  | _ => none

/-- The path of an issue of a member is that of the member. -/
theorem ConfigIssue.path_of_member? {issue : ConfigIssue} {enum : String} {index : Nat}
    (h : issue.member? = some (enum, index)) : issue.path = memberPath enum index := by
  cases issue with
  | memberNotAnIdentifier | memberRepeated | memberClash =>
    obtain ⟨rfl, rfl⟩ := Prod.mk.inj (Option.some.inj h)
    rfl
  | _ => cases h

namespace Config

/-- A member that is no identifier, or that generates the variant of an earlier one. -/
def IsRefused (earlier : List String) (member : String) : Prop :=
  Naming.isIdentifier member = false
    ∨ ∃ other ∈ earlier, Naming.typeName other = Naming.typeName member

section Issues

/-- Issues that are of no member do not count. -/
theorem exists_member_append_iff {others issues : List ConfigIssue} {place : String × Nat}
    (h : ∀ issue ∈ others, issue.member? ≠ some place) :
    (∃ issue ∈ others ++ issues, issue.member? = some place)
      ↔ ∃ issue ∈ issues, issue.member? = some place := by
  simp only [List.mem_append, or_and_right, exists_or]
  refine or_iff_right ?_
  rintro ⟨issue, hmem, hissue⟩
  exact h issue hmem hissue

variable {enum enum' member : String} {earlier members : List String} {index i : Nat}

theorem exists_mem_memberIssues_iff :
    (∃ issue ∈ memberIssues enum earlier index member, issue.member? = some (enum', i))
      ↔ (enum, index) = (enum', i) ∧ IsRefused earlier member := by
  have hspelled : (∃ issue ∈ (if Naming.isIdentifier member then []
        else [ConfigIssue.memberNotAnIdentifier enum index member]),
        issue.member? = some (enum', i))
      ↔ (enum, index) = (enum', i) ∧ Naming.isIdentifier member = false := by
    cases Naming.isIdentifier member with
    | true => simp
    | false => simp [ConfigIssue.member?]
  unfold memberIssues
  simp only [List.mem_append, or_and_right, exists_or, hspelled, IsRefused, and_or_left]
  refine or_congr_right ?_
  cases hfind : earlier.find? fun other => Naming.typeName other = Naming.typeName member with
  | none =>
    have hnone : ¬ ∃ other ∈ earlier, Naming.typeName other = Naming.typeName member := by
      simpa using List.find?_eq_none.1 hfind
    simp [hnone]
  | some other =>
    have hsome : ∃ other ∈ earlier, Naming.typeName other = Naming.typeName member :=
      ⟨other, List.mem_of_find?_eq_some hfind, by simpa using List.find?_some hfind⟩
    simp only [hsome, and_true]
    split
    · simp [ConfigIssue.member?]
    · simp [ConfigIssue.member?]

/-- The members before one of a list stand behind those that were there before the list. -/
theorem exists_mem_membersIssues_iff :
    (∃ issue ∈ membersIssues enum earlier index members, issue.member? = some (enum', i))
      ↔ ∃ k, ∃ hk : k < members.length, (enum, index + k) = (enum', i)
        ∧ IsRefused (earlier ++ members.take k) members[k] := by
  induction members generalizing earlier index with
  | nil => simp [membersIssues]
  | cons member rest ih =>
    have horder : ∀ k other, other ∈ member :: earlier ++ rest.take k
        ↔ other ∈ earlier ++ member :: rest.take k := by
      intro k other
      simp only [List.mem_append, List.mem_cons]
      tauto
    rw [membersIssues, ← Nat.or_exists_add_one]
    simp only [List.mem_append, or_and_right, exists_or, exists_mem_memberIssues_iff, ih]
    refine or_congr ?_ (exists_congr fun k => ?_)
    · simp
    · simp only [IsRefused, horder, List.length_cons, Nat.add_lt_add_iff_right, List.take_succ_cons,
        List.getElem_cons_succ, Nat.add_assoc, Nat.add_comm 1]

theorem exists_mem_enumIssues_iff :
    (∃ issue ∈ enumIssues earlier enum members, issue.member? = some (enum', i))
      ↔ enum = enum' ∧ ∃ hi : i < members.length, IsRefused (members.take i) members[i] := by
  have hmembers : (∃ issue ∈ enumIssues earlier enum members, issue.member? = some (enum', i))
      ↔ ∃ issue ∈ membersIssues enum [] 0 members, issue.member? = some (enum', i) := by
    refine exists_member_append_iff ?_
    simp only [List.forall_mem_append]
    refine ⟨⟨⟨?_, ?_⟩, ?_⟩, ?_⟩
    all_goals split <;> simp [ConfigIssue.member?]
  rw [hmembers, exists_mem_membersIssues_iff]
  constructor
  · rintro ⟨k, hk, heq, hrefused⟩
    obtain ⟨rfl, rfl⟩ := Prod.mk.inj heq
    rw [List.nil_append] at hrefused
    exact ⟨rfl, by omega, by simpa using hrefused⟩
  · rintro ⟨rfl, hi, hrefused⟩
    exact ⟨i, hi, by rw [Nat.zero_add], hrefused⟩

theorem exists_mem_enumsIssues_iff {enums : List (String × List String)} :
    (∃ issue ∈ enumsIssues earlier enums, issue.member? = some (enum', i))
      ↔ ∃ members, (enum', members) ∈ enums
        ∧ ∃ hi : i < members.length, IsRefused (members.take i) members[i] := by
  induction enums generalizing earlier with
  | nil => simp [enumsIssues]
  | cons e rest ih =>
    obtain ⟨enum, members⟩ := e
    simp only [enumsIssues, List.mem_append, or_and_right, exists_or, exists_mem_enumIssues_iff, ih,
      List.mem_cons, Prod.mk.injEq]
    refine or_congr_left ⟨?_, ?_⟩
    · rintro ⟨rfl, hrefused⟩
      exact ⟨members, ⟨rfl, rfl⟩, hrefused⟩
    · rintro ⟨members', ⟨rfl, rfl⟩, hrefused⟩
      exact ⟨rfl, hrefused⟩

end Issues

/-- The check of a configuration has an issue of a member of an enumeration exactly if the member is
refused behind those before it. -/
theorem exists_member_issue_iff {c : Config} {enum : String} {members : List String}
    (h : (enum, members) ∈ c.types.enums.toList) (i : Nat) :
    (∃ issue ∈ c.issues, issue.member? = some (enum, i))
      ↔ ∃ hi : i < members.length, IsRefused (members.take i) members[i] := by
  have hissues : (∃ issue ∈ c.issues, issue.member? = some (enum, i))
      ↔ ∃ issue ∈ enumsIssues [] c.types.enums.toList, issue.member? = some (enum, i) := by
    refine exists_member_append_iff ?_
    simp only [List.forall_mem_append]
    refine ⟨⟨?_, ?_⟩, ?_⟩
    · intro issue hmem hissue
      obtain ⟨⟨key, path⟩, -, heq⟩ := List.mem_filterMap.1 hmem
      obtain rfl := Option.some.inj (Option.ite_none_right_eq_some.1 heq).2
      cases hissue
    · unfold runtimeIssues
      split <;> simp [ConfigIssue.member?]
    · refine List.forall_mem_flatMap.2 fun pair _ => ?_
      simp only [aliasIssues, List.forall_mem_append]
      refine ⟨⟨?_, ?_⟩, ?_⟩
      all_goals split <;> simp [ConfigIssue.member?]
  rw [hissues, exists_mem_enumsIssues_iff]
  constructor
  · rintro ⟨members', hmem, hrefused⟩
    have hget := SortedMap.get?_eq_some_iff.2 hmem
    rw [SortedMap.get?_eq_some_iff.2 h] at hget
    obtain rfl := Option.some.inj hget
    exact hrefused
  · exact fun hrefused => ⟨members, h, hrefused⟩

variable {c : Config} {enum : String} {members : List String}

/-- No member of a valid configuration is refused. -/
theorem IsValid.not_isRefused (h : c.IsValid) (hmem : (enum, members) ∈ c.types.enums.toList)
    {i : Nat} (hi : i < members.length) : ¬ IsRefused (members.take i) members[i] := by
  intro hrefused
  obtain ⟨issue, hissue, -⟩ := (exists_member_issue_iff hmem i).2 ⟨hi, hrefused⟩
  rw [h] at hissue
  cases hissue

theorem IsValid.isIdentifier_member (h : c.IsValid)
    (hmem : (enum, members) ∈ c.types.enums.toList) :
    ∀ member ∈ members, Naming.isIdentifier member = true := by
  intro member hmember
  obtain ⟨i, hi, rfl⟩ := List.getElem_of_mem hmember
  by_contra hno
  exact h.not_isRefused hmem hi (.inl (Bool.eq_false_of_not_eq_true hno))

/-- The variants of an enumeration of a valid configuration differ. -/
theorem IsValid.nodup_variants (h : c.IsValid) (hmem : (enum, members) ∈ c.types.enums.toList) :
    (members.map Naming.typeName).Nodup := by
  rw [List.Nodup, List.pairwise_iff_getElem]
  intro i j hi hj hij heq
  rw [List.length_map] at hi hj
  rw [List.getElem_map, List.getElem_map] at heq
  refine h.not_isRefused hmem hj (.inr ⟨members[i], ?_, heq⟩)
  exact List.mem_take_iff_getElem.2 ⟨i, by omega, rfl⟩

end Config

end MasterData
