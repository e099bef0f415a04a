-- SUMMARY: Configured enumerations from their check to the values of their types.
import MasterData.Proofs.Code.MemberMatch
import MasterData.Proofs.Config.Members
import MasterData.Proofs.Record.Keys
import MasterData.Proofs.Record.RowType
import MasterData.Proofs.Text.Trimming

/-! # Configured enumerations

An enumeration of a valid configuration is the same thing all the way. A module whose schema uses it
declares it once, with a variant for each member; its match maps the members to their variants and no
other text to any; a cell with a member, whatever white space is around it, is stored as the member; and
the type of the field reads the stored text back as the variant.
Main statement: `configured_enums_survive`.
-/

namespace MasterData

open Code

/-! ## Enumerations of a module -/

namespace Naming

theorem isWord_typeName (name : String) : Code.IsWord (typeName name) :=
  ⟨typeName_ne_empty name, isWordPart_of_mem_typeName name⟩

end Naming

/-- A schema whose enumerations of one type are those of a configuration. -/
def MasterSchema.HasEnumsOf (s : MasterSchema) (c : Config) (type : String) : Prop :=
  ∀ col ∈ s.fields, ∀ name members,
    RecordModule.scalarKind col.kind = .enumeration name members →
    Naming.typeName name = type → (name, members) ∈ c.types.enums.toList

/-- The kinds that a configuration gives name its own enumerations. -/
theorem MasterSchema.hasEnumsOf_of_classify {s : MasterSchema} {c : Config}
    (h : ∀ col ∈ s.fields, col.kind = c.typeTable.classify col.declaredType) (type : String) :
    s.HasEnumsOf c type := by
  intro col hcol name members hkind _
  rw [h col hcol] at hkind
  exact Config.mem_enums_of_get? (c.typeTable.get?_of_classify hkind)

/-- So do the schemas that are read off sheets under the configuration. -/
theorem MasterSchema.hasEnumsOf_of_extract {s : MasterSchema} {c : Config} {workbook : String}
    {sheet : Sheet} {anchor : Address} (h : extract c.typeTable workbook sheet anchor = .ok (some s))
    (type : String) : s.HasEnumsOf c type :=
  hasEnumsOf_of_classify (isExtracted_of_extract h).kind_eq type

namespace RecordModule

variable {options : CodeOptions} {s : MasterSchema} {m : RecordModule}

theorem enums_of_ofSchema? (hm : ofSchema? options s = some m) :
    m.enums = distinctEnums s.enumTypes := by
  obtain ⟨key, -, rfl⟩ := Option.map_eq_some_iff.1 hm
  rfl

theorem isSpelled_of_enumOfKind? {kind : FieldKind} {e : EnumType} (h : enumOfKind? kind = some e) :
    e.IsSpelled := by
  obtain ⟨name, members, -, rfl⟩ := exists_of_enumOfKind? h
  exact ⟨Naming.isWord_typeName name, List.forall_mem_map.2 fun member _ =>
    Naming.isWord_typeName member⟩

theorem isSpelled_of_ofSchema? (hm : ofSchema? options s = some m) : ∀ e ∈ m.enums, e.IsSpelled := by
  intro e he
  rw [enums_of_ofSchema? hm] at he
  obtain ⟨kind, -, hkind⟩ := List.mem_filterMap.1 (exists_mem_distinctEnums.2 e he)
  exact isSpelled_of_enumOfKind? hkind

/-- A declared enumeration has a type of its own, and its arms are those in the source. -/
theorem arms_of_mem_enums (hm : ofSchema? options s = some m) {e : EnumType} (he : e ∈ m.enums) :
    m.enums.filter (·.typeName = e.typeName) = [e]
      ∧ memberArms? e.typeName m.render = some e.arms := by
  obtain ⟨earlier, later, hsplit⟩ := List.append_of_mem he
  have hnodup : (m.enums.map (·.typeName)).Nodup := by
    rw [enums_of_ofSchema? hm]
    exact nodup_typeName_distinctEnums _
  rw [hsplit, List.map_append, List.map_cons, List.nodup_middle, List.nodup_cons,
    ← List.map_append] at hnodup
  have hother : ∀ e' ∈ earlier ++ later, e'.typeName ≠ e.typeName := fun e' he' heq =>
    hnodup.1 (heq ▸ List.mem_map_of_mem he')
  rw [List.forall_mem_append] at hother
  refine ⟨?_, (isPlain_of_ofSchema? hm).memberArms?_render (isSpelled_of_ofSchema? hm) hsplit hother.2⟩
  have hearlier : earlier.filter (·.typeName = e.typeName) = [] :=
    List.filter_eq_nil_iff.2 (by simpa using hother.1)
  have hlater : later.filter (·.typeName = e.typeName) = [] :=
    List.filter_eq_nil_iff.2 (by simpa using hother.2)
  rw [hsplit, List.filter_append, List.filter_cons_of_pos (by simp), hearlier, hlater]
  rfl

/-- A schema that uses a configured enumeration declares it, if its other enumerations of that type are
configured too. -/
theorem mem_enums_of_isValid {c : Config} (hc : c.IsValid) (hm : ofSchema? options s = some m)
    {name : String} {members : List String} (hname : (name, members) ∈ c.types.enums.toList)
    (henums : s.HasEnumsOf c (Naming.typeName name))
    (huses : ∃ col ∈ s.fields, scalarKind col.kind = .enumeration name members) :
    ⟨Naming.typeName name, members.map fun m => (Naming.typeName m, m)⟩ ∈ m.enums := by
  obtain ⟨col, hcol, hkind⟩ := huses
  rw [enums_of_ofSchema? hm]
  refine mem_distinctEnums ?_ fun e he heq => ?_
  · refine List.mem_filterMap.2 ⟨_, List.mem_map_of_mem hcol, ?_⟩
    rw [hkind]
    rfl
  · obtain ⟨kind, hmem, henum⟩ := List.mem_filterMap.1 he
    obtain ⟨col', hcol', rfl⟩ := List.mem_map.1 hmem
    obtain ⟨name', members', hkind', rfl⟩ := exists_of_enumOfKind? henum
    have hname' := henums col' hcol' name' members' hkind' heq
    obtain ⟨rfl, rfl⟩ := hc.enum_eq (SortedMap.get?_eq_some_iff.2 hname')
      (SortedMap.get?_eq_some_iff.2 hname) heq
    rfl

end RecordModule

/-! ## Runs of a match -/

theorem find?_member {members : List String} {member : String} (h : member ∈ members) :
    members.find? (· = member) = some member := by
  have hsome : (members.find? (· = member)).isSome :=
    List.find?_isSome.2 ⟨member, h, decide_eq_true rfl⟩
  obtain ⟨m, hfind⟩ := Option.isSome_iff_exists.1 hsome
  obtain rfl : m = member := by simpa using List.find?_some hfind
  exact hfind

/-- The match of the variants of members gives the variant of a member, and an error for other texts. -/
theorem EnumType.runArms_members (type : String) (members : List String) (text : String) :
    runArms text (EnumType.arms ⟨type, members.map fun m => (Naming.typeName m, m)⟩)
      = some (if text ∈ members then .ok (Naming.typeName text) else .error ⟨type, text⟩) := by
  rw [EnumType.runArms_arms, List.find?_map]
  simp only [Function.comp_def]
  split
  · rename_i hmem
    rw [find?_member hmem]
    rfl
  · rename_i hmem
    have hnone : members.find? (fun m => decide (m = text)) = none :=
      List.find?_eq_none.2 fun m hm heq => hmem (of_decide_eq_true heq ▸ hm)
    rw [hnone]
    rfl

/-! ## Cells and values -/

namespace FieldKind

variable {name member before after : String} {members : List String}

/-- White space around a member does not count. -/
theorem parseElement?_member (hmember : member ∈ members) (htrim : Text.trim member = member)
    (hbefore : Text.isBlankText before = true) (hafter : Text.isBlankText after = true) :
    (FieldKind.enumeration name members).parseElement? (before ++ member ++ after)
      = some (.text member) := by
  rw [parseElement?, Text.trim_append hbefore hafter, htrim, find?_member hmember]
  rfl

theorem decode?_member (hmember : member ∈ members) (htrim : Text.trim member = member)
    (hbefore : Text.isBlankText before = true) (hafter : Text.isBlankText after = true)
    {sheet : Sheet} {a : Address} (hcell : sheet.cell? a = some (.text (before ++ member ++ after))) :
    (FieldKind.enumeration name members).decode? sheet a = some (.text member) := by
  rw [decode?, Sheet.textAt, hcell]
  exact parseElement?_member hmember htrim hbefore hafter

end FieldKind

/-- The type of an enumeration reads the text of a member as the value that stands for its variant. -/
theorem FieldType.exists_read?_member {name member : String} {members : List String} {t : FieldType}
    (ht : FieldType.ofKind? (.enumeration name members) = some t) (h : member ∈ members) :
    ∃ x, t.read? (.text member) = some x ∧ t.describe x = Naming.typeName member := by
  cases members with
  | nil => cases h
  | cons first rest =>
    cases ht
    obtain ⟨i, hi⟩ := exists_memberIndex? h
    refine ⟨i, read?_member hi, ?_⟩
    have hmember : (first :: rest)[i.val]?.getD "" = member := by
      rw [List.getElem?_eq_getElem i.isLt, Option.getD_some, eq_getElem_of_memberIndex? hi]
    rw [describe, hmember]

/-! ## The whole way -/

/-- An enumeration of a valid configuration is declared once by every module whose schema uses it, one
variant for each member in order, all of them different. The match in the source maps each member to its
variant and any other text to an error. A cell with a member decodes to the text of the member, whatever
white space is around it, and the type of the field reads the text back as the variant. The check of any
configuration has an issue of a member exactly if it is no identifier or generates the variant of an
earlier member. -/
theorem configured_enums_survive (c : Config) :
    (c.IsValid → ∀ name members, (name, members) ∈ c.types.enums.toList →
        ∀ (options : CodeOptions) (s : MasterSchema), s.HasEnumsOf c (Naming.typeName name) →
        (∃ col ∈ s.fields, RecordModule.scalarKind col.kind = .enumeration name members) →
        ∃ m e arms t, RecordModule.ofSchema? options s = some m
          ∧ m.enums.filter (·.typeName = Naming.typeName name) = [e]
          ∧ e.variants = members.map (fun member => (Naming.typeName member, member))
          ∧ (e.variants.map (·.1)).Nodup
          ∧ memberArms? (Naming.typeName name) m.render = some arms
          ∧ (∀ member ∈ members,
              runArms member arms = some (.ok (Naming.typeName member)))
          ∧ (∀ text ∉ members,
              runArms text arms = some (.error ⟨Naming.typeName name, text⟩))
          ∧ FieldType.ofKind? (.enumeration name members) = some t
          ∧ ∀ member ∈ members,
            (∀ before after, Text.isBlankText before = true → Text.isBlankText after = true →
              (FieldKind.enumeration name members).parseElement? (before ++ member ++ after)
                  = some (.text member)
                ∧ ∀ sheet a, Sheet.cell? sheet a = some (.text (before ++ member ++ after)) →
                  (FieldKind.enumeration name members).decode? sheet a = some (.text member))
            ∧ ∃ x, t.read? (.text member) = some x ∧ t.describe x = Naming.typeName member)
      ∧ ∀ name members, (name, members) ∈ c.types.enums.toList → ∀ i,
        (∃ issue ∈ c.issues, issue.member? = some (name, i))
          ↔ ∃ hi : i < members.length, Naming.isIdentifier members[i] = false
            ∨ ∃ other ∈ members.take i, Naming.typeName other = Naming.typeName members[i] := by
  refine ⟨fun hc name members hname options s henums huses => ?_, fun name members hname i =>
    Config.exists_member_issue_iff hname i⟩
  obtain ⟨m, hm⟩ : ∃ m, RecordModule.ofSchema? options s = some m := by
    obtain ⟨col, hcol, -⟩ := huses
    obtain ⟨key, rest, hfields⟩ := List.exists_cons_of_ne_nil (List.ne_nil_of_mem hcol)
    rw [RecordModule.ofSchema?, MasterSchema.keyField?, hfields]
    exact ⟨_, rfl⟩
  obtain ⟨first, rest, hmembers⟩ := List.exists_cons_of_ne_nil
    (hc.members_ne_nil (SortedMap.get?_eq_some_iff.2 hname))
  obtain ⟨t, ht⟩ : ∃ t, FieldType.ofKind? (.enumeration name members) = some t := by
    rw [hmembers]
    exact ⟨_, rfl⟩
  obtain ⟨hdeclared, harms⟩ := RecordModule.arms_of_mem_enums hm
    (RecordModule.mem_enums_of_isValid hc hm hname henums huses)
  have hnodup : ((members.map fun member => (Naming.typeName member, member)).map (·.1)).Nodup := by
    rw [List.map_map]
    exact hc.nodup_variants hname
  refine ⟨m, _, _, t, hm, hdeclared, rfl, hnodup, harms, fun member hmember => ?_,
    fun text htext => ?_, ht, fun member hmember => ⟨fun before after hbefore hafter => ?_,
      FieldType.exists_read?_member ht hmember⟩⟩
  · rw [EnumType.runArms_members, if_pos hmember]
  · rw [EnumType.runArms_members, if_neg htext]
  · have htrim := Naming.trim_of_isIdentifier (hc.isIdentifier_member hname member hmember)
    exact ⟨FieldKind.parseElement?_member hmember htrim hbefore hafter,
      fun sheet a => FieldKind.decode?_member hmember htrim hbefore hafter⟩

/-- A schema with a member as its key and a list of members. -/
def MasterSchema.elementSchema : MasterSchema where
  masterName := "Weakness"
  masterDescription := ""
  keyType := "Element"
  keyColumn := 0
  fields := [⟨0, "Element", .enumeration "Element" ["Fire", "Water"], "element", ""⟩,
    ⟨1, "Element[]", .array (.enumeration "Element" ["Fire", "Water"]) none, "against", ""⟩]
  source := ⟨"book.json", "Weakness"⟩
  anchor := ⟨1, 0⟩
  dataStartRow := 5

/-- An enumeration whose third member is the first one again and whose fourth is no identifier. -/
def clashingNames : TypeNames :=
  ⟨.empty, .ofList [("Element", ["Fire", "Water", "fire", "9"])]⟩

theorem configured_enums_survive_element :
    (Config.ofTypeNames Config.ownNames).IsValid
      ∧ ∃ m arms, RecordModule.ofSchema? ⟨"sheetmaster_runtime"⟩ MasterSchema.elementSchema = some m
        ∧ memberArms? "Element" m.render = some arms
        ∧ runArms "Water" arms = some (.ok "Water")
        ∧ runArms "Wind" arms = some (.error ⟨"Element", "Wind"⟩)
        ∧ (FieldKind.enumeration "Element" ["Fire", "Water"]).parseElement? " Water\t"
          = some (.text "Water")
        ∧ ¬ (∃ issue ∈ (Config.ofTypeNames clashingNames).issues,
          issue.member? = some ("Element", 1))
        ∧ ∃ issue ∈ (Config.ofTypeNames clashingNames).issues,
          issue.member? = some ("Element", 2) := by
  have hvalid : (Config.ofTypeNames Config.ownNames).IsValid := by decide
  have henums : MasterSchema.elementSchema.HasEnumsOf (Config.ofTypeNames Config.ownNames)
      (Naming.typeName "Element") :=
    MasterSchema.hasEnumsOf_of_classify (by decide) _
  have htype : Naming.typeName "Element" = "Element" := by decide
  have hwater : Naming.typeName "Water" = "Water" := by decide
  obtain ⟨m, e, arms, t, hm, -, -, -, harms, hknown, hunknown, -, hcells⟩ :=
    (configured_enums_survive (Config.ofTypeNames Config.ownNames)).1 hvalid "Element"
      ["Fire", "Water"] (List.mem_singleton_self _) ⟨"sheetmaster_runtime"⟩
      MasterSchema.elementSchema henums ⟨_, List.mem_cons_self .., rfl⟩
  have hissues := (configured_enums_survive (Config.ofTypeNames clashingNames)).2 "Element"
    ["Fire", "Water", "fire", "9"] (List.mem_singleton_self _)
  have hwaterMem : "Water" ∈ ["Fire", "Water"] := by decide
  rw [htype] at harms hunknown
  refine ⟨hvalid, m, arms, hm, harms, ?_, hunknown "Wind" (by decide), ?_, ?_, ?_⟩
  · rw [hknown "Water" hwaterMem, hwater]
  · exact ((hcells "Water" hwaterMem).1 " " "\t" (by decide) (by decide)).1
  · rw [hissues 1]
    decide
  · rw [hissues 2]
    decide

end MasterData
