-- SUMMARY: Schemas are read back from the trees that they are written as.
import MasterData.Proofs.Json.Shapes
import MasterData.Proofs.Schema.Extract

/-! # The written form of a schema

Every schema whose kinds are declarable is read back from its written form. The reader keeps the
fields of a kind until it knows the name of the kind, so a length must also be usable as a number
then; the lengths that declarations allow are.
-/

namespace MasterData

/-! ## Kinds -/

namespace FieldKind

theorem isWritten_toJson (k : FieldKind) : k.toJson.IsWritten := by
  induction k with
  | enumeration name members => exact ⟨trivial, trivial, Json.isWritten_texts members, trivial⟩
  | array element length ih =>
    refine ⟨trivial, ih, ?_, trivial⟩
    cases length with
    | none => trivial
    | some n => exact Json.isWritten_ofNat n
  | primitive _ | string | boolean | opaqueType _ =>
    simp [toJson, Json.IsWritten, Json.MembersAreWritten]

theorem find?_typeName (p : Primitive) :
    Primitive.all.find? (·.typeName = p.typeName) = some p := by
  cases p <;> rfl

/-- The name of a kind as its object shows it. -/
def kindName : FieldKind → String
  | primitive _ => "primitive"
  | string => "string"
  | boolean => "boolean"
  | enumeration _ _ => "enumeration"
  | array _ _ => "fixed_array"
  | opaqueType _ => "opaque"

/-- The members of the object of a kind behind its name. -/
def kindMembers : FieldKind → List (String × Json)
  | primitive p => [("primitive", .text p.typeName)]
  | string => []
  | boolean => []
  | enumeration name members => [("name", .text name), ("members", .list (members.map .text))]
  | array element length =>
    [("element", element.toJson), ("len", (length.map Json.ofNat).getD .null)]
  | opaqueType name => [("name", .text name)]

theorem toJson_eq (k : FieldKind) :
    k.toJson = .object (("kind", .text k.kindName) :: k.kindMembers) := by
  cases k <;> rfl

theorem splitKind?_toJson (nested : Bool) (k : FieldKind) :
    splitKind? nested k.toJson = some (k.kindName, .object k.kindMembers) := by
  rw [toJson_eq]
  cases k <;> simp [splitKind?, kindMembers, Json.asListedName?]

/-- A kind outside arrays is found from its parts, however deep it stands. -/
theorem ofParts?_of_isScalar {k : FieldKind} (h : k.isScalar) (depth : Nat) :
    ofParts? depth k.kindName (.object k.kindMembers) = some k := by
  cases k with
  | primitive p =>
    have hfields : (Json.object [("primitive", .text p.typeName)]).fields? ["primitive"]
        = some ⟨[("primitive", .text p.typeName)], false⟩ :=
      Json.fields?_object (by simp) (by simp)
    simp [kindName, kindMembers, ofParts?, hfields, Json.Fields.required?_cons,
      Json.asVariantName?, find?_typeName]
  | string => simp [kindName, kindMembers, ofParts?, ofParts?.isBare]
  | boolean => simp [kindName, kindMembers, ofParts?, ofParts?.isBare]
  | enumeration name members =>
    have hfields : (Json.object [("name", .text name), ("members", .list (members.map .text))]).fields?
        ["name", "members"]
        = some ⟨[("name", .text name), ("members", .list (members.map .text))], false⟩ :=
      Json.fields?_object (by simp) (by simp)
    simp [kindName, kindMembers, ofParts?, hfields, Json.Fields.required?_cons, Json.asText?]
  | array _ _ => cases h
  | opaqueType _ => cases h

theorem lengthOfFields?_eq {length : Option Nat} (hlength : ∀ n, length = some n → n ≤ 32)
    (element : Json) :
    lengthOfFields? ⟨[("element", element), ("len", (length.map Json.ofNat).getD .null)], false⟩
      = some length := by
  cases length with
  | none => rfl
  | some n =>
    have hn := hlength n rfl
    have hread : (Json.ofNat n).asIntIn? 0 0xffffffffffffffff = some (n : Int) :=
      Json.asIntIn?_ofNat (by omega) (by omega)
    simp only [lengthOfFields?, Json.Fields.defaulted?_cons, String.reduceEq, Option.map_some,
      Option.getD_some, Bool.false_eq_true, if_true, if_false]
    change ((Json.ofNat n).asIntIn? 0 0xffffffffffffffff |>.map Int.toNat).map some = some (some n)
    rw [hread]
    rfl

theorem ofParts?_array {element : FieldKind} {length : Option Nat} (helement : element.isScalar)
    (hlength : ∀ n, length = some n → n ≤ 32) (depth : Nat) :
    ofParts? (depth + 1) (array element length).kindName (.object (array element length).kindMembers)
      = some (array element length) := by
  have hfields : (Json.object (array element length).kindMembers).fields? ["element", "len"]
      = some ⟨(array element length).kindMembers, false⟩ :=
    Json.fields?_object (by simp [kindMembers]) (by simp [kindMembers])
  have hlen := lengthOfFields?_eq hlength element.toJson
  have hread := ofParts?_of_isScalar helement depth
  simp only [kindMembers] at hfields
  rw [kindName, kindMembers, ofParts?]
  simp [hfields, Json.Fields.required?_cons, splitKind?_toJson, hread, hlen]

/-! ## Usable trees -/

/-- The lengths of declared arrays lie in the range of doubles. -/
theorem isSome_toDouble?_ofNat : ∀ n ≤ 32, ((Json.Numeral.ofNat n).toDouble?).isSome := by
  decide +kernel

theorem isUsable_kindMembers_of_isScalar {k : FieldKind} (h : k.isScalar) (depth : Nat) :
    (Json.object k.kindMembers).isUsable (depth + 2) := by
  cases k with
  | array _ _ => cases h
  | opaqueType _ => cases h
  | enumeration name members => simp [kindMembers, Json.isUsable]
  | primitive _ | string | boolean => simp [kindMembers, Json.isUsable]

theorem isUsable_toJson_of_isScalar {k : FieldKind} (h : k.isScalar) (depth : Nat) :
    k.toJson.isUsable (depth + 2) := by
  have hmembers := isUsable_kindMembers_of_isScalar h depth
  rw [toJson_eq]
  simp only [Json.isUsable, List.all_cons, Bool.true_and] at hmembers ⊢
  exact hmembers

theorem isUsable_kindMembers {k : FieldKind} (h : k.IsDeclarable) (depth : Nat) :
    (Json.object k.kindMembers).isUsable (depth + 3) := by
  cases k with
  | array element length =>
    have helement := isUsable_toJson_of_isScalar (h.isScalar rfl) depth
    have hlength : ((length.map Json.ofNat).getD .null).isUsable (depth + 2) := by
      cases length with
      | none => rfl
      | some n => exact isSome_toDouble?_ofNat n (h.length_le rfl)
    simp [kindMembers, Json.isUsable, helement, hlength]
  | opaqueType _ => simp [kindMembers, Json.isUsable]
  | primitive _ | string | boolean | enumeration _ _ =>
    exact isUsable_kindMembers_of_isScalar rfl (depth + 1)

theorem ofJson?_toJson {k : FieldKind} (h : k.IsDeclarable) (depth : Nat) :
    ofJson? (depth + 3) k.toJson = some k := by
  have hparts : ofParts? (depth + 3) k.kindName (.object k.kindMembers) = some k := by
    cases k with
    | array element length =>
      have hlength : ∀ n, length = some n → n ≤ 32 := by
        rintro n rfl
        exact h.length_le rfl
      exact ofParts?_array (h.isScalar rfl) hlength (depth + 2)
    | opaqueType name =>
      have hfields : (Json.object [("name", .text name)]).fields? ["name"]
          = some ⟨[("name", .text name)], false⟩ :=
        Json.fields?_object (by simp) (by simp)
      simp [kindName, kindMembers, ofParts?, hfields, Json.Fields.required?_cons,
        Json.asText?]
    | primitive _ | string | boolean | enumeration _ _ => exact ofParts?_of_isScalar rfl _
  -- The members are first checked to be usable at all, and then read for the name of the kind.
  rw [ofJson?, splitKind?_toJson]
  simp [isUsable_kindMembers h depth, hparts]

end FieldKind

/-! ## Columns -/

/-- The keys of an object, in order. -/
def Json.keys : Json → List String
  | .object members => members.map (·.1)
  | _ => []

theorem membersAreWritten_textMember (key text : String) :
    Json.MembersAreWritten (textMember key text) := by
  unfold textMember
  split
  · trivial
  · exact ⟨trivial, trivial⟩

theorem mem_keys_textMember (key key' text : String) :
    key' ∈ (textMember key text).map (·.1) ↔ key' = key ∧ text ≠ "" := by
  unfold textMember
  split <;> simp_all

theorem Json.membersAreWritten_append {ms ns : List (String × Json)}
    (hms : Json.MembersAreWritten ms) (hns : Json.MembersAreWritten ns) :
    Json.MembersAreWritten (ms ++ ns) := by
  rw [Json.membersAreWritten_iff] at hms hns ⊢
  intro m hm
  rcases List.mem_append.1 hm with hm | hm
  · exact hms m hm
  · exact hns m hm

theorem Column.isWritten_toJson (c : Column) : c.toJson.IsWritten :=
  Json.membersAreWritten_append
    ⟨Json.isWritten_ofNat _, trivial, c.kind.isWritten_toJson, trivial, trivial⟩
    (membersAreWritten_textMember _ _)

theorem Column.ofJson?_toJson {c : Column} (h : c.kind.IsDeclarable) :
    Column.ofJson? (127 - 2 - 2) c.toJson = some c := by
  obtain ⟨column, declaredType, kind, fieldName, description⟩ := c
  have hkind : FieldKind.ofJson? 122 kind.toJson = some kind := FieldKind.ofJson?_toJson h 119
  by_cases hd : description = ""
  · subst hd
    rw [ofJson?, toJson, textMember, if_pos rfl, Json.fields?_object (by simp) (by simp)]
    simp [Json.Fields.required?_cons, Json.Fields.defaulted?_cons, Json.Fields.defaulted?_nil,
      Json.asText?, hkind]
  · rw [ofJson?, toJson, textMember, if_neg hd, Json.fields?_object (by simp) (by simp)]
    simp [Json.Fields.required?_cons, Json.Fields.defaulted?_cons, Json.asText?, hkind]

/-- A description is written just if there is one. -/
theorem Column.mem_keys_toJson (c : Column) :
    "description" ∈ c.toJson.keys ↔ c.description ≠ "" := by
  simp [toJson, Json.keys, mem_keys_textMember, -List.mem_map]

/-! ## Schemas -/

theorem SheetSource.ofJson?_toJson (s : SheetSource) : SheetSource.ofJson? s.toJson = some s := by
  rw [ofJson?, toJson, Json.fields?_object (by simp) (by simp)]
  simp [Json.Fields.required?_cons, Json.asText?]

theorem Address.ofJson?_toJson (a : Address) : Address.ofJson? a.toJson = some a := by
  rw [ofJson?, toJson, Json.fields?_object (by simp) (by simp)]
  simp [Json.Fields.required?_cons]

namespace MasterSchema

theorem isWritten_toJson (s : MasterSchema) : s.toJson.IsWritten := by
  have hfields : (Json.list (s.fields.map Column.toJson)).IsWritten := by
    refine Json.areWritten_iff.2 fun j hj => ?_
    obtain ⟨c, -, rfl⟩ := List.mem_map.1 hj
    exact c.isWritten_toJson
  have hanchor : s.anchor.toJson.IsWritten :=
    ⟨Json.isWritten_ofNat _, Json.isWritten_ofNat _, trivial⟩
  refine Json.membersAreWritten_append (Json.membersAreWritten_append ⟨trivial, trivial⟩
    (membersAreWritten_textMember _ _)) ?_
  exact ⟨trivial, Json.isWritten_ofNat _, hfields, ⟨trivial, trivial, trivial⟩, hanchor,
    Json.isWritten_ofNat _, trivial⟩

/-- The description of a master is written just if there is one. -/
theorem mem_keys_toJson (s : MasterSchema) :
    "master_description" ∈ s.toJson.keys ↔ s.masterDescription ≠ "" := by
  simp [toJson, Json.keys, mem_keys_textMember, -List.mem_map]

/-- A schema with declarable kinds is read back. -/
theorem ofJson?_toJson {s : MasterSchema} (h : ∀ c ∈ s.fields, c.kind.IsDeclarable) :
    ofJson? (127 - 2) s.toJson = some s := by
  obtain ⟨masterName, description, keyType, keyColumn, fields, source, anchor, dataStartRow⟩ := s
  have hfields : (Json.list (fields.map Column.toJson)).asListOf? (Column.ofJson? 123)
      = some fields :=
    Json.asListOf?_list_map fun c hc => Column.ofJson?_toJson (h c hc)
  by_cases hd : description = ""
  · subst hd
    rw [ofJson?, toJson, textMember, if_pos rfl, Json.fields?_object (by simp) (by simp)]
    simp only [List.cons_append, List.nil_append, Option.bind_eq_bind, Option.bind_some,
      Option.pure_def, Json.Fields.required?_cons, Json.Fields.defaulted?_cons,
      Json.Fields.defaulted?_nil, String.reduceEq, if_true, if_false, Nat.reduceSub, Json.asText?,
      Json.asUInt32?_ofNat, hfields, SheetSource.ofJson?_toJson, Address.ofJson?_toJson]
  · rw [ofJson?, toJson, textMember, if_neg hd, Json.fields?_object (by simp) (by simp)]
    simp only [List.cons_append, List.nil_append, Option.bind_eq_bind, Option.bind_some,
      Option.pure_def, Json.Fields.required?_cons, Json.Fields.defaulted?_cons,
      Json.Fields.defaulted?_nil, String.reduceEq, if_true, if_false, Nat.reduceSub, Json.asText?,
      Json.asUInt32?_ofNat, hfields, SheetSource.ofJson?_toJson, Address.ofJson?_toJson]

end MasterSchema

end MasterData
