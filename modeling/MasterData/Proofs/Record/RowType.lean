-- SUMMARY: The row type that the generated module of a schema declares.
import Mathlib.Data.List.Induction
import MasterData.Code.RecordModule
import MasterData.Proofs.Code.Naming
import MasterData.Proofs.Config.Validation
import MasterData.Proofs.Json.Shapes
import MasterData.Proofs.Schema.Extract
import MasterData.Record.Row

/-! # Row types of schemas

The module that is generated for a schema declares a row type: the fields in the order of the schema,
each with the type of its kind. Under a valid configuration every schema has such a type, since its
enumerations have members, and the module declares each of them. Main statement:
`MasterSchema.IsWellFormed.exists_rowType`.
-/

namespace MasterData

/-! ## Types of kinds -/

namespace FieldType

/-- How a type is written in generated code. -/
def sourceText : FieldType → String
  | primitive p => p.typeName
  | text => "String"
  | bool => "bool"
  | enumeration name _ _ => Naming.typeName name
  | list element => "Vec<" ++ element.sourceText ++ ">"
  | fixed element length => "[" ++ element.sourceText ++ "; " ++ toString length ++ "]"
  | any => "FieldValue"

/-- The enumeration that generated code declares for a type, or for the elements of a list. -/
def enum? : FieldType → Option EnumType
  | enumeration name first rest =>
    some ⟨Naming.typeName name, (first :: rest).map fun m => (Naming.typeName m, m)⟩
  | list element => element.enum?
  | fixed element _ => element.enum?
  | _ => none

theorem sourceText_of_ofKind? {kind : FieldKind} {t : FieldType} (h : ofKind? kind = some t) :
    t.sourceText = Naming.fieldType kind := by
  induction kind generalizing t with
  | primitive p => cases h; rfl
  | string => cases h; rfl
  | boolean => cases h; rfl
  | enumeration name members =>
    cases members with
    | nil => cases h
    | cons first rest => cases h; rfl
  | array element length ih =>
    cases length with
    | none =>
      obtain ⟨u, hu, rfl⟩ := Option.map_eq_some_iff.1 h
      rw [sourceText, ih hu, Naming.fieldType]
    | some n =>
      obtain ⟨u, hu, rfl⟩ := Option.map_eq_some_iff.1 h
      rw [sourceText, ih hu, Naming.fieldType]
  | opaqueType name => cases h; rfl

theorem enum?_of_isScalar {kind : FieldKind} {t : FieldType} (hkind : kind.isScalar)
    (h : ofKind? kind = some t) : t.enum? = RecordModule.enumOfKind? kind := by
  cases kind with
  | enumeration name members =>
    cases members with
    | nil => cases h
    | cons first rest => cases h; rfl
  | primitive _ | string | boolean => cases h; rfl
  | array _ _ => cases hkind
  | opaqueType _ => cases hkind

theorem enum?_of_ofKind? {kind : FieldKind} {t : FieldType} (hkind : kind.IsDeclarable)
    (h : ofKind? kind = some t) :
    t.enum? = RecordModule.enumOfKind? (RecordModule.scalarKind kind) := by
  cases kind with
  | array element length =>
    have helement : element.isScalar := hkind.isScalar rfl
    cases length with
    | none =>
      obtain ⟨u, hu, rfl⟩ := Option.map_eq_some_iff.1 h
      rw [enum?, RecordModule.scalarKind]
      exact enum?_of_isScalar helement hu
    | some n =>
      obtain ⟨u, hu, rfl⟩ := Option.map_eq_some_iff.1 h
      rw [enum?, RecordModule.scalarKind]
      exact enum?_of_isScalar helement hu
  | opaqueType _ => cases h; rfl
  | primitive _ | string | boolean | enumeration _ _ => exact enum?_of_isScalar rfl h

end FieldType

/-! ## Enumerations of kinds -/

namespace TypeTable

variable (t : TypeTable)

theorem get?_of_classifyScalar {declared name : String} {members : List String}
    (h : t.classifyScalar declared = .enumeration name members) :
    t.enums.get? name = some members := by
  unfold classifyScalar at h
  repeat' split at h
  all_goals cases h
  assumption

theorem get?_of_arrayOf {declared element name : String} {length : Option Nat}
    {members : List String}
    (h : RecordModule.scalarKind (t.arrayOf declared element length) = .enumeration name members) :
    t.enums.get? name = some members := by
  simp only [arrayOf] at h
  split at h
  · exact t.get?_of_classifyScalar h
  · cases h

theorem scalarKind_classifyScalar (declared : String) :
    RecordModule.scalarKind (t.classifyScalar declared) = t.classifyScalar declared := by
  cases hkind : t.classifyScalar declared with
  | array element length => exact absurd hkind (t.classifyScalar_ne_array declared element length)
  | _ => rfl

/-- The enumeration of a declared kind is one of the table. -/
theorem get?_of_classify {declared name : String} {members : List String}
    (h : RecordModule.scalarKind (t.classify declared) = .enumeration name members) :
    t.enums.get? name = some members := by
  simp only [classify] at h
  split at h
  · exact t.get?_of_arrayOf h
  · split at h
    · split at h
      · exact t.get?_of_arrayOf h
      · cases h
    · rw [scalarKind_classifyScalar] at h
      exact t.get?_of_classifyScalar h

end TypeTable

theorem FieldType.exists_ofKind?_of_isScalar {kind : FieldKind} (hkind : kind.isScalar)
    (h : ∀ name members, kind = .enumeration name members → members ≠ []) :
    ∃ t, ofKind? kind = some t := by
  cases kind with
  | enumeration name members =>
    cases members with
    | nil => exact absurd rfl (h name [] rfl)
    | cons first rest => exact ⟨_, rfl⟩
  | primitive _ | string | boolean => exact ⟨_, rfl⟩
  | array _ _ => cases hkind
  | opaqueType _ => cases hkind

/-- A declared kind has a type unless it is of an enumeration without members. -/
theorem FieldType.exists_ofKind? {kind : FieldKind} (hkind : kind.IsDeclarable)
    (h : ∀ name members, RecordModule.scalarKind kind = .enumeration name members → members ≠ []) :
    ∃ t, ofKind? kind = some t := by
  cases kind with
  | array element length =>
    obtain ⟨t, ht⟩ := exists_ofKind?_of_isScalar (hkind.isScalar rfl) h
    cases length with
    | none => exact ⟨t.list, by rw [ofKind?, ht]; rfl⟩
    | some n => exact ⟨t.fixed n, by rw [ofKind?, ht]; rfl⟩
  | opaqueType _ => exact ⟨_, rfl⟩
  | primitive _ | string | boolean | enumeration _ _ => exact exists_ofKind?_of_isScalar rfl h

/-! ## Row types -/

/-- The row type of a schema; none if the kind of a field has no type. -/
def RowType.ofSchema? (s : MasterSchema) : Option RowType :=
  (s.fields.mapM fun c => (FieldType.ofKind? c.kind).map (c.fieldName, ·)).map (⟨s.masterName, ·⟩)

/-- A row type has the fields of a schema, each with the type of its kind. -/
structure RowType.IsOf (t : RowType) (s : MasterSchema) : Prop where
  master_eq : t.master = s.masterName
  fields : List.Forall₂
    (fun (c : Column) f => f.1 = c.fieldName ∧ FieldType.ofKind? c.kind = some f.2) s.fields t.fields

namespace RowType

theorem forall₂_of_mapM {columns : List Column} {fields : List (String × FieldType)}
    (h : columns.mapM (fun c => (FieldType.ofKind? c.kind).map (c.fieldName, ·)) = some fields) :
    List.Forall₂ (fun (c : Column) f => f.1 = c.fieldName ∧ FieldType.ofKind? c.kind = some f.2)
      columns fields := by
  refine (Json.mapM_eq_some_iff.1 h).imp fun c f hf => ?_
  obtain ⟨u, hu, rfl⟩ := Option.map_eq_some_iff.1 hf
  exact ⟨rfl, hu⟩

theorem isOf_ofSchema? {t : RowType} {s : MasterSchema} (h : ofSchema? s = some t) : t.IsOf s := by
  obtain ⟨fields, hfields, rfl⟩ := Option.map_eq_some_iff.1 h
  exact ⟨rfl, forall₂_of_mapM hfields⟩

theorem exists_ofSchema? {s : MasterSchema}
    (h : ∀ c ∈ s.fields, ∃ t, FieldType.ofKind? c.kind = some t) : ∃ t, ofSchema? s = some t := by
  have hfield : ∀ c ∈ s.fields, ∃ f,
      (FieldType.ofKind? c.kind).map (c.fieldName, ·) = some f := by
    intro c hc
    obtain ⟨u, hu⟩ := h c hc
    exact ⟨(c.fieldName, u), by rw [hu]; rfl⟩
  obtain ⟨fields, hfields⟩ := Json.exists_forall₂ hfield
  exact ⟨⟨s.masterName, fields⟩, by rw [ofSchema?, Json.mapM_eq_some_iff.2 hfields]; rfl⟩

namespace IsOf

variable {t : RowType} {s : MasterSchema}

theorem fieldNames_eq (h : t.IsOf s) : t.fieldNames = s.fieldNames := by
  have hnames : List.Forall₂ (· = ·) (s.fields.map (·.fieldName)) (t.fields.map (·.1)) :=
    List.forall₂_map_left_iff.2 (List.forall₂_map_right_iff.2 (h.fields.imp fun _ _ h => h.1.symm))
  rw [List.forall₂_eq_eq_eq] at hnames
  exact hnames.symm

theorem sourceTexts_eq (h : t.IsOf s) :
    t.fields.map (·.2.sourceText) = s.fields.map fun c => Naming.fieldType c.kind := by
  have htexts : List.Forall₂ (· = ·) (s.fields.map fun c => Naming.fieldType c.kind)
      (t.fields.map (·.2.sourceText)) :=
    List.forall₂_map_left_iff.2 (List.forall₂_map_right_iff.2
      (h.fields.imp fun _ _ h => (FieldType.sourceText_of_ofKind? h.2).symm))
  rw [List.forall₂_eq_eq_eq] at htexts
  exact htexts.symm

theorem exists_column (h : t.IsOf s) {f : String × FieldType} (hf : f ∈ t.fields) :
    ∃ c ∈ s.fields, FieldType.ofKind? c.kind = some f.2 := by
  obtain ⟨i, hi, rfl⟩ := List.mem_iff_getElem.1 hf
  have hlength := h.fields.length_eq
  have hpair := (List.forall₂_iff_get.1 h.fields).2 i (by omega) hi
  exact ⟨_, List.get_mem .., hpair.2⟩

end IsOf

end RowType

/-! ## Modules -/

/-- A module declares a row type: its name in the assets, its columns with their types, the key and
the enumerations that its fields need. -/
structure RecordModule.Declares (m : RecordModule) (t : RowType) : Prop where
  masterName_eq : m.masterName = t.master
  columnNames_eq : m.fields.map (·.columnName) = t.fieldNames
  fieldTypes_eq : m.fields.map (·.fieldType) = t.fields.map (·.2.sourceText)
  keyType_eq : t.fields.head?.map (·.2.sourceText) = some m.keyType
  enums : ∀ f ∈ t.fields, ∀ e, f.2.enum? = some e → e ∈ m.enums

namespace RecordModule

theorem distinctEnums_append_singleton (enums : List EnumType) (e : EnumType) :
    distinctEnums (enums ++ [e])
      = if (distinctEnums enums).any (·.typeName = e.typeName) then distinctEnums enums
        else distinctEnums enums ++ [e] := by
  simp [distinctEnums, List.foldl_append]

/-- Keeping the first enumeration of each type drops no type and adds no enumeration. -/
theorem exists_mem_distinctEnums {enums : List EnumType} :
    (∀ e ∈ enums, ∃ e' ∈ distinctEnums enums, e'.typeName = e.typeName)
      ∧ ∀ e ∈ distinctEnums enums, e ∈ enums := by
  -- The enumerations are kept from the left on, so the induction takes the last one off.
  induction enums using List.reverseRecOn with
  | nil => simp [distinctEnums]
  | append_singleton enums e ih =>
    obtain ⟨hkept, hold⟩ := ih
    rw [distinctEnums_append_singleton]
    split_ifs with hany
    · refine ⟨fun e' he' => ?_, fun e' he' => List.mem_append_left _ (hold e' he')⟩
      rcases List.mem_append.1 he' with he' | he'
      · exact hkept e' he'
      · obtain rfl := List.mem_singleton.1 he'
        simpa using hany
    · refine ⟨fun e' he' => ?_, fun e' he' => ?_⟩
      · rcases List.mem_append.1 he' with he' | he'
        · obtain ⟨e'', hmem, htype⟩ := hkept e' he'
          exact ⟨e'', List.mem_append_left _ hmem, htype⟩
        · exact ⟨e', List.mem_append_right _ he', rfl⟩
      · rcases List.mem_append.1 he' with he' | he'
        · exact List.mem_append_left _ (hold e' he')
        · exact List.mem_append_right _ he'

/-- The enumerations that are kept have types of their own. -/
theorem nodup_typeName_distinctEnums (enums : List EnumType) :
    ((distinctEnums enums).map (·.typeName)).Nodup := by
  induction enums using List.reverseRecOn with
  | nil => exact List.nodup_nil
  | append_singleton enums e ih =>
    rw [distinctEnums_append_singleton]
    split_ifs with hany
    · exact ih
    · rw [List.map_append, List.map_singleton, List.nodup_append]
      refine ⟨ih, List.nodup_singleton _, ?_⟩
      simp only [List.any_eq_true, decide_eq_true_eq, not_exists, not_and] at hany
      simpa using hany

/-- No enumeration is dropped if those of one type are one. -/
theorem mem_distinctEnums {enums : List EnumType} {e : EnumType} (he : e ∈ enums)
    (h : ∀ e' ∈ enums, e'.typeName = e.typeName → e' = e) : e ∈ distinctEnums enums := by
  obtain ⟨e', hmem, htype⟩ := exists_mem_distinctEnums.1 e he
  exact h e' (exists_mem_distinctEnums.2 e' hmem) htype ▸ hmem

/-- The enumeration of a kind is one that the kind names. -/
theorem exists_of_enumOfKind? {kind : FieldKind} {e : EnumType} (h : enumOfKind? kind = some e) :
    ∃ name members, kind = .enumeration name members
      ∧ e = ⟨Naming.typeName name, members.map fun m => (Naming.typeName m, m)⟩ := by
  cases kind with
  | enumeration name members =>
    cases h
    exact ⟨name, members, rfl, rfl⟩
  | _ => cases h

end RecordModule

namespace MasterSchema

/-- The enumerations of the fields of a schema, as often as they occur. -/
def enumTypes (s : MasterSchema) : List EnumType :=
  (s.fields.map fun c => RecordModule.scalarKind c.kind).filterMap RecordModule.enumOfKind?

namespace IsWellFormed

variable {c : Config} {s : MasterSchema} {e e' : EnumType}

theorem exists_of_mem_enumTypes (hs : s.IsWellFormed c.typeTable) (he : e ∈ s.enumTypes) :
    ∃ name members, c.typeTable.enums.get? name = some members
      ∧ e = ⟨Naming.typeName name, members.map fun m => (Naming.typeName m, m)⟩ := by
  obtain ⟨kind, hkind, henum⟩ := List.mem_filterMap.1 he
  obtain ⟨col, hcol, rfl⟩ := List.mem_map.1 hkind
  obtain ⟨name, members, hname, rfl⟩ := RecordModule.exists_of_enumOfKind? henum
  rw [hs.kind_eq col hcol] at hname
  exact ⟨name, members, c.typeTable.get?_of_classify hname, rfl⟩

/-- Under a valid configuration the enumerations of one type are one. -/
theorem enum_eq (hs : s.IsWellFormed c.typeTable) (hc : c.IsValid) (he : e ∈ s.enumTypes)
    (he' : e' ∈ s.enumTypes) (h : e'.typeName = e.typeName) : e' = e := by
  obtain ⟨name, members, hname, rfl⟩ := hs.exists_of_mem_enumTypes he
  obtain ⟨name', members', hname', rfl⟩ := hs.exists_of_mem_enumTypes he'
  obtain ⟨rfl, rfl⟩ := hc.enum_eq hname' hname h
  rfl

end IsWellFormed

end MasterSchema

theorem RecordModule.map_fields {β : Type} {columns : List Column} {idents : List String}
    (h : columns.length = idents.length) {field : Column → String → RecordField}
    {f : RecordField → β} {g : Column → β} (hfg : ∀ c ident, f (field c ident) = g c) :
    (List.zipWith field columns idents).map f = columns.map g := by
  rw [List.map_zipWith]
  simp only [hfg]
  induction columns generalizing idents with
  | nil => rfl
  | cons c rest ih =>
    cases idents with
    | nil => simp at h
    | cons ident idents => simpa using ih (by simpa using h)

/-- The module of a schema declares the row type of the schema. -/
theorem RecordModule.declares_of_isOf {c : Config} {s : MasterSchema} {t : RowType} (hc : c.IsValid)
    (hs : s.IsWellFormed c.typeTable) (ht : t.IsOf s) {m : RecordModule}
    (hm : ofSchema? c.codeOptions s = some m) : m.Declares t := by
  obtain ⟨key, hkey, rfl⟩ := Option.map_eq_some_iff.1 hm
  have hlength : s.fields.length = (Naming.fieldIdents s.fieldNames).length := by
    rw [Naming.length_fieldIdents, MasterSchema.fieldNames, List.length_map]
  have htypes := ht.sourceTexts_eq
  refine ⟨ht.master_eq.symm, ?_, ?_, ?_, ?_⟩
  · rw [ht.fieldNames_eq]
    exact map_fields hlength fun _ _ => rfl
  · rw [htypes]
    exact map_fields hlength fun _ _ => rfl
  · rw [← List.head?_map, htypes, List.head?_map, ← MasterSchema.keyField?, hkey, Option.map_some]
  · intro f hf e he
    obtain ⟨col, hcol, hkind⟩ := ht.exists_column hf
    rw [FieldType.enum?_of_ofKind? (hs.isDeclarable col hcol) hkind] at he
    -- Enumerations of one type are one here, so keeping the first of each type keeps this one.
    have hmem : e ∈ s.enumTypes :=
      List.mem_filterMap.2 ⟨_, List.mem_map_of_mem hcol, he⟩
    exact mem_distinctEnums hmem fun e' he' h => hs.enum_eq hc hmem he' h

/-- A schema that was extracted under a valid configuration has a module, which declares its row
type. -/
theorem MasterSchema.IsWellFormed.exists_rowType {c : Config} {s : MasterSchema} (hc : c.IsValid)
    (hs : s.IsWellFormed c.typeTable) :
    ∃ m t, RecordModule.ofSchema? c.codeOptions s = some m ∧ RowType.ofSchema? s = some t
      ∧ m.Declares t := by
  obtain ⟨t, ht⟩ := RowType.exists_ofSchema? (s := s) fun col hcol =>
    FieldType.exists_ofKind? (hs.isDeclarable col hcol) fun name members hname => by
      rw [hs.kind_eq col hcol] at hname
      exact hc.members_ne_nil (c.typeTable.get?_of_classify hname)
  cases hkey : s.keyField? with
  | none => exact absurd (List.head?_eq_none_iff.1 hkey) hs.fields_ne_nil
  | some key =>
    have hm : ∃ m, RecordModule.ofSchema? c.codeOptions s = some m := by
      rw [RecordModule.ofSchema?, hkey]
      exact ⟨_, rfl⟩
    obtain ⟨m, hm⟩ := hm
    exact ⟨m, t, hm, ht, RecordModule.declares_of_isOf hc hs (RowType.isOf_ofSchema? ht) hm⟩

end MasterData
