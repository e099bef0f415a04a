-- SUMMARY: Every type that a module names is built in, imported or declared in it.
import MasterData.Proofs.Project.ConfiguredEnums
import MasterData.Proofs.Project.Registry

/-! # Closed modules

The type of a field or of a key is a text, made of names and brackets. Its names are those of the kind,
whatever the kind: primitives and the other built-in types, the type of opaque values, and the types of
enumerations. Under a valid configuration the module declares each of these enumerations once, and it
imports what the others need. The names that are imported are reserved, so neither an enumeration nor a
master that a registry accepts has one of them. Main statement: `modules_closed`.
-/

namespace MasterData

open Code

/-! ## Names in types -/

namespace Code

/-- A token that is a name: a word that does not start with a digit. -/
def isName (token : String) : Bool :=
  token.toList.head?.any fun c => Text.isWordPart c && !c.isDigit

/-- The names in the text of a type. -/
def namesIn (type : String) : List String := (tokens type).filter isName

end Code

namespace Naming

theorem not_isDigit_of_not_isNumeral {c : Char} (h : Text.isNumeral c = false) :
    c.isDigit = false := by
  by_cases hc : c.toNat < 128
  · rwa [Text.isNumeral, if_pos hc] at h
  · refine Bool.eq_false_iff.2 fun hdigit => hc ?_
    simp only [Char.isDigit, Bool.and_eq_true, decide_eq_true_eq, UInt32.le_iff_toNat_le] at hdigit
    exact Nat.lt_of_le_of_lt hdigit.2 (by decide)

/-- A type that would start with a numeral gets a letter in front. -/
theorem exists_head?_typeName (name : String) :
    ∃ c, (typeName name).toList.head? = some c ∧ c.isDigit = false := by
  unfold typeName
  split
  · exact ⟨'M', rfl, rfl⟩
  · rename_i c cs _
    have hjoined : ∃ d, (if Text.isNumeral c then 'M' :: c :: cs else c :: cs).head? = some d
        ∧ d.isDigit = false := by
      split
      · exact ⟨'M', rfl, rfl⟩
      · rename_i hnumeral
        exact ⟨c, rfl, not_isDigit_of_not_isNumeral (Bool.eq_false_of_not_eq_true hnumeral)⟩
    generalize (if Text.isNumeral c then 'M' :: c :: cs else c :: cs) = joined at hjoined ⊢
    obtain ⟨d, hfirst, hdigit⟩ := hjoined
    simp only
    split
    · exact ⟨d, by rw [String.toList_append, String.toList_ofList, List.head?_append, hfirst]; rfl,
        hdigit⟩
    · exact ⟨d, by rw [String.toList_ofList, hfirst], hdigit⟩

theorem isName_typeName (name : String) : isName (typeName name) = true := by
  obtain ⟨c, hfirst, hdigit⟩ := exists_head?_typeName name
  have hpart := isWordPart_of_mem_typeName name c (List.mem_of_mem_head? hfirst)
  rw [isName, hfirst, Option.any_some, hpart, hdigit]
  rfl

/-- A number is a word of digits, and no name. -/
theorem isWord_toString (n : Nat) : Code.IsWord (toString n) ∧ isName (toString n) = false := by
  have hdigits : ∀ c ∈ Nat.toDigits 10 n, c.isDigit = true := fun c hc =>
    Nat.isDigit_of_mem_toDigits (by decide) (by decide) hc
  have htext : (toString n).toList = Nat.toDigits 10 n := by
    rw [Nat.toString_eq_ofList_toDigits, String.toList_ofList]
  obtain ⟨c, cs, hcs⟩ := List.exists_cons_of_ne_nil (l := Nat.toDigits 10 n) Nat.toDigits_ne_nil
  refine ⟨⟨fun hempty => ?_, fun d hd => ?_⟩, ?_⟩
  · rw [hempty, hcs] at htext
    cases htext
  · rw [htext] at hd
    simp [Text.isWordPart, Char.isAlphanum, hdigits d hd]
  · have hfirst := hdigits c (hcs ▸ List.mem_cons_self ..)
    simp [isName, hcs, hfirst]

end Naming

/-- The names that the type of a kind is written with. -/
def FieldKind.typeNames : FieldKind → List String
  | primitive p => [p.typeName]
  | string => ["String"]
  | boolean => ["bool"]
  | enumeration name _ => [Naming.typeName name]
  | array element none => "Vec" :: element.typeNames
  | array element (some _) => element.typeNames
  | opaqueType _ => ["FieldValue"]

theorem Naming.namesIn_fieldType (kind : FieldKind) : namesIn (fieldType kind) = kind.typeNames := by
  induction kind with
  | primitive p => cases p <;> exact (congrArg (List.filter isName) tokens_ofList).trans rfl
  | string => exact (congrArg (List.filter isName) tokens_ofList).trans rfl
  | boolean => exact (congrArg (List.filter isName) tokens_ofList).trans rfl
  | opaqueType _ => exact (congrArg (List.filter isName) tokens_ofList).trans rfl
  | enumeration name members =>
    rw [fieldType, namesIn, tokens_of_isWord (isWord_typeName name),
      List.filter_cons_of_pos (isName_typeName name)]
    rfl
  | array element length ih =>
    cases length with
    | none =>
      have hopen : (tokens "Vec<").filter isName = ["Vec"] :=
        (congrArg (List.filter isName) tokens_ofList).trans rfl
      have hclose : (tokens ">").filter isName = [] :=
        (congrArg (List.filter isName) tokens_ofList).trans rfl
      rw [namesIn] at ih
      rw [fieldType, namesIn, tokens_append_of_startsMarked _ (by decide),
        tokens_append_of_endsMarked (by decide), List.filter_append, List.filter_append, hopen, ih,
        hclose, List.append_nil]
      rfl
    | some n =>
      have hopen : (tokens "[").filter isName = [] :=
        (congrArg (List.filter isName) tokens_ofList).trans rfl
      have hmark : (tokens "; ").filter isName = [] :=
        (congrArg (List.filter isName) tokens_ofList).trans rfl
      have hclose : (tokens "]").filter isName = [] :=
        (congrArg (List.filter isName) tokens_ofList).trans rfl
      obtain ⟨hword, hname⟩ := isWord_toString n
      rw [namesIn] at ih
      rw [fieldType, namesIn, tokens_around (endsMarked_append _ (by decide)) hword (by decide),
        tokens_append_of_startsMarked _ (by decide), tokens_append_of_endsMarked (by decide),
        List.filter_append, List.filter_append, List.filter_append,
        List.filter_cons_of_neg (by rw [hname]; exact Bool.false_ne_true), hopen, ih, hmark, hclose]
      simp [FieldKind.typeNames]

/-- The names of types that are always at hand. -/
def builtInTypeNames : List String := Primitive.all.map (·.typeName) ++ ["bool", "String", "Vec"]

/-- A kind that can be declared names types at hand, an enumeration, or the type of opaque values. -/
theorem FieldKind.IsDeclarable.typeNames_cases {kind : FieldKind} (h : kind.IsDeclarable) {name : String}
    (hname : name ∈ kind.typeNames) :
    name ∈ builtInTypeNames
      ∨ name = "FieldValue" ∧ RecordModule.isOpaque (RecordModule.scalarKind kind) = true
      ∨ ∃ enum members, RecordModule.scalarKind kind = .enumeration enum members
        ∧ name = Naming.typeName enum := by
  have hscalar : ∀ {element : FieldKind}, element.isScalar = true → name ∈ element.typeNames →
      name ∈ builtInTypeNames ∨ ∃ enum members, element = .enumeration enum members
        ∧ name = Naming.typeName enum := by
    intro element helement hname
    cases element with
    | primitive p =>
      have hlisted : ∀ p : Primitive, p.typeName ∈ builtInTypeNames := by
        intro p
        cases p <;> decide
      exact .inl (List.mem_singleton.1 hname ▸ hlisted p)
    | string => exact .inl (List.mem_singleton.1 hname ▸ by decide)
    | boolean => exact .inl (List.mem_singleton.1 hname ▸ by decide)
    | enumeration enum members => exact .inr ⟨enum, members, rfl, List.mem_singleton.1 hname⟩
    | array _ _ => cases helement
    | opaqueType _ => cases helement
  cases kind with
  | array element length =>
    have helement : element.isScalar := h.isScalar rfl
    have hcase : name = "Vec" ∨ name ∈ element.typeNames := by
      cases length with
      | none => exact List.mem_cons.1 hname
      | some n => exact .inr hname
    rcases hcase with rfl | hname
    · exact .inl (by decide)
    · exact (hscalar helement hname).imp_right .inr
  | opaqueType _ => exact .inr (.inl ⟨List.mem_singleton.1 hname, rfl⟩)
  | primitive _ | string | boolean | enumeration _ _ => exact (hscalar rfl hname).imp_right .inr

/-! ## Imports -/

namespace RecordModule

variable {m : RecordModule}

/-- Only the names of opaque values and of enumerations depend on the module. -/
theorem imports_facts (m : RecordModule) :
    (m.usesOpaque = true → "FieldValue" ∈ m.imports)
      ∧ ("FromFieldValue" ∈ m.imports ↔ m.enums ≠ [])
      ∧ ("UnknownMember" ∈ m.imports ↔ m.enums ≠ [])
      ∧ m.imports.Nodup ∧ ∀ name ∈ m.imports, Naming.isReservedType name = true := by
  unfold imports
  cases m.usesOpaque <;> by_cases henums : m.enums = []
  all_goals
    simp only [henums, ne_eq, not_true_eq_false, not_false_eq_true, Bool.false_eq_true, or_false,
      or_true, if_true, if_false]
    decide

end RecordModule

/-! ## Names of a registry -/

theorem Registry.not_mem_enums_of_nameFault? {r : Registry} {master : String}
    (h : r.nameFault? master = none) : Naming.typeName master ∉ r.enums := by
  unfold nameFault? at h
  simp only at h
  split_ifs at h with hvalid hreserved henum
  simpa using henum

namespace RecordModule

variable {options : CodeOptions} {s : MasterSchema} {m : RecordModule} {c : Config}

/-- The declared enumerations are configured. -/
theorem exists_of_mem_enums (hm : ofSchema? options s = some m)
    (hkinds : ∀ col ∈ s.fields, col.kind = c.typeTable.classify col.declaredType) :
    ∀ e ∈ m.enums, ∃ name members, (name, members) ∈ c.types.enums.toList
      ∧ e.typeName = Naming.typeName name := by
  intro e he
  rw [enums_of_ofSchema? hm] at he
  obtain ⟨kind, hkind, henum⟩ := List.mem_filterMap.1 (exists_mem_distinctEnums.2 e he)
  obtain ⟨col, hcol, rfl⟩ := List.mem_map.1 hkind
  obtain ⟨name, members, hname, rfl⟩ := exists_of_enumOfKind? henum
  rw [hkinds col hcol] at hname
  exact ⟨name, members, Config.mem_enums_of_get? (c.typeTable.get?_of_classify hname), rfl⟩

/-- The types of a module are those of the kinds of its columns. -/
theorem exists_column_of_type (hm : ofSchema? options s = some m) {type : String}
    (htype : type ∈ m.keyType :: m.fields.map (·.fieldType)) :
    ∃ col ∈ s.fields, type = Naming.fieldType col.kind := by
  obtain ⟨key, hkey, rfl⟩ := Option.map_eq_some_iff.1 hm
  rcases List.mem_cons.1 htype with rfl | htype
  · exact ⟨key, List.mem_of_mem_head? hkey, rfl⟩
  · obtain ⟨f, hf, rfl⟩ := List.mem_map.1 htype
    rw [← List.map_uncurry_zip_eq_zipWith] at hf
    obtain ⟨⟨col, ident⟩, hmem, rfl⟩ := List.mem_map.1 hf
    exact ⟨col, (List.of_mem_zip hmem).1, rfl⟩

theorem usesOpaque_of_mem (hm : ofSchema? options s = some m) {col : Column} (hcol : col ∈ s.fields)
    (h : isOpaque (scalarKind col.kind) = true) : m.usesOpaque = true := by
  obtain ⟨key, -, rfl⟩ := Option.map_eq_some_iff.1 hm
  exact List.any_eq_true.2 ⟨_, List.mem_map_of_mem hcol, h⟩

theorem typeName_of_ofSchema? (hm : ofSchema? options s = some m) :
    m.typeName = Naming.typeName s.masterName := by
  obtain ⟨key, -, rfl⟩ := Option.map_eq_some_iff.1 hm
  rfl

end RecordModule

/-! ## The whole module -/

namespace RecordModule

/-- A name that is at hand in a module of a configuration. -/
inductive HasAtHand (c : Config) (m : RecordModule) (name : String) : Prop where
  /-- The type is always at hand. -/
  | builtIn (h : name ∈ builtInTypeNames)
  /-- The type of opaque values is imported. -/
  | imported (hname : name = "FieldValue") (h : "FieldValue" ∈ m.imports)
  /-- One declaration of the module has the name: that of an enumeration, with the members that the
  configuration has for it. -/
  | declared (enum : String) (members : List String)
    (henum : (enum, members) ∈ c.types.enums.toList) (hname : name = Naming.typeName enum)
    (h : m.enums.filter (·.typeName = name)
      = [⟨name, members.map fun member => (Naming.typeName member, member)⟩])

variable {c : Config} {options : CodeOptions} {s : MasterSchema} {m : RecordModule}

theorem hasAtHand_of_mem_namesIn (hc : c.IsValid) (hm : ofSchema? options s = some m)
    (hkinds : ∀ col ∈ s.fields, col.kind = c.typeTable.classify col.declaredType) {type : String}
    (htype : type ∈ m.keyType :: m.fields.map (·.fieldType)) {name : String}
    (hname : name ∈ namesIn type) : HasAtHand c m name := by
  obtain ⟨col, hcol, rfl⟩ := exists_column_of_type hm htype
  have hdeclarable : col.kind.IsDeclarable :=
    hkinds col hcol ▸ c.typeTable.isDeclarable_classify col.declaredType
  rw [Naming.namesIn_fieldType] at hname
  rcases hdeclarable.typeNames_cases hname with hbuiltIn | ⟨rfl, hvalues⟩ | ⟨enum, members, hkind, rfl⟩
  · exact .builtIn hbuiltIn
  · exact .imported rfl (m.imports_facts.1 (usesOpaque_of_mem hm hcol hvalues))
  · have henums := MasterSchema.hasEnumsOf_of_classify hkinds (Naming.typeName enum)
    have henum := henums col hcol enum members hkind rfl
    exact .declared enum members henum rfl
      (arms_of_mem_enums hm (mem_enums_of_isValid hc hm henum henums ⟨col, hcol, hkind⟩)).1

/-- The enumerations of a module have different names, none of them reserved and all of them configured. -/
theorem typeName_of_mem_enums (hc : c.IsValid) (hm : ofSchema? options s = some m)
    (hkinds : ∀ col ∈ s.fields, col.kind = c.typeTable.classify col.declaredType) :
    (m.enums.map (·.typeName)).Nodup
      ∧ ∀ name ∈ m.enums.map (·.typeName),
        name ∈ (Registry.ofConfig c).enums ∧ Naming.isReservedType name = false := by
  refine ⟨?_, List.forall_mem_map.2 fun e he => ?_⟩
  · rw [enums_of_ofSchema? hm]
    exact nodup_typeName_distinctEnums _
  · obtain ⟨name, members, hmem, htype⟩ := exists_of_mem_enums hm hkinds e he
    obtain ⟨-, hfree, -⟩ := hc.of_mem_enums hmem
    rw [htype]
    exact ⟨List.mem_map_of_mem (List.mem_map_of_mem hmem), hfree⟩

/-- A registry keeps the name of a master apart from those of enumerations and of imports. -/
theorem nodup_names_of_claims (hc : c.IsValid) (hm : ofSchema? options s = some m)
    (hkinds : ∀ col ∈ s.fields, col.kind = c.typeTable.classify col.declaredType)
    {earlier : List MasterSchema} {r r' : Registry}
    (hearlier : earlier.foldlM Registry.claim (Registry.ofConfig c) = .ok r)
    (hclaim : r.claim s = .ok r') :
    (m.typeName :: (m.enums.map (·.typeName) ++ m.imports)).Nodup := by
  have hclaims : (earlier ++ [s]).foldlM Registry.claim (Registry.ofConfig c) = .ok r' := by
    rw [List.foldlM_append, hearlier]
    change [s].foldlM Registry.claim r = .ok r'
    rw [List.foldlM_cons, hclaim]
    rfl
  obtain ⟨hfault, -, -⟩ := Registry.free_of_claims hclaims s (by simp)
  have hfree := Registry.not_isReservedType_of_nameFault? hfault
  have hunconfigured := Registry.not_mem_enums_of_nameFault? hfault
  obtain ⟨-, -, -, himports, hreserved⟩ := m.imports_facts
  obtain ⟨hdistinct, henums⟩ := typeName_of_mem_enums hc hm hkinds
  rw [List.nodup_cons, List.nodup_append, List.mem_append, not_or, typeName_of_ofSchema? hm]
  refine ⟨⟨fun hmem => hunconfigured (henums _ hmem).1, fun hmem => ?_⟩, hdistinct, himports, ?_⟩
  · rw [hreserved _ hmem] at hfree
    cases hfree
  · rintro name hname _ hmem rfl
    have hno := (henums name hname).2
    rw [hreserved name hmem] at hno
    cases hno

end RecordModule

/-- A module of a schema under a valid configuration is closed: each name in the type of its key or of a
field is at hand. What enumerations need is imported exactly if there is one. If a registry of the
configuration accepts the master, the record type, the enumerations and the imports all have different
names. -/
theorem modules_closed {c : Config} (hc : c.IsValid) {options : CodeOptions} {s : MasterSchema}
    {m : RecordModule} (hm : RecordModule.ofSchema? options s = some m)
    (hkinds : ∀ col ∈ s.fields, col.kind = c.typeTable.classify col.declaredType) :
    (∀ type ∈ m.keyType :: m.fields.map (·.fieldType), ∀ name ∈ namesIn type,
        RecordModule.HasAtHand c m name)
      ∧ ("FromFieldValue" ∈ m.imports ↔ m.enums ≠ [])
      ∧ ("UnknownMember" ∈ m.imports ↔ m.enums ≠ [])
      ∧ ∀ (earlier : List MasterSchema) (r r' : Registry),
        earlier.foldlM Registry.claim (Registry.ofConfig c) = .ok r → r.claim s = .ok r' →
        (m.typeName :: (m.enums.map (·.typeName) ++ m.imports)).Nodup := by
  obtain ⟨-, hvalue, hmember, -, -⟩ := m.imports_facts
  exact ⟨fun type htype name hname =>
      RecordModule.hasAtHand_of_mem_namesIn hc hm hkinds htype hname,
    hvalue, hmember, fun earlier r r' hearlier hclaim =>
      RecordModule.nodup_names_of_claims hc hm hkinds hearlier hclaim⟩

/-- A schema with a list of members, an array of a given length and a type that no configuration has. -/
def MasterSchema.chestSchema : MasterSchema where
  masterName := "Chest"
  masterDescription := ""
  keyType := "u32"
  keyColumn := 0
  fields := [⟨0, "u32", .primitive .u32, "id", ""⟩,
    ⟨1, "Element[]", .array (.enumeration "Element" ["Fire", "Water"]) none, "seals", ""⟩,
    ⟨2, "[f32; 3]", .array (.primitive .f32) (some 3), "place", ""⟩,
    ⟨3, "Loot", .opaqueType "Loot", "loot", ""⟩]
  source := ⟨"book.json", "Chest"⟩
  anchor := ⟨1, 0⟩
  dataStartRow := 5

theorem modules_closed_chest :
    (Config.ofTypeNames Config.ownNames).IsValid
      ∧ (∀ col ∈ MasterSchema.chestSchema.fields,
        col.kind = (Config.ofTypeNames Config.ownNames).typeTable.classify col.declaredType)
      ∧ ∃ m r', RecordModule.ofSchema? ⟨"sheetmaster_runtime"⟩ MasterSchema.chestSchema = some m
        ∧ (Registry.ofConfig (Config.ofTypeNames Config.ownNames)).claim MasterSchema.chestSchema = .ok r'
        ∧ "FromFieldValue" ∈ m.imports
        ∧ (m.typeName :: (m.enums.map (·.typeName) ++ m.imports)).Nodup := by
  have hvalid : (Config.ofTypeNames Config.ownNames).IsValid := by decide
  have hkinds : ∀ col ∈ MasterSchema.chestSchema.fields,
      col.kind = (Config.ofTypeNames Config.ownNames).typeTable.classify col.declaredType := by decide
  obtain ⟨m, hm⟩ : ∃ m, RecordModule.ofSchema? ⟨"sheetmaster_runtime"⟩ MasterSchema.chestSchema
      = some m := ⟨_, rfl⟩
  obtain ⟨r', hclaim⟩ : ∃ r', (Registry.ofConfig (Config.ofTypeNames Config.ownNames)).claim
      MasterSchema.chestSchema = .ok r' := ⟨_, by rfl⟩
  obtain ⟨-, hvalue, -, hnames⟩ := modules_closed hvalid hm hkinds
  refine ⟨hvalid, hkinds, m, r', hm, hclaim, hvalue.2 ?_, hnames [] _ _ rfl hclaim⟩
  rw [RecordModule.enums_of_ofSchema? hm]
  decide

end MasterData
