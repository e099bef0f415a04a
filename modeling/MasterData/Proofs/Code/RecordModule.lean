-- SUMMARY: Where the texts that describe a master stand in its module.
import MasterData.Proofs.Code.Comments
import MasterData.Proofs.Code.Naming
import MasterData.Proofs.Record.BlankCells
import MasterData.Proofs.Record.RowType

/-! # Descriptive texts in a module

A schema names its workbook and its sheet and describes the master and its columns. None of these texts
takes part in the code of the module: the items of two modules whose schemas differ in them alone differ
in comments and in the first line. There the name of the workbook stands as it is, so a line feed in it
starts lines of its own; without one the modules have the same lines of code. Main statement:
`MasterSchema.texts_stay_in_comments_unless_broken`.
-/

namespace MasterData

open Code

/-! ## Schemas without texts -/

/-- A schema without the names of its workbook and of its sheet and without descriptions. -/
def MasterSchema.withoutTexts (s : MasterSchema) : MasterSchema :=
  { s with
    masterDescription := ""
    source := ⟨"", ""⟩
    fields := s.fields.map fun c => { c with description := "" } }

/-- The first line of the module of a master, without its end. -/
def SheetSource.headerLine (source : SheetSource) : String :=
  generatedBy ++ " from " ++ source.workbook ++ ", sheet " ++ Text.quoted source.sheet
    ++ ". Do not edit."

/-- Without a line feed in the name of the workbook the first line is a comment as a whole. -/
theorem SheetSource.codeLines_headerLine {source : SheetSource}
    (h : '\n' ∉ source.workbook.toList) : codeLines source.headerLine = [] := by
  have hsheet : '\n' ∉ (Text.quoted source.sheet).toList := fun hmem =>
    (Text.isUnbroken_quoted source.sheet _ hmem).1 rfl
  have hfixed : '\n' ∉ generatedBy.toList ∧ '\n' ∉ " from ".toList ∧ '\n' ∉ ", sheet ".toList
      ∧ '\n' ∉ ". Do not edit.".toList := by decide
  obtain ⟨hmark, hfrom, hcomma, hend⟩ := hfixed
  have hfeed : '\n' ∉ source.headerLine.toList := by
    simp only [headerLine, String.toList_append, List.mem_append, not_or]
    exact ⟨⟨⟨⟨⟨hmark, hfrom⟩, h⟩, hcomma⟩, hsheet⟩, hend⟩
  have hcomment : isCommentLine source.headerLine = true := by
    simp only [headerLine, isCommentLine, String.toList_append, List.append_assoc]
    rfl
  rw [codeLines, Text.pieces_of_not_mem hfeed]
  simp [hcomment]

namespace RecordModule

variable {m : RecordModule}

/-! ## Modules without texts -/

/-- A module without the texts that its schema describes it by. -/
def bare (m : RecordModule) : RecordModule :=
  { m with
    workbook := ""
    sheet := ""
    doc := ""
    fields := m.fields.map fun f => { f with doc := "" } }

theorem bare_ofSchema? (options : CodeOptions) (s : MasterSchema) :
    (ofSchema? options s).map bare = (ofSchema? options s.withoutTexts).map bare := by
  have hkey : s.withoutTexts.keyField? = s.keyField?.map fun c => { c with description := "" } :=
    List.head?_map
  rw [ofSchema?, ofSchema?, hkey, Option.map_map, Option.map_map, Option.map_map]
  congr 1
  funext key
  simp [bare, MasterSchema.withoutTexts, MasterSchema.fieldNames, List.map_zipWith,
    List.zipWith_map_left, Function.comp_def]

/-- The lines that import what a module builds on. -/
def useLine (m : RecordModule) : String :=
  "use " ++ m.runtimePath ++ "::\x7b" ++ ", ".intercalate m.imports ++ "\x7d;"

/-- The items behind the first line that are no comments. -/
def codeItems (m : RecordModule) : List Item :=
  [.blank, .blank, .line m.useLine]
  ++ (m.structItems ++ m.implItems ++ m.enums.flatMap enumItems).filter (!·.isComment)

theorem filter_items (m : RecordModule) :
    m.items.filter (!·.isComment)
      = .line (SheetSource.headerLine ⟨m.workbook, m.sheet⟩) :: m.codeItems := by
  simp [items, headItems, codeItems, Item.isComment, SheetSource.headerLine, useLine]

theorem filter_fieldItems (f : RecordField) :
    (fieldItems f).filter (!·.isComment) = [.line ("pub " ++ f.ident ++ ": " ++ f.fieldType ++ ",")] := by
  unfold fieldItems
  split
  · rfl
  · rfl

/-- The code of a module does not show its texts. -/
theorem codeItems_bare (m : RecordModule) : m.bare.codeItems = m.codeItems := by
  have hstruct : (m.bare.structItems).filter (!·.isComment)
      = m.structItems.filter (!·.isComment) := by
    simp only [structItems, bare, List.filter_append, List.filter_flatMap, filter_fieldItems,
      List.flatMap_map]
    rfl
  have himpl : m.bare.implItems = m.implItems := by
    cases hfields : m.fields with
    | nil => simp [implItems, bare, hfields]
    | cons key rest =>
      simp [implItems, bare, hfields, keyItems, rowItems, loadItems, List.zipIdx_map,
        Function.comp_def]
  have huse : m.bare.useLine = m.useLine := rfl
  have henums : m.bare.enums = m.enums := rfl
  simp only [codeItems, List.filter_append, hstruct, himpl, huse, henums]

theorem codeLines_render (m : RecordModule) :
    codeLines m.render
      = codeLines (SheetSource.headerLine ⟨m.workbook, m.sheet⟩)
        ++ codeLines (Code.render m.bare.codeItems) := by
  rw [RecordModule.render, Code.codeLines_render, filter_items, codeLines_render_line,
    codeItems_bare]

/-! ## Unbroken names -/

/-- A module whose identifiers and types hold no end of a line. -/
structure IsPlain (m : RecordModule) : Prop where
  typeName : Text.IsUnbroken m.typeName
  keyType : Text.IsUnbroken m.keyType
  ident : ∀ f ∈ m.fields, Text.IsUnbroken f.ident
  fieldType : ∀ f ∈ m.fields, Text.IsUnbroken f.fieldType
  enumName : ∀ e ∈ m.enums, Text.IsUnbroken e.typeName
  variant : ∀ e ∈ m.enums, ∀ v ∈ e.variants, Text.IsUnbroken v.1

end RecordModule

namespace Naming

theorem isUnbroken_typeName (name : String) : Text.IsUnbroken (typeName name) := fun c hc =>
  ne_of_isWordPart (isWordPart_of_mem_typeName name c hc)

theorem isUnbroken_snakeCase (name : String) : Text.IsUnbroken (snakeCase name) := fun c hc =>
  ne_of_isWordPart (forall_mem_snakeCase (P := (Text.isWordPart · = true)) rfl
    (List.all_eq_true.1 (by decide)) (fun _ h _ => Text.isWordPart_of_isAlphanumeric h)
    (fun _ h _ hd => Text.isWordPart_of_mem_lowerCase (Text.isWordPart_of_isAlphanumeric h) hd)
    name c hc)

theorem isUnbroken_toString (n : Nat) : Text.IsUnbroken (toString n) := by
  have hdigit : ∀ c : Char, c.isDigit = true → c ≠ '\n' ∧ c ≠ '\r' := by
    intro c hc
    constructor <;> rintro rfl <;> revert hc <;> decide
  intro c hc
  rw [Nat.toString_eq_ofList_toDigits, String.toList_ofList] at hc
  exact hdigit c (Nat.isDigit_of_mem_toDigits (by decide) (by decide) hc)

theorem isUnbroken_fieldIdent (name : String) : Text.IsUnbroken (fieldIdent name) := by
  have hname := isUnbroken_snakeCase name
  unfold fieldIdent
  simp only
  split_ifs
  · exact Text.isUnbroken_append.2 ⟨hname, Text.isUnbroken_ofList (by decide)⟩
  · exact Text.isUnbroken_append.2 ⟨Text.isUnbroken_ofList (by decide), hname⟩
  · exact hname

theorem isUnbroken_freshIdent (taken : List String) {base : String} (h : Text.IsUnbroken base) :
    Text.IsUnbroken (freshIdent taken base) := by
  unfold freshIdent
  split
  · simp only
    cases hfind : ((List.range' 2 (taken.length + 1)).map fun n => base ++ "_" ++ toString n).find?
        fun ident => !taken.contains ident with
    | none => exact h
    | some ident =>
      obtain ⟨n, -, rfl⟩ := List.mem_map.1 (List.mem_of_find?_eq_some hfind)
      rw [Option.getD_some, Text.isUnbroken_append, Text.isUnbroken_append]
      exact ⟨⟨h, Text.isUnbroken_ofList (by decide)⟩, isUnbroken_toString n⟩
  · exact h

theorem isUnbroken_of_mem_fieldIdentsFrom (taken names : List String) :
    ∀ ident ∈ fieldIdentsFrom taken names, Text.IsUnbroken ident := by
  induction names generalizing taken with
  | nil => simp [fieldIdentsFrom]
  | cons name names ih =>
    rw [fieldIdentsFrom, List.forall_mem_cons]
    exact ⟨isUnbroken_freshIdent taken (isUnbroken_fieldIdent name), ih _⟩

theorem isUnbroken_fieldType (k : FieldKind) : Text.IsUnbroken (fieldType k) := by
  induction k with
  | primitive p => cases p <;> exact Text.isUnbroken_ofList (by decide)
  | string | boolean | opaqueType => exact Text.isUnbroken_ofList (by decide)
  | enumeration name _ => exact isUnbroken_typeName name
  | array element length ih =>
    cases length with
    | none => exact ih.between (Text.isUnbroken_ofList (by decide)) (Text.isUnbroken_ofList (by decide))
    | some n =>
      simp only [fieldType, Text.isUnbroken_append]
      exact ⟨⟨⟨⟨Text.isUnbroken_ofList (by decide), ih⟩, Text.isUnbroken_ofList (by decide)⟩,
        isUnbroken_toString n⟩, Text.isUnbroken_ofList (by decide)⟩

end Naming

namespace RecordModule

variable {m : RecordModule}

theorem isUnbroken_of_enumOfKind? {k : FieldKind} {e : EnumType} (h : enumOfKind? k = some e) :
    Text.IsUnbroken e.typeName ∧ ∀ v ∈ e.variants, Text.IsUnbroken v.1 := by
  cases k with
  | enumeration name members =>
    obtain rfl := Option.some.inj h
    refine ⟨Naming.isUnbroken_typeName name, fun v hv => ?_⟩
    obtain ⟨member, -, rfl⟩ := List.mem_map.1 hv
    exact Naming.isUnbroken_typeName member
  | primitive | string | boolean | array | opaqueType => cases h

theorem isPlain_of_ofSchema? {options : CodeOptions} {s : MasterSchema}
    (h : ofSchema? options s = some m) : m.IsPlain := by
  obtain ⟨key, -, rfl⟩ := Option.map_eq_some_iff.1 h
  have hfield : ∀ f ∈ List.zipWith
      (fun (c : Column) ident =>
        (⟨ident, c.fieldName, Naming.fieldType c.kind, Text.trim c.description⟩ : RecordField))
      s.fields (Naming.fieldIdents s.fieldNames),
      Text.IsUnbroken f.ident ∧ Text.IsUnbroken f.fieldType := by
    intro f hf
    rw [← List.map_uncurry_zip_eq_zipWith] at hf
    obtain ⟨⟨c, ident⟩, hmem, rfl⟩ := List.mem_map.1 hf
    exact ⟨Naming.isUnbroken_of_mem_fieldIdentsFrom [] s.fieldNames ident (List.of_mem_zip hmem).2,
      Naming.isUnbroken_fieldType c.kind⟩
  have henum : ∀ e ∈ distinctEnums ((s.fields.map fun c => scalarKind c.kind).filterMap enumOfKind?),
      Text.IsUnbroken e.typeName ∧ ∀ v ∈ e.variants, Text.IsUnbroken v.1 := by
    intro e he
    obtain ⟨k, -, hk⟩ := List.mem_filterMap.1 (exists_mem_distinctEnums.2 e he)
    exact isUnbroken_of_enumOfKind? hk
  exact {
    typeName := Naming.isUnbroken_typeName s.masterName
    keyType := Naming.isUnbroken_fieldType key.kind
    ident := fun f hf => (hfield f hf).1
    fieldType := fun f hf => (hfield f hf).2
    enumName := fun e he => (henum e he).1
    variant := fun e he => (henum e he).2 }

/-! ## Unbroken items -/

theorem IsPlain.isUnbroken_keyItems (h : m.IsPlain) {key : RecordField} (hkey : key ∈ m.fields) :
    ∀ item ∈ m.keyItems key, item.IsUnbroken := by
  have hclone : Text.IsUnbroken (if m.keyClones then ".clone()" else "") := by
    split <;> exact Text.isUnbroken_ofList (by decide)
  simp only [keyItems, List.forall_mem_cons, List.not_mem_nil, false_imp_iff, implies_true, and_true,
    Item.IsUnbroken, Item.written, Text.isUnbroken_append, h.typeName, h.keyType, h.ident key hkey,
    hclone]
  and_intros <;> exact Text.isUnbroken_ofList (by decide)

theorem IsPlain.isUnbroken_rowItems (h : m.IsPlain) : ∀ item ∈ m.rowItems, item.IsUnbroken := by
  simp only [rowItems, List.forall_mem_append]
  refine ⟨⟨⟨⟨?_, ?_⟩, ?_⟩, ?_⟩, ?_⟩
  all_goals
    simp only [List.forall_mem_cons, List.forall_mem_map, List.not_mem_nil, false_imp_iff,
      implies_true, and_true, Item.IsUnbroken, Item.written, Text.isUnbroken_append, h.typeName,
      Text.isUnbroken_quoted, true_and]
  · and_intros <;> exact Text.isUnbroken_ofList (by decide)
  · exact fun _ _ => Text.isUnbroken_ofList (by decide)
  · and_intros <;> exact Text.isUnbroken_ofList (by decide)
  · rintro ⟨f, i⟩ hf
    refine ⟨⟨⟨h.ident f (List.fst_mem_of_mem_zipIdx hf), ?_⟩, Naming.isUnbroken_toString i⟩, ?_⟩
    · exact Text.isUnbroken_ofList (by decide)
    · exact Text.isUnbroken_ofList (by decide)
  · and_intros <;> exact Text.isUnbroken_ofList (by decide)

theorem IsPlain.isUnbroken_enumItems (h : m.IsPlain) {e : EnumType} (he : e ∈ m.enums) :
    ∀ item ∈ enumItems e, item.IsUnbroken := by
  have hvariant := h.variant e he
  simp only [enumItems, List.forall_mem_append]
  refine ⟨⟨⟨⟨?_, ?_⟩, ?_⟩, ?_⟩, ?_⟩
  · simp only [List.forall_mem_cons, List.not_mem_nil, false_imp_iff, implies_true, and_true,
      Item.IsUnbroken, Item.written, Text.isUnbroken_append, h.enumName e he]
    and_intros <;> exact Text.isUnbroken_ofList (by decide)
  · unfold variantItems
    split
    · simp
    · rename_i first rest hvariants
      rw [← hvariants]
      simp only [List.forall_mem_cons, List.forall_mem_map, Item.IsUnbroken, Item.written,
        Text.isUnbroken_append]
      exact ⟨Text.isUnbroken_ofList (by decide), fun v hv =>
        ⟨hvariant v hv, Text.isUnbroken_ofList (by decide)⟩⟩
  · simp only [List.forall_mem_cons, List.not_mem_nil, false_imp_iff, implies_true, and_true,
      Item.IsUnbroken, Item.written, Text.isUnbroken_append, h.enumName e he]
    and_intros <;> exact Text.isUnbroken_ofList (by decide)
  · simp only [List.forall_mem_map, Item.IsUnbroken, Item.written, Text.isUnbroken_append,
      Text.isUnbroken_quoted, true_and]
    intro v hv
    exact ⟨⟨Text.isUnbroken_ofList (by decide), hvariant v hv⟩, Text.isUnbroken_ofList (by decide)⟩
  · simp only [List.forall_mem_cons, List.not_mem_nil, false_imp_iff, implies_true, and_true,
      Item.IsUnbroken, Item.written, Text.isUnbroken_append, h.enumName e he, Text.isUnbroken_quoted]
    and_intros <;> exact Text.isUnbroken_ofList (by decide)

/-! ## Carriage returns -/

/-- The comment in front of the function that loads the asset. -/
def loadDoc (m : RecordModule) (key : RecordField) : String :=
  "Load the `" ++ m.masterName ++ "` asset and index it by `" ++ key.columnName ++ "`."

/-- The texts that a module shows in its comments. -/
def commentTexts (m : RecordModule) : List String :=
  m.doc :: (m.fields.map (·.doc) ++ m.fields.head?.toList.map m.loadDoc)

/-- A module without a carriage return in a comment line: none inside a line of the texts of its
comments, none in a comment that starts inside the first line or inside the import. -/
structure IsClean (m : RecordModule) : Prop where
  header : HasCleanComments (SheetSource.headerLine ⟨m.workbook, m.sheet⟩)
  imports : HasCleanComments m.useLine
  texts : ∀ text ∈ m.commentTexts, Text.HidesReturns text

theorem isClean_blank : Item.blank.IsClean :=
  Item.IsUnbroken.isClean (Text.isUnbroken_ofList (by decide))

theorem forall_headItems (m : RecordModule) :
    (∀ item ∈ m.headItems, item.IsClean)
      ↔ HasCleanComments (SheetSource.headerLine ⟨m.workbook, m.sheet⟩)
        ∧ Text.HidesReturns m.doc ∧ HasCleanComments m.useLine := by
  simp only [headItems, List.forall_mem_cons, isClean_blank, true_and, List.not_mem_nil,
    false_imp_iff, implies_true, and_true]
  rfl

theorem IsPlain.forall_fieldItems (h : m.IsPlain) {f : RecordField} (hf : f ∈ m.fields) :
    (∀ item ∈ fieldItems f, item.IsClean) ↔ Text.HidesReturns f.doc := by
  have hname : Text.IsUnbroken ("pub " ++ f.ident ++ ": ") :=
    (h.ident f hf).between (Text.isUnbroken_ofList (by decide)) (Text.isUnbroken_ofList (by decide))
  have hline : Item.IsClean (.line ("pub " ++ f.ident ++ ": " ++ f.fieldType ++ ",")) :=
    Item.IsUnbroken.isClean ((h.fieldType f hf).between hname (Text.isUnbroken_ofList (by decide)))
  unfold fieldItems
  split
  · rename_i hempty
    have hnone : Text.HidesReturns f.doc := by
      rw [hempty]
      intro line hline
      cases hline
    simp [hline, hnone]
  · rw [List.singleton_append, List.forall_mem_cons, List.forall_mem_singleton]
    exact and_iff_left hline

theorem IsPlain.forall_structItems (h : m.IsPlain) :
    (∀ item ∈ m.structItems, item.IsClean)
      ↔ Text.HidesReturns m.doc ∧ ∀ f ∈ m.fields, Text.HidesReturns f.doc := by
  have hderive : Item.IsClean (.line "#[derive(Clone, Debug, PartialEq)]") :=
    Item.IsUnbroken.isClean (Text.isUnbroken_ofList (by decide))
  have hopen : Item.IsClean (.openBlock ("pub struct " ++ m.typeName ++ " \x7b")) :=
    Item.IsUnbroken.isClean
      (h.typeName.between (Text.isUnbroken_ofList (by decide)) (Text.isUnbroken_ofList (by decide)))
  have hclose : Item.IsClean (.closeBlock "\x7d") :=
    Item.IsUnbroken.isClean (Text.isUnbroken_ofList (by decide))
  have hfields : (∀ item ∈ m.fields.flatMap fieldItems, item.IsClean)
      ↔ ∀ f ∈ m.fields, Text.HidesReturns f.doc := by
    rw [List.forall_mem_flatMap]
    exact forall₂_congr fun f hf => h.forall_fieldItems hf
  rw [structItems, List.forall_mem_append, List.forall_mem_append, hfields]
  simp only [List.forall_mem_cons, isClean_blank, hderive, hopen, hclose, true_and, List.not_mem_nil,
    false_imp_iff, implies_true, and_true]
  rfl

theorem IsPlain.forall_loadItems (h : m.IsPlain) (key : RecordField) :
    (∀ item ∈ m.loadItems key, item.IsClean) ↔ Text.HidesReturns (m.loadDoc key) := by
  have hsignature : Item.IsClean (.openBlock
      ("pub fn load_and_index(store: &dyn AssetStore) -> Result<MasterIndex<" ++ m.typeName
        ++ ">, RuntimeError> \x7b")) :=
    Item.IsUnbroken.isClean
      (h.typeName.between (Text.isUnbroken_ofList (by decide)) (Text.isUnbroken_ofList (by decide)))
  have hcall : Item.IsClean (.line ("<" ++ m.typeName ++ " as MasterRow>::load_and_index(store)")) :=
    Item.IsUnbroken.isClean
      (h.typeName.between (Text.isUnbroken_ofList (by decide)) (Text.isUnbroken_ofList (by decide)))
  have hclose : Item.IsClean (.closeBlock "\x7d") :=
    Item.IsUnbroken.isClean (Text.isUnbroken_ofList (by decide))
  simp only [loadItems, List.forall_mem_cons, isClean_blank, hsignature, hcall, hclose, true_and,
    List.not_mem_nil, false_imp_iff, implies_true, and_true]
  rfl

theorem IsPlain.forall_implItems (h : m.IsPlain) :
    (∀ item ∈ m.implItems, item.IsClean)
      ↔ ∀ key ∈ m.fields.head?.toList, Text.HidesReturns (m.loadDoc key) := by
  cases hfields : m.fields with
  | nil => simp [implItems, hfields]
  | cons key rest =>
    have hmem : key ∈ m.fields := hfields ▸ List.mem_cons_self ..
    have hkey : ∀ item ∈ m.keyItems key, item.IsClean := fun item hitem =>
      (h.isUnbroken_keyItems hmem item hitem).isClean
    have hrow : ∀ item ∈ m.rowItems, item.IsClean := fun item hitem =>
      (h.isUnbroken_rowItems item hitem).isClean
    have himpl : m.implItems = m.keyItems key ++ m.rowItems ++ m.loadItems key := by
      rw [implItems, hfields]
    rw [himpl, List.forall_mem_append, List.forall_mem_append, h.forall_loadItems,
      and_iff_right ⟨hkey, hrow⟩]
    simp

/-- The comment lines of a module are clean exactly if its texts are. -/
theorem IsPlain.hasCleanComments_render (h : m.IsPlain) :
    HasCleanComments m.render ↔ m.IsClean := by
  have henums : ∀ item ∈ m.enums.flatMap enumItems, item.IsClean := by
    intro item hitem
    obtain ⟨e, he, hitem⟩ := List.mem_flatMap.1 hitem
    exact (h.isUnbroken_enumItems he item hitem).isClean
  rw [RecordModule.render, Code.hasCleanComments_render, items, List.forall_mem_append,
    List.forall_mem_append, List.forall_mem_append, forall_headItems, h.forall_structItems,
    h.forall_implItems]
  constructor
  · rintro ⟨⟨⟨⟨hheader, hdoc, huse⟩, -, hfields⟩, hload⟩, -⟩
    refine ⟨hheader, huse, List.forall_mem_cons.2 ⟨hdoc, List.forall_mem_append.2 ⟨?_, ?_⟩⟩⟩
    · exact List.forall_mem_map.2 hfields
    · exact List.forall_mem_map.2 hload
  · rintro ⟨hheader, huse, htexts⟩
    obtain ⟨hdoc, hrest⟩ := List.forall_mem_cons.1 htexts
    obtain ⟨hfields, hload⟩ := List.forall_mem_append.1 hrest
    exact ⟨⟨⟨⟨hheader, hdoc, huse⟩, hdoc, List.forall_mem_map.1 hfields⟩,
      List.forall_mem_map.1 hload⟩, henums⟩

end RecordModule

/-! ## Texts stay in comments -/

/-- A schema whose texts leave the comment lines of its module clean. -/
def MasterSchema.HasCleanTexts (options : CodeOptions) (s : MasterSchema) : Prop :=
  ∀ m, RecordModule.ofSchema? options s = some m → m.IsClean

theorem MasterSchema.codeLines_source? {options : CodeOptions} {s : MasterSchema} {m : RecordModule}
    (hm : RecordModule.ofSchema? options s = some m) :
    codeLines m.render
      = codeLines s.source.headerLine ++ codeLines (Code.render m.bare.codeItems) := by
  obtain ⟨key, -, rfl⟩ := Option.map_eq_some_iff.1 hm
  exact RecordModule.codeLines_render _

theorem MasterSchema.hasCleanComments_source? {options : CodeOptions} {s : MasterSchema}
    {m : RecordModule} (hm : RecordModule.ofSchema? options s = some m) :
    HasCleanComments m.render ↔ s.HasCleanTexts options := by
  rw [(RecordModule.isPlain_of_ofSchema? hm).hasCleanComments_render]
  constructor
  · intro hclean m' hm'
    rwa [Option.some.inj (hm'.symm.trans hm)]
  · exact fun hclean => hclean m hm

/-- Schemas that differ only in the names of workbook and sheet and in descriptions have modules with
the same lines of code behind what the first line leaves outside of its comment: nothing, unless the name
of the workbook holds a line feed. The comment lines hold no carriage return exactly if no text keeps one
inside a line. -/
theorem MasterSchema.texts_stay_in_comments_unless_broken (options : CodeOptions) {s s' : MasterSchema}
    (h : s.withoutTexts = s'.withoutTexts) :
    (s.source? options).isSome = (s'.source? options).isSome
      ∧ ∀ source source', s.source? options = some source → s'.source? options = some source' →
        (∃ rest, codeLines source = codeLines s.source.headerLine ++ rest
          ∧ codeLines source' = codeLines s'.source.headerLine ++ rest)
        ∧ ('\n' ∉ s.source.workbook.toList → codeLines s.source.headerLine = [])
        ∧ ('\n' ∉ s'.source.workbook.toList → codeLines s'.source.headerLine = [])
        ∧ (HasCleanComments source ↔ s.HasCleanTexts options)
        ∧ (HasCleanComments source' ↔ s'.HasCleanTexts options) := by
  have hbare : (RecordModule.ofSchema? options s).map RecordModule.bare
      = (RecordModule.ofSchema? options s').map RecordModule.bare := by
    rw [RecordModule.bare_ofSchema?, RecordModule.bare_ofSchema? options s', h]
  refine ⟨?_, fun source source' hsource hsource' => ?_⟩
  · have hsome := congrArg Option.isSome hbare
    simpa only [source?, Option.isSome_map] using hsome
  · obtain ⟨m, hm, rfl⟩ := Option.map_eq_some_iff.1 hsource
    obtain ⟨m', hm', rfl⟩ := Option.map_eq_some_iff.1 hsource'
    rw [hm, hm'] at hbare
    have hsame : m.bare = m'.bare := Option.some.inj hbare
    exact ⟨⟨codeLines (Code.render m.bare.codeItems), codeLines_source? hm,
        hsame ▸ codeLines_source? hm'⟩,
      SheetSource.codeLines_headerLine, SheetSource.codeLines_headerLine,
      hasCleanComments_source? hm, hasCleanComments_source? hm'⟩

/-- A schema like `idSchema` whose workbook has a line feed in its name and whose description has a
carriage return inside a line. -/
def MasterSchema.tornSchema : MasterSchema :=
  { idSchema with
    masterDescription := "first\rsecond"
    source := ⟨"bo\nok.json", "Loot"⟩ }

theorem MasterSchema.codeLines_tornSchema :
    codeLines tornSchema.source.headerLine = ["ok.json, sheet \"Loot\". Do not edit."] := by
  decide +kernel

/-- The rest of the name of the workbook stands in front of the code. -/
theorem MasterSchema.texts_stay_in_comments_tornSchema :
    idSchema.withoutTexts = tornSchema.withoutTexts
      ∧ ∃ source source', idSchema.source? ⟨"sheetmaster_runtime"⟩ = some source
        ∧ tornSchema.source? ⟨"sheetmaster_runtime"⟩ = some source'
        ∧ codeLines source' = "ok.json, sheet \"Loot\". Do not edit." :: codeLines source := by
  have hsame : idSchema.withoutTexts = tornSchema.withoutTexts := rfl
  obtain ⟨source, hsource⟩ : ∃ source, idSchema.source? ⟨"sheetmaster_runtime"⟩ = some source :=
    ⟨_, rfl⟩
  obtain ⟨source', hsource'⟩ : ∃ source, tornSchema.source? ⟨"sheetmaster_runtime"⟩ = some source :=
    ⟨_, rfl⟩
  obtain ⟨-, h⟩ := texts_stay_in_comments_unless_broken ⟨"sheetmaster_runtime"⟩ hsame
  obtain ⟨⟨rest, hcode, hcode'⟩, hwhole, -⟩ := h source source' hsource hsource'
  refine ⟨hsame, source, source', hsource, hsource', ?_⟩
  rw [hcode, hcode', hwhole (by decide), codeLines_tornSchema]
  rfl

/-- A line feed in the name of a workbook makes a line of code, and a carriage return inside a line of a
description stays in a comment. -/
theorem MasterSchema.not_texts_stay_in_comments_tornSchema :
    idSchema.withoutTexts = tornSchema.withoutTexts
      ∧ ∃ source source', idSchema.source? ⟨"sheetmaster_runtime"⟩ = some source
        ∧ tornSchema.source? ⟨"sheetmaster_runtime"⟩ = some source'
        ∧ codeLines source ≠ codeLines source' ∧ ¬ HasCleanComments source' := by
  obtain ⟨m, hm⟩ : ∃ m, RecordModule.ofSchema? ⟨"sheetmaster_runtime"⟩ idSchema = some m := ⟨_, rfl⟩
  obtain ⟨m', hm'⟩ : ∃ m, RecordModule.ofSchema? ⟨"sheetmaster_runtime"⟩ tornSchema = some m :=
    ⟨_, rfl⟩
  refine ⟨rfl, m.render, m'.render, by rw [source?, hm]; rfl, by rw [source?, hm']; rfl,
    fun heq => ?_, fun hclean => ?_⟩
  · have hbare : m.bare = m'.bare := by
      rw [← Option.some.inj hm, ← Option.some.inj hm']
      rfl
    rw [codeLines_source? hm, codeLines_source? hm', hbare] at heq
    have hleft := List.append_cancel_right heq
    rw [SheetSource.codeLines_headerLine (by decide), codeLines_tornSchema] at hleft
    cases hleft
  · have htexts := ((hasCleanComments_source? hm').1 hclean m' hm').texts
    have hdoc : m'.doc = "first\rsecond" := by
      rw [← Option.some.inj hm']
      decide +kernel
    have hhides := htexts m'.doc (List.mem_cons_self ..)
    rw [hdoc] at hhides
    exact hhides "first\rsecond" (by decide +kernel) (by decide +kernel)

end MasterData
