-- SUMMARY: The list of fields in a module and the one in the asset.
import MasterData.Proofs.Code.Blocks
import MasterData.Proofs.Code.RecordModule
import MasterData.Proofs.Project.CarryForward

/-! # Lists of fields

A module lists the names of its fields as literals, and an asset is only loaded if it has exactly these
fields. The list is read off the source here, literal by literal: it holds the columns of the schema in
their order, whatever characters are in their names, and so does the asset that a run saves.
Main statement: `literals_denote_texts`.
-/

namespace MasterData

open Code

/-! ## Reading a list of fields -/

namespace Code

/-- The text of a literal that is an item of a list. -/
def listedLiteral? (line : String) : Option String :=
  match literalLine? line with
  | some ([], text, [","]) => some text
  | _ => none

theorem listedLiteral?_quoted (text : String) : listedLiteral? (Text.quoted text ++ ",") = some text := by
  have hcomma : tokens "," = [","] := rfl
  rw [listedLiteral?, literalLine?_quoted, hcomma]
  rfl

theorem listedLiteral?_indented (depth : Nat) (text : String) :
    listedLiteral? (indented depth text) = listedLiteral? text := by
  rw [listedLiteral?, literalLine?_indented, listedLiteral?]

/-- The head of a list of fields. -/
def fieldsHead : String := "const FIELDS: &'static [&'static str] = &["

/-- The last list of fields in a source. -/
def fieldList? (source : String) : Option (List String) :=
  (lastBlock? (tokens fieldsHead) (tokens "];") (codeLines source)).bind (·.mapM listedLiteral?)

theorem getLast?_tokens_fieldsHead : (tokens fieldsHead).getLast? = some "[" :=
  (congrArg List.getLast? tokens_ofList).trans rfl

theorem ne_tokens_fieldsHead {text : String} (h : (tokens text).getLast? ≠ some "[") :
    tokens text ≠ tokens fieldsHead :=
  fun heq => h (heq ▸ getLast?_tokens_fieldsHead)

/-- A line that is put together does not end like the head if its last piece does not. -/
theorem ne_tokens_fieldsHead_append (s : String) {cs : List Char}
    (h : cs.head?.any (!Text.isWordPart ·) = true)
    (hlast : (tokensFrom [] cs).getLast?.any (· ≠ "[") = true) :
    tokens (s ++ String.ofList cs) ≠ tokens fieldsHead := by
  obtain ⟨last, hlast, hne⟩ := (Option.any_eq_true _ _).1 hlast
  refine ne_tokens_fieldsHead fun heq => of_decide_eq_true hne ?_
  exact Option.some.inj ((getLast?_tokens_append s h hlast).symm.trans heq)

theorem ne_tokens_fieldsHead_ofList {cs : List Char} (h : (tokensFrom [] cs).getLast? ≠ some "[") :
    tokens (String.ofList cs) ≠ tokens fieldsHead :=
  ne_tokens_fieldsHead (tokens_ofList.symm ▸ h)

end Code

/-! ## The list of a module -/

namespace RecordModule

variable {m : RecordModule}

/-- The items of a module behind the list of its fields. -/
def itemsBehindFields (m : RecordModule) (key : RecordField) : List Item :=
  [.blank,
    .openBlock "fn from_record(record: &MasterRecord) -> Self \x7b",
    .openBlock "Self \x7b"]
  ++ m.fields.zipIdx.map (fun (f, i) =>
    .line (f.ident ++ ": record.decode(" ++ toString i ++ "),"))
  ++ [.closeBlock "\x7d", .closeBlock "\x7d", .closeBlock "\x7d"]
  ++ m.loadItems key
  ++ m.enums.flatMap enumItems

theorem exists_items_eq (m : RecordModule) {key : RecordField} {rest : List RecordField}
    (h : m.fields = key :: rest) :
    ∃ before, m.items = before ++ .openBlock fieldsHead
      :: (m.fields.map (fun f => .line (Text.quoted f.columnName ++ ","))
        ++ .closeBlock "];" :: m.itemsBehindFields key) := by
  refine ⟨m.headItems ++ m.structItems ++ m.keyItems key ++ [.blank,
    .openBlock ("impl MasterRow for " ++ m.typeName ++ " \x7b"),
    .line ("const MASTER_NAME: &'static str = " ++ Text.quoted m.masterName ++ ";")], ?_⟩
  have himpl : m.implItems = m.keyItems key ++ m.rowItems ++ m.loadItems key := by
    rw [implItems, h]
  simp only [items, himpl, rowItems, itemsBehindFields, fieldsHead, List.append_assoc,
    List.cons_append, List.nil_append]

theorem ne_tokens_fieldsHead_enumItems (e : EnumType) :
    ∀ item ∈ enumItems e, ∀ text ∈ item.contents, tokens text ≠ tokens fieldsHead := by
  have hvariants : ∀ item ∈ variantItems e, ∀ text ∈ item.contents,
      tokens text ≠ tokens fieldsHead := by
    unfold variantItems
    split
    · simp
    · simp only [List.forall_mem_cons, List.forall_mem_map, Item.contents, List.not_mem_nil,
        false_imp_iff, implies_true, and_true]
      exact ⟨ne_tokens_fieldsHead_ofList (by decide),
        ne_tokens_fieldsHead_append _ (by decide) (by decide), fun _ _ =>
        ne_tokens_fieldsHead_append _ (by decide) (by decide)⟩
  simp only [enumItems, List.forall_mem_append]
  refine ⟨⟨⟨⟨?_, hvariants⟩, ?_⟩, ?_⟩, ?_⟩
  all_goals
    simp only [List.forall_mem_cons, List.forall_mem_map, Item.contents, List.not_mem_nil,
      false_imp_iff, implies_true, and_true]
  · and_intros
    · exact ne_tokens_fieldsHead_ofList (by decide)
    · exact ne_tokens_fieldsHead_ofList (by decide)
    · exact ne_tokens_fieldsHead_append _ (by decide) (by decide)
  · and_intros
    · exact ne_tokens_fieldsHead_ofList (by decide)
    · exact ne_tokens_fieldsHead_ofList (by decide)
    · exact ne_tokens_fieldsHead_append _ (by decide) (by decide)
    all_goals exact ne_tokens_fieldsHead_ofList (by decide)
  · exact fun _ _ => ne_tokens_fieldsHead_append _ (by decide) (by decide)
  · and_intros
    · exact ne_tokens_fieldsHead_append _ (by decide) (by decide)
    · exact ne_tokens_fieldsHead_ofList (by decide)
    · exact ne_tokens_fieldsHead_ofList (by decide)
    · exact ne_tokens_fieldsHead_ofList (by decide)
    · exact ne_tokens_fieldsHead_ofList (by decide)
    · exact ne_tokens_fieldsHead_append _ (by decide) (by decide)
    all_goals exact ne_tokens_fieldsHead_ofList (by decide)

theorem ne_tokens_fieldsHead_loadItems (m : RecordModule) (key : RecordField) :
    ∀ item ∈ m.loadItems key, item.isComment = false →
      ∀ text ∈ item.contents, tokens text ≠ tokens fieldsHead := by
  simp only [loadItems, List.forall_mem_cons, Item.isComment, Item.contents, List.not_mem_nil,
    false_imp_iff, implies_true, and_true, true_and, forall_const, reduceCtorEq]
  and_intros
  · exact ne_tokens_fieldsHead_ofList (by decide)
  · exact ne_tokens_fieldsHead_append _ (by decide) (by decide)
  · exact ne_tokens_fieldsHead_append _ (by decide) (by decide)
  · exact ne_tokens_fieldsHead_ofList (by decide)

theorem IsPlain.isUnbroken_loadItems (h : m.IsPlain) (key : RecordField) :
    ∀ item ∈ m.loadItems key, item.isComment = false → item.IsUnbroken := by
  simp only [loadItems, List.forall_mem_cons, Item.isComment, List.not_mem_nil,
    false_imp_iff, implies_true, and_true, true_and, forall_const, reduceCtorEq,
    Item.IsUnbroken, Item.written, Text.isUnbroken_append, h.typeName]
  and_intros <;> exact Text.isUnbroken_ofList (by decide)

/-- No item behind the list of fields, unless it is a comment, has the head of the list again. -/
theorem IsPlain.itemsBehindFields (h : m.IsPlain) (key : RecordField) :
    ∀ item ∈ m.itemsBehindFields key, item.isComment = false →
      item.IsUnbroken ∧ ∀ text ∈ item.contents, tokens text ≠ tokens fieldsHead := by
  simp only [RecordModule.itemsBehindFields, List.forall_mem_append]
  refine ⟨⟨⟨⟨?_, ?_⟩, ?_⟩, ?_⟩, ?_⟩
  · simp only [List.forall_mem_cons, Item.contents, List.not_mem_nil, false_imp_iff, implies_true,
      and_true, Item.IsUnbroken, Item.written]
    refine ⟨fun _ => ⟨?_, ?_⟩, fun _ => ⟨?_, ?_⟩, fun _ => ⟨?_, ?_⟩⟩
    all_goals first
      | exact Text.isUnbroken_ofList (by decide)
      | exact ne_tokens_fieldsHead_ofList (by decide)
  · intro item hitem _
    refine ⟨h.isUnbroken_rowItems item (List.mem_append_left _ (List.mem_append_right _ hitem)), ?_⟩
    obtain ⟨⟨f, i⟩, -, rfl⟩ := List.mem_map.1 hitem
    exact List.forall_mem_singleton.2 (ne_tokens_fieldsHead_append _ (by decide) (by decide))
  · intro item hitem _
    refine ⟨h.isUnbroken_rowItems item (List.mem_append_right _ hitem), ?_⟩
    obtain rfl : item = .closeBlock "\x7d" := by simpa using hitem
    exact List.forall_mem_singleton.2 (ne_tokens_fieldsHead_ofList (by decide))
  · exact fun item hitem hcode => ⟨h.isUnbroken_loadItems key item hitem hcode,
      m.ne_tokens_fieldsHead_loadItems key item hitem hcode⟩
  · refine List.forall_mem_flatMap.2 fun e he item hitem _ => ?_
    exact ⟨h.isUnbroken_enumItems he item hitem, ne_tokens_fieldsHead_enumItems e item hitem⟩

/-- The list of fields that stands in a module holds the columns of its fields. -/
theorem IsPlain.fieldList?_render (h : m.IsPlain) (hne : m.fields ≠ []) :
    fieldList? m.render = some (m.fields.map (·.columnName)) := by
  obtain ⟨key, rest, hfields⟩ := List.exists_cons_of_ne_nil hne
  obtain ⟨before, hitems⟩ := m.exists_items_eq hfields
  have hhead : (Item.openBlock fieldsHead).IsCode :=
    ⟨Text.isUnbroken_ofList (by decide), rfl,
      List.forall_mem_singleton.2 (isCommentLine_ofList (by decide))⟩
  have hclose : (Item.closeBlock "];").IsCode :=
    ⟨Text.isUnbroken_ofList (by decide), rfl,
      List.forall_mem_singleton.2 (isCommentLine_ofList (by decide))⟩
  have hwords : tokens fieldsHead ≠ [] := fun hnil => by
    have hlast := getLast?_tokens_fieldsHead
    rw [hnil] at hlast
    cases hlast
  have hlines : ∀ item ∈ m.fields.map fun f => Item.line (Text.quoted f.columnName ++ ","),
      item.IsCode := by
    refine List.forall_mem_map.2 fun f _ => ⟨?_, rfl, ?_⟩
    · exact Text.isUnbroken_append.2
        ⟨Text.isUnbroken_quoted f.columnName, Text.isUnbroken_ofList (by decide)⟩
    · exact List.forall_mem_singleton.2 (isCommentLine_quoted_append ..)
  have hcontents : (m.fields.map fun f => Item.line (Text.quoted f.columnName ++ ",")).flatMap
      Item.contents = (m.fields.map (·.columnName)).map fun name => Text.quoted name ++ "," := by
    rw [contents_map_line, List.map_map]
    rfl
  have hnames : ∀ text ∈ (m.fields.map fun f => Item.line (Text.quoted f.columnName ++ ",")).flatMap
      Item.contents, tokens text ≠ tokens fieldsHead ∧ tokens text ≠ tokens "];" := by
    rw [hcontents]
    refine List.forall_mem_map.2 fun name _ => ⟨?_, fun heq => ?_⟩
    · exact ne_tokens_fieldsHead_append _ (by decide) (by decide)
    · have hfirst := head?_tokens_quoted_append name ","
      have hbracket : (tokens "];").head? = some "]" := rfl
      rw [heq, hbracket] at hfirst
      exact absurd hfirst (by decide)
  obtain ⟨depth, hblock⟩ := lastBlock?_render before hhead hclose hwords
    (ne_tokens_fieldsHead_ofList (by decide)) hlines hnames (h.itemsBehindFields key)
  rw [fieldList?, RecordModule.render, hitems, hblock, Option.bind_some,
    mapM_linesOf listedLiteral?_indented, hcontents]
  exact Json.mapM_map_eq_some fun name _ => listedLiteral?_quoted name

/-- The fields of a module are named after the columns of the schema. -/
theorem map_columnName_of_ofSchema? {options : CodeOptions} {s : MasterSchema}
    (hm : ofSchema? options s = some m) : m.fields.map (·.columnName) = s.fieldNames := by
  obtain ⟨key, -, rfl⟩ := Option.map_eq_some_iff.1 hm
  refine map_fields ?_ fun _ _ => rfl
  rw [Naming.length_fieldIdents, MasterSchema.fieldNames, List.length_map]

theorem fieldList?_of_ofSchema? {options : CodeOptions} {s : MasterSchema}
    (hm : ofSchema? options s = some m) : fieldList? m.render = some s.fieldNames := by
  have hcolumns := map_columnName_of_ofSchema? hm
  have hne : m.fields ≠ [] := by
    intro hnil
    obtain ⟨key, hkey, -⟩ := Option.map_eq_some_iff.1 hm
    rw [hnil, List.map_nil, MasterSchema.fieldNames] at hcolumns
    rw [MasterSchema.keyField?, List.map_eq_nil_iff.1 hcolumns.symm] at hkey
    cases hkey
  rw [(isPlain_of_ofSchema? hm).fieldList?_render hne, hcolumns]

end RecordModule

/-! ## Literals of a project -/

/-- Every text has one literal: it stands between quotes on one line, and reads back as the text, whatever
follows, so different names have different literals. The list of fields that is read off a module holds
the columns of its schema, and so does the asset that is saved for it. -/
theorem literals_denote_texts :
    (∀ text : String,
        (∃ inside, Text.quoted text = "\"" ++ inside ++ "\"") ∧ Text.IsUnbroken (Text.quoted text)
        ∧ ∀ rest, Text.readLiteral? ((Text.quoted text).toList ++ rest) = some (text, rest))
      ∧ Function.Injective Text.quoted
      ∧ ∀ (options : CodeOptions) (s : MasterSchema) (m : RecordModule),
        RecordModule.ofSchema? options s = some m →
          fieldList? m.render = some s.fieldNames
          ∧ ∀ (store : FolderStore) (w : Workbook) (path : String) (d d' : Disk)
              (report : MasterReport), materializeMaster store w path s d = (.ok report, d') →
            ∃ a : Asset, d'.readText (store.assetPath s.masterName) = .ok a.render
              ∧ fieldList? m.render = some a.fields := by
  refine ⟨fun text => ⟨⟨String.ofList (text.toList.flatMap (Text.escapeChar '"')), ?_⟩,
    Text.isUnbroken_quoted text, Text.readLiteral?_quoted text⟩, Text.quoted_injective,
    fun options s m hm => ⟨RecordModule.fieldList?_of_ofSchema? hm, ?_⟩⟩
  · rw [← String.toList_inj, Text.toList_quoted]
    simp
  · intro store w path d d' report hsaved
    obtain ⟨sheet, prior, -, -, htext⟩ := exists_of_materializeMaster hsaved
    exact ⟨_, htext, RecordModule.fieldList?_of_ofSchema? hm⟩

/-- A schema with a column whose name holds a quote, a backslash before a brace, and a mark that attaches
to the character before it. -/
def quotingSchema : MasterSchema :=
  gadgetSchema [⟨1, "string", .string, "\"\\\x7b1\x7d\"e\u0301 0", ""⟩]

theorem literals_denote_texts_quoting :
    Text.quoted "\"\\\x7b1\x7d\"e\u0301 0" = "\"\\\"\\\\\x7b1\x7d\\\"e\\u\x7b301\x7d 0\""
      ∧ ∃ (m : RecordModule) (a : Asset),
        RecordModule.ofSchema? ⟨"sheetmaster_runtime"⟩ quotingSchema = some m
        ∧ (materializeMaster ⟨"assets"⟩ (.document gadgetBook) "book.json" quotingSchema
            .empty).2.readText "assets/Gadget.json" = .ok a.render
        ∧ fieldList? m.render = some ["id", "\"\\\x7b1\x7d\"e\u0301 0"]
        ∧ fieldList? m.render = some a.fields := by
  obtain ⟨m, hm⟩ : ∃ m, RecordModule.ofSchema? ⟨"sheetmaster_runtime"⟩ quotingSchema = some m :=
    ⟨_, rfl⟩
  have hsaved : materializeMaster ⟨"assets"⟩ (.document gadgetBook) "book.json" quotingSchema .empty
      = (.ok ⟨"Gadget", 2, [⟨"0", 0, 1⟩], "assets/Gadget.json"⟩, _) :=
    eq_mk_of_fst_eq (by decide +kernel)
  obtain ⟨hfields, hasset⟩ := literals_denote_texts.2.2 _ _ m hm
  obtain ⟨a, htext, ha⟩ := hasset _ _ _ _ _ _ hsaved
  exact ⟨by decide +kernel, m, a, hm, htext, hfields, ha⟩

end MasterData
