-- SUMMARY: The match of a generated enumeration, read off its source and run.
import MasterData.Proofs.Code.Blocks
import MasterData.Proofs.Code.RecordModule
import MasterData.Record.FieldType

/-! # Matches on members

An enumeration is parsed from a text by a match whose arms are literals, with an arm behind them for any
other text. The arms are read off the source of a module here and run: the first one that fits gives the
result. For the texts of its members the match of an enumeration gives their variants, and for every other
text an error that names the enumeration and the text. Main statements: `RecordModule.memberArms?_render`
and `EnumType.runArms_arms`.
-/

namespace MasterData

open Code

/-! ## Arms -/

namespace Code

/-- An arm of a match on the text of a member. -/
inductive MemberArm where
  /-- One text gives a variant. -/
  | known (member variant : String)
  /-- Any text fits, and is no member of an enumeration. -/
  | unknown (enum : String)
  deriving DecidableEq

/-- What a match gives for a text: the result of the first arm that fits. -/
def runArms (text : String) : List MemberArm → Option (Except UnknownMember String)
  | [] => none
  | .known member variant :: rest =>
    if text = member then some (.ok variant) else runArms text rest
  | .unknown enum :: _ => some (.error ⟨enum, text⟩)

/-- The arm on a line. -/
def memberArm? (line : String) : Option MemberArm :=
  match literalLine? line with
  | some ([], member, ["=", ">", "Ok", "(", "Self", ":", ":", variant, ")", ","]) =>
    some (.known member variant)
  | some (["other", "=", ">", "Err", "(", "UnknownMember", ":", ":", "new", "("], enum,
      [",", "other", ")", ")", ","]) => some (.unknown enum)
  | _ => none

/-- The head of the block that parses an enumeration. -/
def parserHead (typeName : String) : String :=
  "impl std::str::FromStr for " ++ typeName ++ " \x7b"

/-- The lines of the block before its arms, as tokens. -/
def matchHead : List (List String) := [
  ["type", "Err", "=", "UnknownMember", ";"],
  [],
  ["fn", "from_str", "(", "s", ":", "&", "str", ")", "-", ">", "Result", "<", "Self", ",", "Self",
    ":", ":", "Err", ">", "\x7b"],
  ["match", "s", "\x7b"]]

/-- The arms of the last match in a source that parses an enumeration. -/
def memberArms? (typeName source : String) : Option (List MemberArm) :=
  (lastBlock? (tokens (parserHead typeName)) ["\x7d"] (codeLines source)).bind fun lines =>
    if (lines.take 4).map tokens = matchHead then (lines.drop 4).mapM memberArm? else none

/-! ## Tokens of the head -/

theorem tokens_parserHead {typeName : String} (h : IsWord typeName) :
    tokens (parserHead typeName)
      = ["impl", "std", ":", ":", "str", ":", ":", "FromStr", "for", typeName, "\x7b"] :=
  (tokens_around_ofList (by decide) h (by decide)).trans rfl

theorem memberArm?_indented (depth : Nat) (text : String) :
    memberArm? (indented depth text) = memberArm? text := by
  rw [memberArm?, literalLine?_indented, memberArm?]

theorem memberArm?_known (member : String) {variant : String} (h : IsWord variant) :
    memberArm? (Text.quoted member ++ " => Ok(Self::" ++ variant ++ "),")
      = some (.known member variant) := by
  have htokens : tokens (" => Ok(Self::" ++ variant ++ "),")
      = ["=", ">", "Ok", "(", "Self", ":", ":", variant, ")", ","] :=
    (tokens_around_ofList (by decide) h (by decide)).trans rfl
  rw [memberArm?, String.append_assoc, String.append_assoc, literalLine?_quoted,
    ← String.append_assoc, htokens]
  rfl

theorem memberArm?_unknown (typeName : String) :
    memberArm? ("other => Err(UnknownMember::new(" ++ Text.quoted typeName ++ ", other)),")
      = some (.unknown typeName) := by
  have hbefore : tokens "other => Err(UnknownMember::new("
      = ["other", "=", ">", "Err", "(", "UnknownMember", ":", ":", "new", "("] :=
    tokens_ofList.trans rfl
  have hbehind : tokens ", other)),"  = [",", "other", ")", ")", ","] := tokens_ofList.trans rfl
  rw [memberArm?, literalLine?_append _ (by decide), hbefore, hbehind]
  rfl

/-- Lines that start or end with another token are no head. -/
theorem ne_tokens_parserHead {typeName text : String} (h : IsWord typeName)
    (hother : (tokens text).head? ≠ some "impl" ∨ (tokens text).getLast? ≠ some "\x7b") :
    tokens text ≠ tokens (parserHead typeName) := by
  intro heq
  rw [heq, tokens_parserHead h] at hother
  rcases hother with hfirst | hlast
  · exact hfirst rfl
  · exact hlast rfl

theorem ne_tokens_parserHead_ofList {typeName : String} (h : IsWord typeName) {cs : List Char}
    (hother : (tokensFrom [] cs).head? ≠ some "impl" ∨ (tokensFrom [] cs).getLast? ≠ some "\x7b") :
    tokens (String.ofList cs) ≠ tokens (parserHead typeName) := by
  refine ne_tokens_parserHead h ?_
  rwa [tokens_ofList]

end Code

/-! ## Enumerations -/

namespace EnumType

/-- An enumeration whose name and variants are words. -/
structure IsSpelled (e : EnumType) : Prop where
  typeName : IsWord e.typeName
  variant : ∀ v ∈ e.variants, IsWord v.1

/-- The arms that parse an enumeration. -/
def arms (e : EnumType) : List MemberArm :=
  (e.variants.map fun (variant, member) => .known member variant) ++ [.unknown e.typeName]

/-- The match of an enumeration gives the variant of a member, and an error for any other text. -/
theorem runArms_arms (e : EnumType) (text : String) :
    runArms text e.arms
      = some (((e.variants.find? (·.2 = text)).map (.ok ·.1)).getD (.error ⟨e.typeName, text⟩)) := by
  unfold arms
  induction e.variants with
  | nil => rfl
  | cons v rest ih =>
    rw [List.map_cons, List.cons_append, runArms, List.find?_cons]
    split
    · rename_i heq
      simp [heq]
    · rename_i hne
      simp [Ne.symm hne, ih]

/-- The items of the arms that parse an enumeration. -/
def armItems (e : EnumType) : List Item :=
  e.variants.map (fun (variant, member) =>
    .line (Text.quoted member ++ " => Ok(Self::" ++ variant ++ "),"))
  ++ [.line ("other => Err(UnknownMember::new(" ++ Text.quoted e.typeName ++ ", other)),")]

/-- The items of the block that parses an enumeration, up to the bracket behind its arms. -/
def parserItems (e : EnumType) : List Item :=
  [.line "type Err = UnknownMember;",
    .blank,
    .openBlock "fn from_str(s: &str) -> Result<Self, Self::Err> \x7b",
    .openBlock "match s \x7b"]
  ++ e.armItems

/-- The items of an enumeration before the block that parses it. -/
def itemsBefore (e : EnumType) : List Item :=
  [.blank,
    .line "#[derive(Clone, Copy, Debug, Default, PartialEq, Eq, Hash)]",
    .openBlock ("pub enum " ++ e.typeName ++ " \x7b")]
  ++ RecordModule.variantItems e
  ++ [.closeBlock "\x7d", .blank]

/-- The items of an enumeration behind the arms that parse it. -/
def itemsBehind (e : EnumType) : List Item := [
  .closeBlock "\x7d",
  .closeBlock "\x7d",
  .blank,
  .openBlock ("impl FromFieldValue for " ++ e.typeName ++ " \x7b"),
  .openBlock "fn from_field_value(value: &FieldValue) -> Option<Self> \x7b",
  .line "value.as_text()?.parse().ok()",
  .closeBlock "\x7d",
  .closeBlock "\x7d"]

theorem enumItems_eq (e : EnumType) :
    RecordModule.enumItems e
      = e.itemsBefore ++ .openBlock (parserHead e.typeName)
        :: (e.parserItems ++ .closeBlock "\x7d" :: e.itemsBehind) := by
  unfold RecordModule.enumItems itemsBefore parserItems armItems itemsBehind parserHead
  simp only [List.append_assoc, List.cons_append, List.nil_append]

variable {e : EnumType} {typeName : String}

theorem ne_tokens_of_mem_itemsBefore (h : IsWord typeName) :
    ∀ item ∈ e.itemsBefore, ∀ text ∈ item.contents,
      tokens text ≠ tokens (parserHead typeName) := by
  have hvariant : ∀ variant : String, tokens (variant ++ ",") ≠ tokens (parserHead typeName) := by
    intro variant
    have hlast : (tokens (variant ++ ",")).getLast? = some "," :=
      getLast?_tokens_append variant (by decide) rfl
    refine ne_tokens_parserHead h (.inr ?_)
    rw [hlast]
    decide
  simp only [itemsBefore, List.forall_mem_append]
  refine ⟨⟨?_, ?_⟩, ?_⟩
  · simp only [List.forall_mem_cons, Item.contents, List.not_mem_nil, false_imp_iff, implies_true,
      and_true]
    refine ⟨ne_tokens_parserHead_ofList h (by decide), ne_tokens_parserHead_ofList h (by decide), ?_⟩
    refine ne_tokens_parserHead h (.inl ?_)
    have hpub : (tokens ("pub enum " ++ (e.typeName ++ " \x7b"))).head? = some "pub" :=
      head?_tokens_append (by decide) rfl _
    rw [String.append_assoc, hpub]
    decide
  · unfold RecordModule.variantItems
    split
    · simp
    · simp only [List.forall_mem_cons, List.forall_mem_map, Item.contents, List.not_mem_nil,
        false_imp_iff, implies_true, and_true]
      exact ⟨ne_tokens_parserHead_ofList h (by decide), hvariant _, fun v _ => hvariant v.1⟩
  · simp only [List.forall_mem_cons, Item.contents, List.not_mem_nil, false_imp_iff, implies_true,
      and_true]
    exact ⟨ne_tokens_parserHead_ofList h (by decide), ne_tokens_parserHead_ofList h (by decide)⟩

theorem ne_tokens_of_mem_parserItems (h : IsWord typeName) :
    ∀ item ∈ e.parserItems, ∀ text ∈ item.contents,
      tokens text ≠ tokens (parserHead typeName) ∧ tokens text ≠ ["\x7d"] := by
  have hother : ∀ {text first : String}, (tokens text).head? = some first → first ≠ "impl" →
      first ≠ "\x7d" → tokens text ≠ tokens (parserHead typeName) ∧ tokens text ≠ ["\x7d"] := by
    intro text first hfirst himpl hbracket
    refine ⟨ne_tokens_parserHead h (.inl ?_), fun heq => ?_⟩
    · rw [hfirst]
      exact fun heq => himpl (Option.some.inj heq)
    · rw [heq] at hfirst
      exact hbracket (Option.some.inj hfirst).symm
  have hfixed : ∀ {cs : List Char}, (tokensFrom [] cs).head? ≠ some "impl" →
      tokensFrom [] cs ≠ ["\x7d"] → tokens (String.ofList cs) ≠ tokens (parserHead typeName)
        ∧ tokens (String.ofList cs) ≠ ["\x7d"] := by
    intro cs himpl hbracket
    exact ⟨ne_tokens_parserHead_ofList h (.inl himpl), by rwa [tokens_ofList]⟩
  simp only [parserItems, armItems, List.forall_mem_append]
  refine ⟨?_, ?_, ?_⟩
  · simp only [List.forall_mem_cons, Item.contents, List.not_mem_nil, false_imp_iff, implies_true,
      and_true]
    exact ⟨hfixed (by decide) (by decide), hfixed (by decide) (by decide),
      hfixed (by decide) (by decide), hfixed (by decide) (by decide)⟩
  · simp only [List.forall_mem_map, Item.contents, List.forall_mem_singleton]
    intro v _
    rw [String.append_assoc, String.append_assoc]
    exact hother (head?_tokens_quoted_append ..) (by decide) (by decide)
  · simp only [Item.contents, List.forall_mem_singleton]
    rw [String.append_assoc]
    exact hother (head?_tokens_append (by decide) rfl _) (by decide) (by decide)

theorem ne_tokens_of_mem_itemsBehind (he : e.IsSpelled) (h : IsWord typeName) :
    ∀ item ∈ e.itemsBehind, ∀ text ∈ item.contents,
      tokens text ≠ tokens (parserHead typeName) := by
  have hvalue : tokens ("impl FromFieldValue for " ++ e.typeName ++ " \x7b")
      = ["impl", "FromFieldValue", "for", e.typeName, "\x7b"] :=
    (tokens_around_ofList (by decide) he.typeName (by decide)).trans rfl
  simp only [itemsBehind, List.forall_mem_cons, Item.contents, List.not_mem_nil, false_imp_iff,
    implies_true, and_true]
  refine ⟨?_, ?_, ?_, ?_, ?_, ?_, ?_, ?_⟩
  case refine_4 =>
    rw [hvalue, tokens_parserHead h]
    simp
  all_goals exact ne_tokens_parserHead_ofList h (by decide)

theorem ne_tokens_of_mem_enumItems (he : e.IsSpelled) (h : IsWord typeName)
    (hne : e.typeName ≠ typeName) : ∀ item ∈ RecordModule.enumItems e, ∀ text ∈ item.contents,
      tokens text ≠ tokens (parserHead typeName) := by
  have hclose : ∀ text ∈ (Item.closeBlock "\x7d").contents,
      tokens text ≠ tokens (parserHead typeName) :=
    List.forall_mem_singleton.2 (ne_tokens_parserHead_ofList h (by decide))
  have hhead : ∀ text ∈ (Item.openBlock (parserHead e.typeName)).contents,
      tokens text ≠ tokens (parserHead typeName) := by
    refine List.forall_mem_singleton.2 ?_
    rw [tokens_parserHead he.typeName, tokens_parserHead h]
    simpa using hne
  rw [enumItems_eq]
  simp only [List.forall_mem_append, List.forall_mem_cons]
  exact ⟨ne_tokens_of_mem_itemsBefore h, hhead,
    fun item hitem text htext => (ne_tokens_of_mem_parserItems h item hitem text htext).1, hclose,
    ne_tokens_of_mem_itemsBehind he h⟩

/-- The lines of the arms are read as the arms. -/
theorem mapM_memberArm?_linesOf (he : e.IsSpelled) (depth : Nat) :
    (linesOf depth e.armItems).mapM memberArm? = some e.arms := by
  have hcontents : e.armItems.flatMap Item.contents
      = (e.variants.map fun (variant, member) =>
          Text.quoted member ++ " => Ok(Self::" ++ variant ++ "),")
        ++ ["other => Err(UnknownMember::new(" ++ Text.quoted e.typeName ++ ", other)),"] := by
    rw [armItems, List.flatMap_append, contents_map_line]
    rfl
  have hknown : List.Forall₂ (fun line arm => memberArm? line = some arm)
      (e.variants.map fun (variant, member) =>
        Text.quoted member ++ " => Ok(Self::" ++ variant ++ "),")
      (e.variants.map fun (variant, member) => MemberArm.known member variant) := by
    rw [List.forall₂_map_left_iff, List.forall₂_map_right_iff, List.forall₂_same]
    exact fun v hv => memberArm?_known v.2 (he.variant v hv)
  rw [mapM_linesOf memberArm?_indented, hcontents, Json.mapM_eq_some_iff]
  exact List.rel_append hknown (.cons (memberArm?_unknown e.typeName) .nil)

/-- The block that parses an enumeration starts with the head of its match, and its arms follow. -/
theorem linesOf_parserItems (e : EnumType) (depth : Nat) :
    ((linesOf depth e.parserItems).take 4).map tokens = matchHead
      ∧ (linesOf depth e.parserItems).drop 4 = linesOf (depth + 2) e.armItems := by
  have htype : tokens "type Err = UnknownMember;" = ["type", "Err", "=", "UnknownMember", ";"] :=
    tokens_ofList.trans rfl
  have hblank : tokens "" = [] := rfl
  have hparse : tokens "fn from_str(s: &str) -> Result<Self, Self::Err> \x7b"
      = ["fn", "from_str", "(", "s", ":", "&", "str", ")", "-", ">", "Result", "<", "Self", ",",
          "Self", ":", ":", "Err", ">", "\x7b"] :=
    tokens_ofList.trans rfl
  have hmatch : tokens "match s \x7b" = ["match", "s", "\x7b"] := tokens_ofList.trans rfl
  have hlines : linesOf depth e.parserItems
      = [indented depth "type Err = UnknownMember;", indented depth "",
          indented depth "fn from_str(s: &str) -> Result<Self, Self::Err> \x7b",
          indented (depth + 1) "match s \x7b"] ++ linesOf (depth + 2) e.armItems := by
    rw [parserItems, linesOf_append]
    rfl
  rw [hlines]
  refine ⟨?_, rfl⟩
  simp only [List.cons_append, List.nil_append, List.take_succ_cons, List.take_zero, List.map_cons,
    List.map_nil, tokens_indented, htype, hblank, hparse, hmatch, matchHead]

/-- The lines of a parser, its head among them, are no comments. -/
theorem not_isCommentLine_parserItems (e : EnumType) :
    ∀ item ∈ .openBlock (parserHead e.typeName) :: (e.parserItems ++ [.closeBlock "\x7d"]),
      item.isComment = false ∧ ∀ text ∈ item.contents, isCommentLine text = false := by
  simp only [parserItems, armItems, List.forall_mem_cons, List.forall_mem_append,
    List.forall_mem_map, List.not_mem_nil, false_imp_iff, implies_true, and_true, Item.isComment,
    Item.contents, true_and]
  refine ⟨?_, ⟨⟨?_, ?_, ?_, ?_⟩, fun v _ => ?_, ?_⟩, ?_⟩
  · unfold parserHead
    rewrite [String.append_assoc]
    exact isCommentLine_ofList_append (by decide) _
  · exact isCommentLine_ofList (by decide)
  · exact isCommentLine_ofList (by decide)
  · exact isCommentLine_ofList (by decide)
  · exact isCommentLine_ofList (by decide)
  · rewrite [String.append_assoc, String.append_assoc]
    exact isCommentLine_quoted_append ..
  · rewrite [String.append_assoc]
    exact isCommentLine_ofList_append (by decide) _
  · exact isCommentLine_ofList (by decide)

end EnumType

namespace RecordModule

variable {m : RecordModule} {e : EnumType}

/-- The items that parse an enumeration are code. -/
theorem IsPlain.isCode_parserItems (h : m.IsPlain) (he : e ∈ m.enums) :
    ∀ item ∈ .openBlock (parserHead e.typeName) :: (e.parserItems ++ [.closeBlock "\x7d"]),
      item.IsCode := by
  intro item hitem
  have hmem : item ∈ enumItems e := by
    rw [e.enumItems_eq, List.append_cons e.parserItems, ← List.cons_append]
    exact List.mem_append_right _ (List.mem_append_left _ hitem)
  obtain ⟨hcomment, hcontents⟩ := e.not_isCommentLine_parserItems item hitem
  exact ⟨h.isUnbroken_enumItems he item hmem, hcomment, hcontents⟩

/-- No item behind the arms of an enumeration has the head of its parser, if no later enumeration has its
type. -/
theorem IsPlain.itemsBehindParser (h : m.IsPlain) (hspelled : ∀ e ∈ m.enums, e.IsSpelled)
    {earlier later : List EnumType} (hsplit : m.enums = earlier ++ e :: later)
    (hlater : ∀ e' ∈ later, e'.typeName ≠ e.typeName) :
    ∀ item ∈ e.itemsBehind ++ later.flatMap enumItems, item.isComment = false →
      item.IsUnbroken ∧ ∀ text ∈ item.contents, tokens text ≠ tokens (parserHead e.typeName) := by
  have hmem : ∀ e' ∈ e :: later, e' ∈ m.enums := fun e' he' =>
    hsplit ▸ List.mem_append_right _ he'
  have he := hspelled e (hmem e (List.mem_cons_self ..))
  refine List.forall_mem_append.2 ⟨fun item hitem _ => ⟨?_, ?_⟩, ?_⟩
  · refine h.isUnbroken_enumItems (hmem e (List.mem_cons_self ..)) item ?_
    rw [e.enumItems_eq]
    simp [hitem]
  · exact EnumType.ne_tokens_of_mem_itemsBehind he he.typeName item hitem
  · refine List.forall_mem_flatMap.2 fun e' he' item hitem _ => ?_
    have hmem' := hmem e' (List.mem_cons_of_mem _ he')
    exact ⟨h.isUnbroken_enumItems hmem' item hitem, EnumType.ne_tokens_of_mem_enumItems
      (hspelled e' hmem') he.typeName (hlater e' he') item hitem⟩

/-- The arms that parse an enumeration stand in the module, if no later enumeration has its type. -/
theorem IsPlain.memberArms?_render (h : m.IsPlain) (hspelled : ∀ e ∈ m.enums, e.IsSpelled)
    {earlier later : List EnumType} (hsplit : m.enums = earlier ++ e :: later)
    (hlater : ∀ e' ∈ later, e'.typeName ≠ e.typeName) :
    memberArms? e.typeName m.render = some e.arms := by
  have hmem : e ∈ m.enums := hsplit ▸ List.mem_append_right _ (List.mem_cons_self ..)
  have he := hspelled e hmem
  have hclose : tokens "\x7d" = ["\x7d"] := rfl
  have hitems : m.items
      = (m.headItems ++ m.structItems ++ m.implItems ++ earlier.flatMap enumItems ++ e.itemsBefore)
        ++ .openBlock (parserHead e.typeName) :: (e.parserItems ++ .closeBlock "\x7d"
          :: (e.itemsBehind ++ later.flatMap enumItems)) := by
    simp only [items, hsplit, List.flatMap_append, List.flatMap_cons, e.enumItems_eq,
      List.append_assoc, List.cons_append]
  have hcode := h.isCode_parserItems hmem
  simp only [List.forall_mem_cons, List.forall_mem_append] at hcode
  obtain ⟨hhead, hparser, hbracket, -⟩ := hcode
  have hwords : tokens (parserHead e.typeName) ≠ [] := by
    rw [tokens_parserHead he.typeName]
    exact List.cons_ne_nil _ _
  have hne : tokens "\x7d" ≠ tokens (parserHead e.typeName) := by
    rw [hclose, tokens_parserHead he.typeName]
    simp
  have hlines : ∀ text ∈ e.parserItems.flatMap Item.contents,
      tokens text ≠ tokens (parserHead e.typeName) ∧ tokens text ≠ tokens "\x7d" :=
    List.forall_mem_flatMap.2 (EnumType.ne_tokens_of_mem_parserItems he.typeName)
  obtain ⟨depth, hblock⟩ := lastBlock?_render
    (m.headItems ++ m.structItems ++ m.implItems ++ earlier.flatMap enumItems ++ e.itemsBefore)
    hhead hbracket hwords hne hparser hlines (h.itemsBehindParser hspelled hsplit hlater)
  obtain ⟨hmatch, harms⟩ := e.linesOf_parserItems depth
  rw [hclose] at hblock
  rw [memberArms?, RecordModule.render, hitems, hblock, Option.bind_some, if_pos hmatch, harms,
    EnumType.mapM_memberArm?_linesOf he]

end RecordModule

end MasterData
