-- SUMMARY: The comment lines of a source and the lines of code between them.
import MasterData.Proofs.Code.Tokens
import MasterData.Text.Quoted

/-! # Comments and code

A source is split at its line feeds alone. A line that opens with two slashes behind spaces is a comment;
the others are code. Items that are comments add no line of code, whatever they say, as each line of
theirs gets a marker of its own; but only line feeds end a line, so a carriage return within a line of
a comment stays there. A literal holds neither. Main statements: `Code.codeLines_render`,
`Code.hasCleanComments_render` and `Text.isUnbroken_quoted`.
-/

namespace MasterData

/-! ## Pieces between line feeds -/

namespace Text

/-- The pieces of a text between its line feeds. -/
def pieces (s : String) : List String := (splitLineFeeds s.toList).map String.ofList

theorem pieces_append_lineFeed (s t : String) : pieces (s ++ "\n" ++ t) = pieces s ++ pieces t := by
  have hchars : (s ++ "\n" ++ t).toList = s.toList ++ '\n' :: t.toList := by
    simp [String.toList_append]
  rw [pieces, hchars, splitLineFeeds_append, List.map_append]
  rfl

theorem pieces_join (ls : List String) :
    pieces (String.join (ls.map (· ++ "\n"))) = ls.flatMap pieces ++ [""] := by
  induction ls with
  | nil => rfl
  | cons l ls ih =>
    rw [List.map_cons, String.join_cons, pieces_append_lineFeed, ih, List.flatMap_cons,
      List.append_assoc]

/-- What stands before the first line feed only makes the first piece longer. -/
theorem splitLineFeeds_append_of_not_mem {pre : List Char} (h : '\n' ∉ pre)
    {cs piece : List Char} {rest : List (List Char)} (hsplit : splitLineFeeds cs = piece :: rest) :
    splitLineFeeds (pre ++ cs) = (pre ++ piece) :: rest := by
  induction pre with
  | nil => exact hsplit
  | cons c pre ih =>
    rw [List.mem_cons, not_or] at h
    rw [List.cons_append, splitLineFeeds, if_neg (Ne.symm h.1), ih h.2]
    rfl

theorem pieces_of_not_mem {s : String} (h : '\n' ∉ s.toList) : pieces s = [s] := by
  have hsplit := splitLineFeeds_append_of_not_mem h (show splitLineFeeds [] = [[]] from rfl)
  rw [List.append_nil] at hsplit
  rw [pieces, hsplit, List.map_singleton, String.ofList_toList]

theorem lineFeed_not_mem_of_mem_linesOfPieces {pieces : List (List Char)} {line : List Char}
    (hpieces : ∀ piece ∈ pieces, '\n' ∉ piece) (h : line ∈ linesOfPieces pieces) : '\n' ∉ line := by
  induction pieces using linesOfPieces.induct with
  | case1 => cases h
  | case2 => cases h
  | case3 last hne =>
    rw [linesOfPieces, if_neg hne] at h
    obtain rfl := List.mem_singleton.1 h
    exact hpieces line (List.mem_cons_self ..)
  | case4 piece rest hrest ih =>
    rw [List.forall_mem_cons] at hpieces
    rw [linesOfPieces.eq_3 piece rest hrest] at h
    rcases List.mem_cons.1 h with rfl | h
    · unfold dropCarriageReturn
      split
      · exact fun hmem => hpieces.1 (List.dropLast_subset _ hmem)
      · exact hpieces.1
    · exact ih hpieces.2 h

theorem lineFeed_not_mem_of_mem_lines {s line : String} (h : line ∈ lines s) :
    '\n' ∉ line.toList := by
  obtain ⟨cs, hcs, rfl⟩ := List.mem_map.1 h
  rw [String.toList_ofList]
  exact lineFeed_not_mem_of_mem_linesOfPieces
    (fun _ hpiece => lineFeed_not_mem_of_mem_splitLineFeeds hpiece) hcs

theorem mem_of_mem_trimEnd {s : String} {c : Char} (h : c ∈ (trimEnd s).toList) : c ∈ s.toList := by
  rw [trimEnd, String.toList_ofList, trimRight, List.mem_reverse] at h
  exact List.mem_reverse.1 ((List.dropWhile_sublist _).mem h)

/-- A text without a carriage return inside a line; one at its end, or with only white space behind it,
does no harm. -/
def HidesReturns (text : String) : Prop := ∀ line ∈ lines text, '\r' ∉ (trimEnd line).toList

/-! ## Literals -/

theorem ne_of_mem_hexDigits {n : Nat} : ∀ c ∈ hexDigits n, c ≠ '\n' ∧ c ≠ '\r' := by
  have hdigit : ∀ d < 16, d.digitChar ≠ '\n' ∧ d.digitChar ≠ '\r' := by decide
  induction n using Nat.strongRecOn with
  | ind n ih =>
    unfold hexDigits
    rw [Nat.toDigits_eq_if (by decide)]
    split
    · rename_i hsmall
      exact List.forall_mem_singleton.2 (hdigit n hsmall)
    · rw [List.forall_mem_append]
      exact ⟨ih (n / 16) (by omega), List.forall_mem_singleton.2 (hdigit (n % 16) (by omega))⟩

/-- Inside a literal the ends of lines are written by their escapes. -/
theorem ne_of_mem_escapeChar {quote c : Char} (hquote : quote ≠ '\n' ∧ quote ≠ '\r') :
    ∀ d ∈ escapeChar quote c, d ≠ '\n' ∧ d ≠ '\r' := by
  unfold escapeChar
  split_ifs with htab hreturn hfeed hnull hslash hclose hcode
  · simp
  · simp
  · simp
  · simp
  · simp
  · exact List.forall_mem_cons.2 ⟨by simp, List.forall_mem_singleton.2 hquote⟩
  · simp only [List.forall_mem_append]
    exact ⟨⟨by simp, ne_of_mem_hexDigits⟩, by simp⟩
  · exact List.forall_mem_singleton.2 ⟨hfeed, hreturn⟩

/-- A name that is unbroken between two fixed parts. -/
theorem IsUnbroken.between {s pre post : String} (h : IsUnbroken s) (hpre : IsUnbroken pre)
    (hpost : IsUnbroken post) : IsUnbroken (pre ++ s ++ post) :=
  isUnbroken_append.2 ⟨isUnbroken_append.2 ⟨hpre, h⟩, hpost⟩

/-- A literal is unbroken, whatever the text that it stands for. -/
theorem isUnbroken_quoted (s : String) : IsUnbroken (quoted s) := by
  unfold IsUnbroken quoted
  rw [String.toList_ofList, List.cons_append, List.forall_mem_cons, List.forall_mem_append]
  refine ⟨by simp, fun d hd => ?_, by simp⟩
  obtain ⟨c, -, hdc⟩ := List.mem_flatMap.1 hd
  exact ne_of_mem_escapeChar (by simp) d hdc

end Text

/-! ## Comment lines -/

namespace Code

/-- A line that opens with two slashes behind spaces. -/
def isCommentLine (line : String) : Bool :=
  ['/', '/'].isPrefixOf (line.toList.dropWhile (· = ' '))

/-- The comment lines of a source. -/
def commentLines (source : String) : List String := (Text.pieces source).filter isCommentLine

/-- A source without a carriage return in a comment line. -/
def HasCleanComments (source : String) : Prop := ∀ l ∈ commentLines source, '\r' ∉ l.toList

/-- The lines of a source that are no comments. -/
def codeLines (source : String) : List String := (Text.pieces source).filter (!isCommentLine ·)

theorem pieces_render (items : List Item) :
    Text.pieces (render items) = (linesOf 0 items).flatMap Text.pieces ++ [""] := by
  rw [render, join_texts, Text.pieces_join]

theorem codeLines_render_eq (items : List Item) :
    codeLines (render items) = (linesOf 0 items).flatMap codeLines ++ [""] := by
  rw [codeLines, pieces_render, List.filter_append, List.filter_flatMap]
  rfl

theorem commentLines_render (items : List Item) :
    commentLines (render items) = (linesOf 0 items).flatMap commentLines := by
  rw [commentLines, pieces_render, List.filter_append, List.filter_flatMap]
  exact List.append_nil _

/-! ## Indentation -/

/-- The spaces in front of a line. -/
theorem exists_indented_eq (depth : Nat) (text : String) :
    ∃ spaces, (∀ c ∈ spaces, c = ' ') ∧ indented depth text = String.ofList spaces ++ text := by
  unfold indented
  split
  · rename_i hempty
    exact ⟨[], by simp, by simp [hempty]⟩
  · exact ⟨_, fun _ hc => List.eq_of_mem_replicate hc, rfl⟩

theorem isCommentLine_append {spaces : List Char} (h : ∀ c ∈ spaces, c = ' ') (line : String) :
    isCommentLine (String.ofList spaces ++ line) = isCommentLine line := by
  rw [isCommentLine, String.toList_append, String.toList_ofList, List.dropWhile_append_of_pos
    (by simpa using h)]
  rfl

theorem isCommentLine_indented (depth : Nat) (text : String) :
    isCommentLine (indented depth text) = isCommentLine text := by
  obtain ⟨spaces, hspaces, heq⟩ := exists_indented_eq depth text
  rw [heq, isCommentLine_append hspaces]

theorem mem_indented_iff {c : Char} (hc : c ≠ ' ') (depth : Nat) (text : String) :
    c ∈ (indented depth text).toList ↔ c ∈ text.toList := by
  obtain ⟨spaces, hspaces, heq⟩ := exists_indented_eq depth text
  have hout : c ∉ spaces := fun hmem => hc (hspaces c hmem)
  simp [heq, String.toList_append, hout]

/-- Indentation stands in front of the first piece, and is no carriage return. -/
theorem hasCleanComments_indented (depth : Nat) (text : String) :
    HasCleanComments (indented depth text) ↔ HasCleanComments text := by
  obtain ⟨spaces, hspaces, heq⟩ := exists_indented_eq depth text
  have hfeed : '\n' ∉ spaces := fun hmem => absurd (hspaces _ hmem) (by decide)
  have hreturn : '\r' ∉ spaces := fun hmem => absurd (hspaces _ hmem) (by decide)
  obtain ⟨piece, rest, hsplit⟩ :=
    List.exists_cons_of_ne_nil (Text.splitLineFeeds_ne_nil text.toList)
  have hpieces : Text.pieces text = String.ofList piece :: rest.map String.ofList := by
    rw [Text.pieces, hsplit, List.map_cons]
  have hindented : Text.pieces (indented depth text)
      = (String.ofList spaces ++ String.ofList piece) :: rest.map String.ofList := by
    rw [Text.pieces, heq, String.toList_append, String.toList_ofList,
      Text.splitLineFeeds_append_of_not_mem hfeed hsplit, List.map_cons, String.ofList_append]
  simp only [HasCleanComments, commentLines, List.forall_mem_filter, hpieces, hindented,
    List.forall_mem_cons, isCommentLine_append hspaces, String.toList_append, List.mem_append,
    String.toList_ofList, hreturn, false_or]

/-! ## Code -/

/-- An item that is a comment. -/
def Item.isComment : Item → Bool
  | line _ => false
  | blank => false
  | openBlock _ => false
  | closeBlock _ => false
  | doc _ => true
  | innerDoc _ => true

/-- A marker of a comment: two slashes, and no end of a line. -/
structure IsMarker (marker : String) : Prop where
  slashes : ['/', '/'] <+: marker.toList
  isUnbroken : Text.IsUnbroken marker

theorem isMarker_doc : IsMarker "///" where
  slashes := by decide
  isUnbroken := Text.isUnbroken_ofList (by decide)

theorem isMarker_innerDoc : IsMarker "//!" where
  slashes := by decide
  isUnbroken := Text.isUnbroken_ofList (by decide)

theorem IsMarker.toList_commentLine {marker : String} (hmarker : IsMarker marker) (line : String) :
    ∃ rest, (commentLine marker line).toList = '/' :: '/' :: rest := by
  obtain ⟨cs, hcs⟩ := hmarker.slashes
  unfold commentLine
  simp only
  split
  · exact ⟨cs, hcs.symm⟩
  · simp only [String.toList_append, ← hcs]
    exact ⟨_, rfl⟩

theorem IsMarker.isCommentLine {marker : String} (hmarker : IsMarker marker) (line : String) :
    isCommentLine (commentLine marker line) = true := by
  obtain ⟨rest, hrest⟩ := hmarker.toList_commentLine line
  rw [Code.isCommentLine, hrest]
  rfl

theorem IsMarker.mem_commentLine_iff {marker : String} (hmarker : IsMarker marker) {c : Char}
    (hc : c = '\n' ∨ c = '\r') (line : String) :
    c ∈ (commentLine marker line).toList ↔ c ∈ (Text.trimEnd line).toList := by
  have hout : c ∉ marker.toList := fun hmem => by
    obtain ⟨hfeed, hreturn⟩ := hmarker.isUnbroken c hmem
    exact hc.elim hfeed hreturn
  have hblank : c ≠ ' ' := by
    rintro rfl
    exact absurd hc (by decide)
  unfold commentLine
  simp only
  split
  · rename_i hempty
    simp [hempty, hout]
  · simp [String.toList_append, hout, hblank]

/-- A line of a comment is one comment line. -/
theorem pieces_of_mem_lines_of_isComment {item : Item} (hitem : item.isComment = true) {depth : Nat}
    {l : String} (hl : l ∈ item.lines depth) :
    Text.pieces l = [l] ∧ isCommentLine l = true := by
  have hcomment : ∀ {marker text : String}, IsMarker marker →
      ∀ l ∈ ((Text.lines text).map (commentLine marker)).map (indented depth),
        Text.pieces l = [l] ∧ isCommentLine l = true := by
    intro marker text hmarker l hl
    rw [List.map_map] at hl
    obtain ⟨line, hline, rfl⟩ := List.mem_map.1 hl
    rw [Function.comp_apply, isCommentLine_indented]
    refine ⟨Text.pieces_of_not_mem ?_, hmarker.isCommentLine line⟩
    have hfeed : '\n' ∉ (commentLine marker line).toList := by
      rw [hmarker.mem_commentLine_iff (.inl rfl)]
      exact fun hmem => Text.lineFeed_not_mem_of_mem_lines hline (Text.mem_of_mem_trimEnd hmem)
    rwa [mem_indented_iff (by decide)]
  cases item with
  | doc text => exact hcomment isMarker_doc l hl
  | innerDoc text => exact hcomment isMarker_innerDoc l hl
  | line | blank | openBlock | closeBlock => cases hitem

theorem Item.depthAfter_of_isComment {item : Item} (h : item.isComment = true) (depth : Nat) :
    item.depthAfter depth = depth := by
  cases item with
  | doc | innerDoc => rfl
  | line | blank | openBlock | closeBlock => cases h

theorem flatMap_codeLines_linesOf (depth : Nat) (items : List Item) :
    (linesOf depth items).flatMap codeLines
      = (linesOf depth (items.filter (!·.isComment))).flatMap codeLines := by
  induction items generalizing depth with
  | nil => rfl
  | cons item rest ih =>
    rw [linesOf, List.flatMap_append, ih]
    cases hitem : item.isComment with
    | true =>
      have hnone : (item.lines depth).flatMap codeLines = [] :=
        List.flatMap_eq_nil_iff.2 fun l hl => by
          obtain ⟨hpieces, hcomment⟩ := pieces_of_mem_lines_of_isComment hitem hl
          simp [codeLines, hpieces, hcomment]
      rw [List.filter_cons_of_neg (by simp [hitem]), hnone, List.nil_append,
        Item.depthAfter_of_isComment hitem]
    | false =>
      rw [List.filter_cons_of_pos (by simp [hitem]), linesOf, List.flatMap_append]

/-- Comments add no line of code to a source. -/
theorem codeLines_render (items : List Item) :
    codeLines (render items) = codeLines (render (items.filter (!·.isComment))) := by
  rw [codeLines_render_eq, codeLines_render_eq, flatMap_codeLines_linesOf]

/-- The lines of code of a first line, broken as it may be, and of what follows it. -/
theorem codeLines_render_line (text : String) (items : List Item) :
    codeLines (render (.line text :: items)) = codeLines text ++ codeLines (render items) := by
  have hindented : indented 0 text = text := by
    unfold indented
    split
    · rename_i hempty
      rw [hempty]
    · simp
  rw [codeLines_render_eq, codeLines_render_eq, linesOf, List.flatMap_append, List.append_assoc]
  simp [Item.lines, Item.contents, Item.ownDepth, Item.depthAfter, hindented]

/-! ## Carriage returns -/

/-- An item without a carriage return in a comment line: in a comment none stands inside a line of its
text, elsewhere none in a piece of its text that is a comment. -/
def Item.IsClean : Item → Prop
  | doc text => Text.HidesReturns text
  | innerDoc text => Text.HidesReturns text
  | item => HasCleanComments item.written

theorem Item.forall_lines_of_isComment {marker text : String} (hmarker : IsMarker marker)
    {item : Item} (hitem : item.isComment = true)
    (hcontents : item.contents = (Text.lines text).map (commentLine marker)) (depth : Nat) :
    (∀ l ∈ item.lines depth, HasCleanComments l) ↔ Text.HidesReturns text := by
  have hself : ∀ l ∈ item.lines depth, (HasCleanComments l ↔ '\r' ∉ l.toList) := by
    intro l hl
    obtain ⟨hpieces, hcomment⟩ := pieces_of_mem_lines_of_isComment hitem hl
    simp [HasCleanComments, commentLines, hpieces, hcomment]
  rw [forall₂_congr hself, Item.lines, hcontents, List.map_map]
  simp only [List.forall_mem_map, Function.comp_apply, Text.HidesReturns,
    mem_indented_iff (show '\r' ≠ ' ' by decide), hmarker.mem_commentLine_iff (.inr rfl)]

/-- Whether the comment lines of an item are clean does not depend on its depth. -/
theorem Item.forall_lines (item : Item) (depth : Nat) :
    (∀ l ∈ item.lines depth, HasCleanComments l) ↔ item.IsClean := by
  cases item with
  | doc text => exact forall_lines_of_isComment isMarker_doc rfl rfl depth
  | innerDoc text => exact forall_lines_of_isComment isMarker_innerDoc rfl rfl depth
  | line text | blank | openBlock text | closeBlock text =>
    simp [Item.lines, Item.contents, IsClean, Item.written, hasCleanComments_indented]

theorem forall_linesOf (depth : Nat) (items : List Item) :
    (∀ l ∈ linesOf depth items, HasCleanComments l) ↔ ∀ item ∈ items, item.IsClean := by
  induction items generalizing depth with
  | nil => simp [linesOf]
  | cons item rest ih =>
    rw [linesOf, List.forall_mem_append, List.forall_mem_cons, ih, item.forall_lines]

/-- The comment lines of a source are clean exactly if those of its items are. -/
theorem hasCleanComments_render (items : List Item) :
    HasCleanComments (render items) ↔ ∀ item ∈ items, item.IsClean := by
  rw [← forall_linesOf 0, HasCleanComments, commentLines_render]
  simp only [List.mem_flatMap, forall_exists_index, and_imp, HasCleanComments]
  exact ⟨fun h line hline l hl => h l line hline hl, fun h l line hline hl => h line hline l hl⟩

theorem hasCleanComments_of_isUnbroken {text : String} (h : Text.IsUnbroken text) :
    HasCleanComments text := by
  intro l hl hreturn
  have hpieces := Text.pieces_of_not_mem fun hmem => (h _ hmem).1 rfl
  obtain rfl := List.mem_singleton.1 (hpieces ▸ List.mem_of_mem_filter hl)
  exact (h _ hreturn).2 rfl

theorem Item.IsUnbroken.isClean {item : Item} (h : item.IsUnbroken) : item.IsClean := by
  rw [← item.forall_lines 0]
  intro l hl
  obtain ⟨text, htext, rfl⟩ := List.mem_map.1 hl
  exact hasCleanComments_of_isUnbroken (isUnbroken_indented (h.contents text htext) _)

end Code

end MasterData
