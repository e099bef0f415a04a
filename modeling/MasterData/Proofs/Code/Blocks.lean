-- SUMMARY: Blocks of a source, and lines that hold a literal.
import MasterData.Proofs.Text.Literals

/-! # Blocks of a source

A block is found by its head: the lines of code behind the last head, up to the line that closes it. What
stands before the block does not matter, and comments do not count. A line that holds a literal is read
as the tokens before it, the text of the literal and the tokens behind it. Main statements:
`Code.lastBlock?_render` and `Code.literalLine?_append`.
-/

namespace MasterData.Code

/-! ## Lines with a literal -/

/-- The tokens before the first literal of a line, its text, and the tokens behind it. -/
def literalLine? (line : String) : Option (List String × String × List String) :=
  (Text.readLiteral? (line.toList.dropWhile (· ≠ '"'))).map fun (text, behind) =>
    (tokens (String.ofList (line.toList.takeWhile (· ≠ '"'))), text, tokens (String.ofList behind))

theorem literalLine?_append (before : String) (h : '"' ∉ before.toList) (text behind : String) :
    literalLine? (before ++ Text.quoted text ++ behind)
      = some (tokens before, text, tokens behind) := by
  have hbefore : ∀ c ∈ before.toList, decide (c ≠ '"') = true := fun c hc =>
    decide_eq_true fun heq => h (heq ▸ hc)
  have hline : (before ++ Text.quoted text ++ behind).toList
      = before.toList ++ ((Text.quoted text).toList ++ behind.toList) := by
    simp
  have hdrop : (before.toList ++ ((Text.quoted text).toList ++ behind.toList)).dropWhile (· ≠ '"')
      = (Text.quoted text).toList ++ behind.toList := by
    rw [List.dropWhile_append_of_pos hbefore, Text.toList_quoted]
    simp
  have htake : (before.toList ++ ((Text.quoted text).toList ++ behind.toList)).takeWhile (· ≠ '"')
      = before.toList := by
    rw [List.takeWhile_append_of_pos hbefore, Text.toList_quoted]
    simp
  rw [literalLine?, hline, hdrop, htake, Text.readLiteral?_quoted]
  simp only [Option.map_some, String.ofList_toList]

theorem literalLine?_quoted (text behind : String) :
    literalLine? (Text.quoted text ++ behind) = some ([], text, tokens behind) := by
  have hline := literalLine?_append "" (by decide) text behind
  rwa [String.empty_append] at hline

theorem literalLine?_indented (depth : Nat) (text : String) :
    literalLine? (indented depth text) = literalLine? text := by
  obtain ⟨spaces, hspaces, heq⟩ := exists_indented_eq depth text
  have hmarks : ∀ c ∈ spaces, decide (c ≠ '"') = true := fun c hc => by
    rw [hspaces c hc]
    rfl
  have htokens : tokens (String.ofList (spaces ++ text.toList.takeWhile (· ≠ '"')))
      = tokens (String.ofList (text.toList.takeWhile (· ≠ '"'))) := by
    rw [tokens_ofList, tokens_ofList, tokensFrom_spaces_append hspaces]
  rw [literalLine?, literalLine?, heq, String.toList_append, String.toList_ofList,
    List.dropWhile_append_of_pos hmarks, List.takeWhile_append_of_pos hmarks, htokens]

/-- A line that starts with a literal is no comment, and its first token is the quote. -/
theorem isCommentLine_quoted_append (text behind : String) :
    isCommentLine (Text.quoted text ++ behind) = false := by
  rw [isCommentLine, String.toList_append, Text.toList_quoted]
  rfl

theorem head?_tokens_quoted_append (text behind : String) :
    (tokens (Text.quoted text ++ behind)).head? = some "\"" := by
  rw [tokens, String.toList_append, Text.toList_quoted]
  rfl

/-! ## Lines behind a head -/

/-- The lines of the last block with a head, which ends before a line that closes it. -/
def lastBlock? (head close : List String) : List String → Option (List String)
  | [] => none
  | line :: rest =>
    (lastBlock? head close rest).or
      (if tokens line = head then some (rest.takeWhile (tokens · ≠ close)) else none)

variable {head close : List String}

theorem lastBlock?_append {lines block : List String} (h : lastBlock? head close lines = some block)
    (before : List String) : lastBlock? head close (before ++ lines) = some block := by
  induction before with
  | nil => exact h
  | cons line before ih => rw [List.cons_append, lastBlock?, ih, Option.some_or]

theorem lastBlock?_eq_none {lines : List String} (h : ∀ line ∈ lines, tokens line ≠ head) :
    lastBlock? head close lines = none := by
  induction lines with
  | nil => rfl
  | cons line lines ih =>
    rw [List.forall_mem_cons] at h
    rw [lastBlock?, ih h.2, if_neg h.1]
    rfl

theorem lastBlock?_block {first last : String} {body behind : List String}
    (hfirst : tokens first = head) (hlast : tokens last = close) (hne : close ≠ head)
    (hbody : ∀ line ∈ body, tokens line ≠ head ∧ tokens line ≠ close)
    (hbehind : ∀ line ∈ behind, tokens line ≠ head) :
    lastBlock? head close (first :: (body ++ last :: behind)) = some body := by
  have hnone : lastBlock? head close (body ++ last :: behind) = none := by
    refine lastBlock?_eq_none fun line hline => ?_
    rcases List.mem_append.1 hline with hmem | hmem
    · exact (hbody line hmem).1
    · rcases List.mem_cons.1 hmem with rfl | hmem
      · exact hlast.symm ▸ hne
      · exact hbehind line hmem
  have htake : (body ++ last :: behind).takeWhile (tokens · ≠ close) = body := by
    rw [List.takeWhile_append_of_pos fun line hline => by simpa using (hbody line hline).2]
    simp [hlast]
  rw [lastBlock?, hnone, if_pos hfirst, htake]
  rfl

/-! ## Blocks of items -/

/-- An item whose lines are lines of code. -/
structure Item.IsCode (item : Item) : Prop where
  isUnbroken : item.IsUnbroken
  not_isComment : item.isComment = false
  not_isCommentLine : ∀ text ∈ item.contents, isCommentLine text = false

/-- A line that is written out is checked on its characters. -/
theorem isCommentLine_ofList {cs : List Char}
    (h : ['/', '/'].isPrefixOf (cs.dropWhile (· = ' ')) = false) :
    isCommentLine (String.ofList cs) = false := by
  rwa [isCommentLine, String.toList_ofList]

theorem isCommentLine_ofList_append {cs : List Char}
    (h : cs.head?.any (fun c => c ≠ ' ' ∧ c ≠ '/') = true) (s : String) :
    isCommentLine (String.ofList cs ++ s) = false := by
  obtain ⟨c, hfirst, hc⟩ := (Option.any_eq_true _ _).1 h
  obtain ⟨rest, rfl⟩ := List.head?_eq_some_iff.1 hfirst
  obtain ⟨hblank, hslash⟩ := of_decide_eq_true hc
  rw [isCommentLine, String.toList_append, String.toList_ofList, List.cons_append,
    List.dropWhile_cons_of_neg (by simpa using hblank)]
  simp [List.isPrefixOf, hslash.symm]

theorem codeLines_of_isUnbroken {line : String} (h : Text.IsUnbroken line) :
    codeLines line = [line].filter (!isCommentLine ·) := by
  rw [codeLines, Text.pieces_of_not_mem fun hmem => (h _ hmem).1 rfl]

/-- Lines of code are found as they stand. -/
theorem flatMap_codeLines_of_isCode {items : List Item} (h : ∀ item ∈ items, item.IsCode)
    (depth : Nat) : (linesOf depth items).flatMap codeLines = linesOf depth items := by
  induction items generalizing depth with
  | nil => rfl
  | cons item rest ih =>
    rw [List.forall_mem_cons] at h
    have hitem : (item.lines depth).flatMap codeLines = item.lines depth := by
      have hline : ∀ line ∈ item.lines depth, codeLines line = [line] := by
        intro line hline
        obtain ⟨text, htext, rfl⟩ := List.mem_map.1 hline
        rw [codeLines_of_isUnbroken (isUnbroken_indented (h.1.isUnbroken.contents text htext) _)]
        simp [isCommentLine_indented, h.1.not_isCommentLine text htext]
      rw [List.flatMap_congr hline]
      simp
    rw [linesOf, List.flatMap_append, hitem, ih h.2]

/-- Lines are read as the texts of their items are, if the reader passes over indentation. -/
theorem mapM_linesOf {α : Type} {read : String → Option α}
    (hread : ∀ depth text, read (indented depth text) = read text) (depth : Nat) (items : List Item) :
    (linesOf depth items).mapM read = (items.flatMap Item.contents).mapM read := by
  have hmap := congrArg (List.mapM id) (map_linesOf hread depth items)
  rwa [List.mapM_map, List.mapM_map] at hmap

/-- A line of code of unbroken items is one of their texts. -/
theorem exists_of_mem_flatMap_codeLines {items : List Item} (h : ∀ item ∈ items, item.IsUnbroken)
    {depth : Nat} {line : String} (hline : line ∈ (linesOf depth items).flatMap codeLines) :
    ∃ text ∈ items.flatMap Item.contents, tokens text = tokens line := by
  obtain ⟨l, hl, hmem⟩ := List.mem_flatMap.1 hline
  rw [codeLines_of_isUnbroken (isUnbroken_of_mem_linesOf h depth l hl)] at hmem
  obtain rfl := List.mem_singleton.1 (List.mem_of_mem_filter hmem)
  have htokens := List.mem_map_of_mem (f := tokens) hl
  rw [map_tokens_linesOf] at htokens
  exact List.mem_map.1 htokens

/-- The block of items between a head and the line that closes it, if no item behind it that is no
comment has the head again. -/
theorem lastBlock?_render (before : List Item) {body behind : List Item} {first last : String}
    (hfirst : (Item.openBlock first).IsCode) (hlast : (Item.closeBlock last).IsCode)
    (hwords : tokens first ≠ []) (hne : tokens last ≠ tokens first)
    (hcode : ∀ item ∈ body, item.IsCode)
    (hbody : ∀ text ∈ body.flatMap Item.contents,
      tokens text ≠ tokens first ∧ tokens text ≠ tokens last)
    (hbehind : ∀ item ∈ behind, item.isComment = false →
      item.IsUnbroken ∧ ∀ text ∈ item.contents, tokens text ≠ tokens first) :
    ∃ depth, lastBlock? (tokens first) (tokens last)
        (codeLines (render (before ++ .openBlock first :: (body ++ .closeBlock last :: behind))))
      = some (linesOf depth body) := by
  have hinside : ∀ depth, ∀ line ∈ linesOf depth body,
      tokens line ≠ tokens first ∧ tokens line ≠ tokens last := by
    intro depth line hline
    have htokens := List.mem_map_of_mem (f := tokens) hline
    rw [map_tokens_linesOf] at htokens
    obtain ⟨text, htext, heq⟩ := List.mem_map.1 htokens
    exact heq ▸ hbody text htext
  have hafter : ∀ item ∈ behind.filter (!·.isComment),
      item.IsUnbroken ∧ ∀ text ∈ item.contents, tokens text ≠ tokens first := by
    simpa [List.mem_filter] using hbehind
  have hrest : ∀ depth, ∀ line ∈ (linesOf depth (behind.filter (!·.isComment))).flatMap codeLines
      ++ [""], tokens line ≠ tokens first := by
    intro depth line hline
    rcases List.mem_append.1 hline with hmem | hmem
    · obtain ⟨text, htext, heq⟩ :=
        exists_of_mem_flatMap_codeLines (fun item hitem => (hafter item hitem).1) hmem
      obtain ⟨item, hitem, htext⟩ := List.mem_flatMap.1 htext
      exact heq ▸ (hafter item hitem).2 text htext
    · obtain rfl := List.mem_singleton.1 hmem
      exact hwords.symm
  have hblock : ∀ item ∈ .openBlock first :: (body ++ [.closeBlock last]), item.IsCode :=
    List.forall_mem_cons.2 ⟨hfirst, List.forall_mem_append.2 ⟨hcode, List.forall_mem_singleton.2 hlast⟩⟩
  have hsplit : (before ++ .openBlock first :: (body ++ .closeBlock last :: behind)).filter
        (!·.isComment)
      = before.filter (!·.isComment) ++ (.openBlock first :: (body ++ [.closeBlock last])
        ++ behind.filter (!·.isComment)) := by
    have hkept : (.openBlock first :: (body ++ [.closeBlock last])).filter (!·.isComment)
        = .openBlock first :: (body ++ [.closeBlock last]) :=
      List.filter_eq_self.2 fun item hitem => by simp [(hblock item hitem).not_isComment]
    rw [← hkept, ← List.filter_append, ← List.filter_append, List.cons_append, List.append_assoc]
    rfl
  rw [codeLines_render, codeLines_render_eq, hsplit, linesOf_append, linesOf_append,
    List.flatMap_append, List.flatMap_append, flatMap_codeLines_of_isCode hblock, List.append_assoc,
    List.append_assoc]
  generalize depthBehind 0 (before.filter (!·.isComment)) = depth
  refine ⟨depth + 1, lastBlock?_append ?_ _⟩
  have hlines : linesOf depth (.openBlock first :: (body ++ [.closeBlock last]))
      = indented depth first :: (linesOf (depth + 1) body
        ++ [indented (depthBehind (depth + 1) body - 1) last]) := by
    rw [linesOf, linesOf_append]
    rfl
  rw [hlines, List.cons_append, List.append_assoc]
  exact lastBlock?_block (tokens_indented ..) (tokens_indented ..) hne (hinside _) (hrest _)

end MasterData.Code
