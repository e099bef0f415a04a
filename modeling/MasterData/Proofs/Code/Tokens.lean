-- SUMMARY: The words and marks of a line of generated source.
import MasterData.Proofs.Code.Layout
import MasterData.Proofs.Text.Characters

/-! # Tokens of generated source

A line is read as its words and the marks between them; blanks only part words. A line that is put
together from pieces has the tokens of the pieces wherever a mark or a blank stands between them, and a
word is one token. The tokens of a rendered source are those of its items, at whatever depth they
stand. Main statements: `Code.tokens_around` and `Code.sourceTokens_render`.
-/

namespace MasterData.Code

open Text

/-- A word that has ended, if there is one. -/
def ended (word : List Char) : List String :=
  if word = [] then [] else [String.ofList word]

/-- The tokens that a character makes which is no part of a word. -/
def marked (c : Char) : List String :=
  if c = ' ' then [] else [String.singleton c]

/-- The tokens of a word that has begun and of the characters behind it. -/
def tokensFrom (word : List Char) : List Char → List String
  | [] => ended word
  | c :: cs =>
    if isWordPart c then tokensFrom (word ++ [c]) cs else ended word ++ marked c ++ tokensFrom [] cs

/-- The words of a line and the marks between them. -/
def tokens (line : String) : List String := tokensFrom [] line.toList

/-- A line that is written out is read character by character. -/
theorem tokens_ofList {cs : List Char} : tokens (String.ofList cs) = tokensFrom [] cs := by
  rw [tokens, String.toList_ofList]

/-! ## Pieces -/

theorem tokensFrom_append (word cs : List Char) {c : Char} (hc : isWordPart c = false)
    (ds : List Char) :
    tokensFrom word (cs ++ c :: ds) = tokensFrom word cs ++ marked c ++ tokensFrom [] ds := by
  induction cs generalizing word with
  | nil => simp [tokensFrom, hc]
  | cons d cs ih =>
    rw [List.cons_append, tokensFrom, tokensFrom]
    split
    · rw [ih]
    · simp only [ih, List.append_assoc]

/-- A piece behind which a new token starts. -/
def endsMarked (s : String) : Bool := s.toList.getLast?.any (!isWordPart ·)

/-- A piece before which a token ends. -/
def startsMarked (s : String) : Bool := s.toList.head?.any (!isWordPart ·)

theorem endsMarked_append (s : String) {t : String} (h : endsMarked t = true) :
    endsMarked (s ++ t) = true := by
  obtain ⟨c, hlast, hc⟩ := (Option.any_eq_true _ _).1 h
  rw [endsMarked, String.toList_append, List.getLast?_append, hlast]
  exact hc

theorem tokens_append_of_endsMarked {s : String} (h : endsMarked s = true) (t : String) :
    tokens (s ++ t) = tokens s ++ tokens t := by
  obtain ⟨c, hlast, hc⟩ := (Option.any_eq_true _ _).1 h
  rw [Bool.not_eq_true'] at hc
  obtain ⟨cs, hcs⟩ := List.getLast?_eq_some_iff.1 hlast
  have hs : tokens s = tokensFrom [] cs ++ marked c := by
    rw [tokens, hcs, tokensFrom_append _ _ hc, tokensFrom, ended, if_pos rfl, List.append_nil]
  rw [hs, tokens, String.toList_append, hcs, List.append_assoc, List.singleton_append,
    tokensFrom_append _ _ hc, tokens]

theorem tokens_append_of_startsMarked (s : String) {t : String} (h : startsMarked t = true) :
    tokens (s ++ t) = tokens s ++ tokens t := by
  obtain ⟨c, hfirst, hc⟩ := (Option.any_eq_true _ _).1 h
  rw [Bool.not_eq_true'] at hc
  obtain ⟨cs, hcs⟩ := List.head?_eq_some_iff.1 hfirst
  have ht : tokens t = marked c ++ tokensFrom [] cs := by
    rw [tokens, hcs]
    simp [tokensFrom, hc, ended]
  rw [ht, tokens, String.toList_append, hcs, tokensFrom_append _ _ hc, tokens, List.append_assoc]

/-- The last token of a line is that of its last piece. -/
theorem getLast?_tokens_append (s : String) {cs : List Char}
    (h : cs.head?.any (!isWordPart ·) = true) {last : String}
    (hlast : (tokensFrom [] cs).getLast? = some last) :
    (tokens (s ++ String.ofList cs)).getLast? = some last := by
  have hstarts : startsMarked (String.ofList cs) = true := by rwa [startsMarked, String.toList_ofList]
  rw [tokens_append_of_startsMarked s hstarts, tokens_ofList, List.getLast?_append, hlast,
    Option.some_or]

/-- The first token of a line is that of its first piece. -/
theorem head?_tokens_append {cs : List Char} (h : cs.getLast?.any (!isWordPart ·) = true)
    {first : String} (hfirst : (tokensFrom [] cs).head? = some first) (t : String) :
    (tokens (String.ofList cs ++ t)).head? = some first := by
  have hends : endsMarked (String.ofList cs) = true := by rwa [endsMarked, String.toList_ofList]
  rw [tokens_append_of_endsMarked hends, tokens_ofList, List.head?_append, hfirst, Option.some_or]

/-! ## Words -/

/-- A text that is one word. -/
def IsWord (s : String) : Prop := s ≠ "" ∧ ∀ c ∈ s.toList, isWordPart c = true

theorem tokensFrom_of_word (word : List Char) {cs : List Char} (h : ∀ c ∈ cs, isWordPart c = true) :
    tokensFrom word cs = ended (word ++ cs) := by
  induction cs generalizing word with
  | nil => rw [tokensFrom, List.append_nil]
  | cons c cs ih =>
    rw [List.forall_mem_cons] at h
    rw [tokensFrom, if_pos h.1, ih _ h.2, List.append_assoc, List.singleton_append]

/-- A word is one token. -/
theorem tokens_of_isWord {s : String} (h : IsWord s) : tokens s = [s] := by
  rw [tokens, tokensFrom_of_word [] h.2, List.nil_append, ended,
    if_neg (mt String.toList_eq_nil_iff.1 h.1), String.ofList_toList]

/-- A word between pieces that end before it and start behind it. -/
theorem tokens_around {before word after : String} (hbefore : endsMarked before = true)
    (hword : IsWord word) (hafter : startsMarked after = true) :
    tokens (before ++ word ++ after) = tokens before ++ word :: tokens after := by
  rw [tokens_append_of_startsMarked _ hafter, tokens_append_of_endsMarked hbefore,
    tokens_of_isWord hword, List.append_assoc]
  rfl

/-- Pieces that are written out are checked on their characters. -/
theorem tokens_around_ofList {before after : List Char} {word : String}
    (hbefore : before.getLast?.any (!isWordPart ·) = true) (hword : IsWord word)
    (hafter : after.head?.any (!isWordPart ·) = true) :
    tokens (String.ofList before ++ word ++ String.ofList after)
      = tokensFrom [] before ++ word :: tokensFrom [] after := by
  have hends : endsMarked (String.ofList before) = true := by
    rwa [endsMarked, String.toList_ofList]
  have hstarts : startsMarked (String.ofList after) = true := by
    rwa [startsMarked, String.toList_ofList]
  rw [tokens_around hends hword hstarts, tokens_ofList, tokens_ofList]

/-- A comment starts with a slash, whatever it says. -/
theorem head?_tokens_commentLine {marker : String} (h : (tokens marker).head? = some "/")
    (line : String) : (tokens (commentLine marker line)).head? = some "/" := by
  unfold commentLine
  simp only
  split
  · exact h
  · rw [tokens_append_of_endsMarked (endsMarked_append _ (by decide)),
      tokens_append_of_startsMarked _ (by decide), List.head?_append, List.head?_append, h]
    rfl

/-- The lines of a comment are no code. -/
theorem head?_tokens_comment {text : String} {item : Item}
    (hitem : item = .doc text ∨ item = .innerDoc text) :
    ∀ line ∈ item.contents, (tokens line).head? = some "/" := by
  intro line hline
  rcases hitem with rfl | rfl
  · obtain ⟨content, -, rfl⟩ := List.mem_map.1 hline
    exact head?_tokens_commentLine (by rw [tokens_ofList]; rfl) content
  · obtain ⟨content, -, rfl⟩ := List.mem_map.1 hline
    exact head?_tokens_commentLine (by rw [tokens_ofList]; rfl) content

theorem ne_of_isWordPart {c : Char} (h : isWordPart c = true) : c ≠ '\n' ∧ c ≠ '\r' := by
  refine ⟨?_, ?_⟩
  · rintro rfl
    exact absurd h (by decide)
  · rintro rfl
    exact absurd h (by decide)

theorem IsWord.isUnbroken {s : String} (h : IsWord s) : IsUnbroken s :=
  fun c hc => ne_of_isWordPart (h.2 c hc)

theorem tokensFrom_spaces_append {spaces : List Char} (h : ∀ c ∈ spaces, c = ' ') (cs : List Char) :
    tokensFrom [] (spaces ++ cs) = tokensFrom [] cs := by
  induction spaces with
  | nil => rfl
  | cons c spaces ih =>
    rw [List.forall_mem_cons] at h
    rw [h.1]
    exact ih h.2

/-- The indentation of a line does not count. -/
theorem tokens_indented (depth : Nat) (text : String) : tokens (indented depth text) = tokens text := by
  unfold indented
  split
  · rename_i hempty
    rw [hempty]
  · rw [tokens, String.toList_append, String.toList_ofList,
      tokensFrom_spaces_append fun _ hc => List.eq_of_mem_replicate hc, tokens]

/-! ## Characters -/

/-- No token has a character that the line has not. -/
theorem mem_of_mem_tokensFrom {word cs : List Char} {token : String}
    (h : token ∈ tokensFrom word cs) : ∀ c ∈ token.toList, c ∈ word ∨ c ∈ cs := by
  have hended : ∀ word : List Char, token ∈ ended word → ∀ c ∈ token.toList, c ∈ word := by
    intro word hmem c hc
    unfold ended at hmem
    split at hmem
    · cases hmem
    · rwa [List.mem_singleton.1 hmem, String.toList_ofList] at hc
  induction cs generalizing word with
  | nil => exact fun c hc => .inl (hended word h c hc)
  | cons d cs ih =>
    intro c hc
    unfold tokensFrom at h
    split at h
    · rcases ih h c hc with hword | hcs
      · rw [List.mem_append, List.mem_singleton] at hword
        refine hword.imp_right fun heq => ?_
        rw [heq]
        exact List.mem_cons_self ..
      · exact .inr (List.mem_cons_of_mem _ hcs)
    · rcases List.mem_append.1 h with hfirst | hrest
      · rcases List.mem_append.1 hfirst with hword | hmark
        · exact .inl (hended word hword c hc)
        · unfold marked at hmark
          split at hmark
          · cases hmark
          · rw [List.mem_singleton.1 hmark, String.toList_singleton, List.mem_singleton] at hc
            exact .inr (hc ▸ List.mem_cons_self ..)
      · exact .inr (List.mem_cons_of_mem _ ((ih hrest c hc).resolve_left (List.not_mem_nil)))

theorem mem_of_mem_tokens {line token : String} (h : token ∈ tokens line) :
    ∀ c ∈ token.toList, c ∈ line.toList :=
  fun c hc => (mem_of_mem_tokensFrom h c hc).resolve_left List.not_mem_nil

/-! ## Sources -/

/-- The tokens of a source, line by line. -/
def sourceTokens (source : String) : List (List String) := (Text.lines source).map tokens

/-- What is read of lines without regard to their indentation is read of the texts of the items. -/
theorem map_linesOf {α : Type} {f : String → α} (hf : ∀ depth text, f (indented depth text) = f text)
    (depth : Nat) (items : List Item) :
    (linesOf depth items).map f = (items.flatMap Item.contents).map f := by
  induction items generalizing depth with
  | nil => rfl
  | cons item rest ih =>
    rw [linesOf, List.map_append, ih, List.flatMap_cons, List.map_append, Item.lines, List.map_map]
    simp only [Function.comp_def, hf]

theorem map_tokens_linesOf (depth : Nat) (items : List Item) :
    (linesOf depth items).map tokens = (items.flatMap Item.contents).map tokens :=
  map_linesOf tokens_indented depth items

theorem sourceTokens_render {items : List Item} (h : ∀ item ∈ items, item.IsUnbroken) :
    sourceTokens (render items) = (items.flatMap Item.contents).map tokens := by
  rw [sourceTokens, lines_render h, map_tokens_linesOf]

/-- The tokens inside a block stand behind whatever stands before it. -/
theorem sourceTokens_render_append (items : List Item) (text : String) {rest : List Item}
    (h : ∀ item ∈ rest, item.IsUnbroken) :
    ∃ before, sourceTokens (render (items ++ .openBlock text :: rest))
      = before ++ (rest.flatMap Item.contents).map tokens := by
  rw [sourceTokens, lines_render_append items text h, List.map_append, map_tokens_linesOf]
  exact ⟨_, rfl⟩

end MasterData.Code
