-- SUMMARY: Which names of masters and columns become identifiers that the language takes.
import Mathlib.Data.List.TakeWhile
import MasterData.Proofs.Code.FieldNames
import MasterData.Proofs.Text.IdentifierChars

/-! # Legal identifiers

Names become fields, modules and types by letting through all letters and numerals. The repairs that
follow always work: no identifier is empty or an underscore alone, none starts with a digit, and no
reserved word is left without its mark. But the language does not take all letters and numerals: a
superscript or a fraction goes through into an identifier that is not legal, and so does a mark at the
start of a name. Main statement: `identifiers_legal_iff_spelled`.
-/

namespace MasterData.Naming

open Text

/-! ## The rules of the language -/

/-- The reserved words that the language uses. -/
def wordsInUse : List String := [
  "as", "async", "await", "break", "const", "continue", "crate", "dyn", "else", "enum", "extern",
  "false", "fn", "for", "if", "impl", "in", "let", "loop", "match", "mod", "move", "mut", "pub", "ref",
  "return", "self", "Self", "static", "struct", "super", "trait", "true", "type", "unsafe", "use",
  "where", "while"]

/-- The reserved words that the language keeps for later. -/
def wordsForLater : List String := [
  "gen", "abstract", "become", "box", "do", "final", "macro", "override", "priv", "try", "typeof",
  "unsized", "virtual", "yield"]

def reservedWords : List String := wordsInUse ++ wordsForLater

/-- The reserved words that the mark does not turn into identifiers. -/
def unmarkableWords : List String := ["crate", "self", "Self", "super"]

/-- A reserved word has the mark in front, and is one that may have it. -/
def SparesReserved (ident : String) : Prop :=
  unmarked ident ∈ reservedWords →
    ident = "r#" ++ unmarked ident ∧ unmarked ident ∉ unmarkableWords

/-- A text that starts with an underscore or a starting character, goes on with continuing ones and is
no underscore alone. -/
structure IsWord (text : String) : Prop where
  nonempty : text ≠ ""
  first : ∀ c ∈ text.toList.head?, c = '_' ∨ isXidStart c
  rest : ∀ c ∈ text.toList.tail, isXidContinue c
  notUnderscore : text ≠ "_"

/-- The rules of the language for an identifier. -/
structure IsLegal (ident : String) : Prop where
  word : IsWord (unmarked ident)
  reserved : SparesReserved ident

/-- The two lists of reserved words differ in the place of one word. -/
theorem mem_reservedWords_iff {word : String} : word ∈ reservedWords ↔ word ∈ keywords := by
  have hkeywords : keywords
      = wordsInUse.take 14 ++ "gen" :: (wordsInUse.drop 14 ++ wordsForLater.tail) := rfl
  have hreserved : reservedWords = wordsInUse ++ "gen" :: wordsForLater.tail := rfl
  rw [hkeywords, hreserved, List.perm_middle.mem_iff, List.perm_middle.mem_iff, ← List.append_assoc,
    List.take_append_drop]

theorem mem_unmarkableWords_iff {word : String} : word ∈ unmarkableWords ↔ word ∈ strictKeywords := by
  have hsubset : unmarkableWords ⊆ strictKeywords := by decide
  have hsuperset : strictKeywords ⊆ unmarkableWords := by decide
  exact ⟨fun h => hsubset h, fun h => hsuperset h⟩

/-- The letters and numerals of a name may all stand in identifiers, and the first of them may lead. -/
structure IsSpelled (lead : Char → Bool) (name : String) : Prop where
  all : ∀ c ∈ name.toList, isAlphanumeric c → isXidContinue c
  first : ∀ c ∈ name.toList.find? isAlphanumeric, lead c

/-! ## Words -/

section Words

variable {word text : String} {c d : Char} {cs : List Char}

theorem ofList_cons_ne_empty (c : Char) (cs : List Char) : String.ofList (c :: cs) ≠ "" := by
  rw [ne_eq, ← String.toList_eq_nil_iff, String.toList_ofList]
  exact List.cons_ne_nil c cs

theorem ofList_cons_eq_underscore_iff : String.ofList (c :: cs) = "_" ↔ c = '_' ∧ cs = [] := by
  rw [← String.toList_inj, String.toList_ofList]
  exact List.cons_eq_cons

/-- A word, by its first character and the others. -/
theorem isWord_ofList_cons_iff : IsWord (String.ofList (c :: cs))
    ↔ (c = '_' ∨ isXidStart c = true) ∧ (∀ e ∈ cs, isXidContinue e = true) ∧ ¬ (c = '_' ∧ cs = []) := by
  constructor
  · intro h
    exact ⟨h.first c (by simp), fun e he => h.rest e (by simpa using he),
      fun heq => h.notUnderscore (ofList_cons_eq_underscore_iff.2 heq)⟩
  · rintro ⟨hfirst, hrest, hne⟩
    refine ⟨ofList_cons_ne_empty _ _, fun e he => ?_, fun e he => hrest e (by simpa using he),
      fun heq => hne (ofList_cons_eq_underscore_iff.1 heq)⟩
    obtain rfl : c = e := by simpa using he
    exact hfirst

/-- What the language takes of characters that get a mark in front if a numeral leads them. -/
theorem isWord_ofList_iff {mark : Char} (hmark : mark = '_' ∨ isXidStart mark = true) (hd : d ≠ '_') :
    IsWord (String.ofList (if isNumeral d then mark :: d :: cs else d :: cs))
      ↔ canLead d = true ∧ (d :: cs).all isXidContinue = true := by
  rw [List.all_eq_true]
  split
  · rename_i hnumeral
    rw [isWord_ofList_cons_iff, canLead, hnumeral, Bool.or_true]
    constructor
    · rintro ⟨-, hrest, -⟩
      exact ⟨rfl, hrest⟩
    · rintro ⟨-, hrest⟩
      exact ⟨hmark, hrest, fun heq => List.cons_ne_nil _ _ heq.2⟩
  · rename_i hnumeral
    rw [Bool.not_eq_true] at hnumeral
    rw [isWord_ofList_cons_iff, canLead, hnumeral, Bool.or_false, List.forall_mem_cons]
    constructor
    · rintro ⟨hfirst, hrest, -⟩
      have hstart := hfirst.resolve_left hd
      exact ⟨hstart, isXidContinue_of_isXidStart hstart, hrest⟩
    · rintro ⟨hstart, -, hrest⟩
      exact ⟨.inr hstart, hrest, fun heq => hd heq.1⟩

theorem IsWord.append_underscore (h : IsWord text) : IsWord (text ++ "_") := by
  have hne : text.toList ≠ [] := fun hnil => h.nonempty (String.toList_eq_nil_iff.1 hnil)
  obtain ⟨c, cs, hcs⟩ := List.exists_cons_of_ne_nil hne
  have htext : text = String.ofList (c :: cs) := by rw [← hcs, String.ofList_toList]
  have hlonger : text ++ "_" = String.ofList (c :: (cs ++ ['_'])) := by
    rw [htext, ← String.toList_inj]
    simp
  rw [htext, isWord_ofList_cons_iff] at h
  rw [hlonger, isWord_ofList_cons_iff]
  obtain ⟨hfirst, hrest, -⟩ := h
  refine ⟨hfirst, List.forall_mem_append.2 ⟨hrest, ?_⟩, fun heq => ?_⟩
  · exact List.forall_mem_singleton.2 isXidContinue_underscore
  · exact List.append_ne_nil_of_right_ne_nil _ (List.cons_ne_nil _ _) heq.2

/-- Letters of ASCII make a word. -/
theorem isWord_of_all_isAlpha (hempty : text ≠ "") (h : text.toList.all Char.isAlpha = true) :
    IsWord text := by
  have hstart : ∀ c ∈ text.toList, isXidStart c = true := fun c hc =>
    isXidStart_of_isAlpha (List.all_eq_true.1 h c hc)
  refine ⟨hempty, fun c hc => .inr (hstart c (List.mem_of_mem_head? hc)),
    fun c hc => isXidContinue_of_isXidStart (hstart c (List.mem_of_mem_tail hc)), ?_⟩
  rintro rfl
  exact absurd h (by decide)

theorem isWord_of_mem_keywords (h : word ∈ keywords) : IsWord word := by
  have hall : ∀ word ∈ keywords, word ≠ "" ∧ word.toList.all Char.isAlpha = true := by
    decide
  exact isWord_of_all_isAlpha (hall word h).1 (hall word h).2

end Words

/-! ## Reserved words -/

section Reserved

variable {word ident : String}

theorem sparesReserved_of_not_mem (h : unmarked ident ∉ keywords) : SparesReserved ident :=
  fun hreserved => absurd (mem_reservedWords_iff.1 hreserved) h

theorem sparesReserved_marked (h : word ∉ strictKeywords) : SparesReserved ("r#" ++ word) := by
  intro _
  rw [unmarked_marked]
  exact ⟨rfl, fun hword => h (mem_unmarkableWords_iff.1 hword)⟩

theorem append_underscore_not_mem_keywords (word : String) : word ++ "_" ∉ keywords := fun h =>
  (not_mem_of_mem_keywords _ h).1 (by simp [String.toList_append])

theorem hash_not_mem_append_underscore (h : '#' ∉ word.toList) : '#' ∉ (word ++ "_").toList := by
  simp [String.toList_append, h]

/-- How a word becomes an identifier. -/
inductive Repaired (word : String) : String → Prop
  /-- A word that is not reserved stays as it is. -/
  | plain (h : word ∉ keywords) : Repaired word word
  /-- A reserved word gets an underscore behind it. -/
  | suffixed (h : word ∈ keywords) : Repaired word (word ++ "_")
  /-- A reserved word gets the mark, where the language lets it. -/
  | marked (h : word ∈ keywords) (hstrict : word ∉ strictKeywords) : Repaired word ("r#" ++ word)

namespace Repaired

/-- No repair leaves a reserved word as it is. -/
theorem sparesReserved (h : Repaired word ident) (hhash : '#' ∉ word.toList) :
    SparesReserved ident := by
  cases h with
  | plain hplain => exact sparesReserved_of_not_mem (by rwa [unmarked_of_not_mem hhash])
  | suffixed =>
    refine sparesReserved_of_not_mem ?_
    rw [unmarked_of_not_mem (hash_not_mem_append_underscore hhash)]
    exact append_underscore_not_mem_keywords word
  | marked _ hstrict => exact sparesReserved_marked hstrict

/-- Every repair of a reserved word is a word, and so is the reserved word. -/
theorem isWord_iff (h : Repaired word ident) (hhash : '#' ∉ word.toList) :
    IsWord (unmarked ident) ↔ IsWord word := by
  cases h with
  | plain => rw [unmarked_of_not_mem hhash]
  | suffixed hkeyword =>
    have hword := isWord_of_mem_keywords hkeyword
    rw [unmarked_of_not_mem (hash_not_mem_append_underscore hhash)]
    exact ⟨fun _ => hword, fun _ => hword.append_underscore⟩
  | marked => rw [unmarked_marked]

theorem isLegal_iff (h : Repaired word ident) (hhash : '#' ∉ word.toList) :
    IsLegal ident ↔ IsWord word := by
  rw [← h.isWord_iff hhash]
  exact ⟨fun hlegal => hlegal.word, fun hword => ⟨hword, h.sparesReserved hhash⟩⟩

theorem unmarked_ne (h : Repaired word ident) (hhash : '#' ∉ word.toList)
    (hword : word ≠ "" ∧ word ≠ "_") : unmarked ident ≠ "" ∧ unmarked ident ≠ "_" := by
  cases h with
  | plain => rwa [unmarked_of_not_mem hhash]
  | suffixed hkeyword =>
    have := (isWord_of_mem_keywords hkeyword).append_underscore
    rw [unmarked_of_not_mem (hash_not_mem_append_underscore hhash)]
    exact ⟨this.nonempty, this.notUnderscore⟩
  | marked => rwa [unmarked_marked]

end Repaired

theorem repaired_fieldIdent (name : String) : Repaired (snakeCase name) (fieldIdent name) := by
  have hsubset : ∀ word ∈ strictKeywords, word ∈ keywords := by decide
  obtain ⟨hstrict, heq⟩ | ⟨⟨hkeyword, hraw⟩, heq⟩ | ⟨hplain, heq⟩ := fieldIdent_cases name
  · exact heq ▸ .suffixed (hsubset _ hstrict)
  · exact heq ▸ .marked hkeyword hraw
  · exact heq.symm ▸ .plain hplain

/-- A word with an underscore behind it if it is reserved. -/
theorem repaired_ite (word : String) :
    Repaired word (if isKeyword word then word ++ "_" else word) := by
  split
  · rename_i hword
    exact .suffixed (by simpa [isKeyword] using hword)
  · rename_i hword
    exact .plain (by simpa [isKeyword] using hword)

theorem repaired_moduleName (master : String) : Repaired (snakeCase master) (moduleName master) :=
  repaired_ite (snakeCase master)

/-- A name as a type, before the repair. -/
def typeWord (name : String) : String :=
  match camelChars true name.toList with
  | [] => "Master"
  | c :: cs => String.ofList (if isNumeral c then 'M' :: c :: cs else c :: cs)

theorem repaired_typeName (master : String) : Repaired (typeWord master) (typeName master) := by
  unfold typeWord typeName
  cases camelChars true master.toList with
  | nil => exact .plain (by decide)
  | cons c cs => exact repaired_ite _

end Reserved

/-! ## Snake case -/

section SnakeCase

/-- What a character is in snake case. -/
def snakeChars (c : Char) : List Char :=
  if isUppercase c then lowerCase c else [c]

/-- A character that stays out of identifiers, or may stand in them. -/
def isSpellable (c : Char) : Bool := !isAlphanumeric c || isXidContinue c

variable {previous next : Option Char} {c : Char} {cs reversed : List Char}

theorem recased_snakeChars (c : Char) : Recased c (snakeChars c) := by
  unfold snakeChars
  split
  · exact recased_lowerCase c
  · exact .same

theorem underscore_not_mem_snakeChars (hc : isAlphanumeric c = true) : '_' ∉ snakeChars c := by
  intro hmem
  rw [(recased_snakeChars c).eq_underscore hmem] at hc
  exact absurd hc (by decide)

theorem exists_cons_snakeChars (hc : isAlphanumeric c = true) :
    ∃ d rest, snakeChars c = d :: rest ∧ d ≠ '_' ∧ canLead d = canLead c := by
  obtain ⟨d, rest, heq, hlead⟩ := (recased_snakeChars c).exists_cons
  refine ⟨d, rest, heq, fun hd => underscore_not_mem_snakeChars hc ?_, hlead⟩
  simp [heq, hd]

theorem separated_cases (reversed : List Char) :
    separated reversed = reversed
      ∨ separated reversed = '_' :: reversed ∧ reversed ≠ [] ∧ reversed.head? ≠ some '_' := by
  unfold separated
  split
  · exact .inl rfl
  · exact .inl rfl
  · rename_i hnil hcons
    refine .inr ⟨rfl, hnil, fun hhead => ?_⟩
    obtain ⟨rest, rfl⟩ := List.head?_eq_some_iff.1 hhead
    exact hcons rest rfl

/-- A letter or a numeral is put in front, behind an underscore or without one. -/
theorem snakeStep_cases (hc : isAlphanumeric c = true) :
    ∃ before, (before = reversed ∨ before = separated reversed)
      ∧ snakeStep previous next c reversed = (snakeChars c).reverse ++ before := by
  unfold snakeStep snakeChars
  rw [hc]
  simp only [Bool.not_true, Bool.false_eq_true, if_false]
  split
  · split
    · exact ⟨_, .inr rfl, rfl⟩
    · exact ⟨_, .inl rfl, rfl⟩
  · exact ⟨_, .inl rfl, rfl⟩

theorem snakeStep_of_not_isAlphanumeric (hc : isAlphanumeric c = false) :
    snakeStep previous next c reversed = separated reversed := by
  rw [snakeStep, hc]
  rfl

theorem filter_separated (reversed : List Char) :
    (separated reversed).filter (· ≠ '_') = reversed.filter (· ≠ '_') := by
  obtain heq | ⟨heq, -, -⟩ := separated_cases reversed
  · rw [heq]
  · rw [heq, List.filter_cons_of_neg (by simp)]

theorem filter_snakeChars {c : Char} (hc : isAlphanumeric c = true) :
    (snakeChars c).filter (· ≠ '_') = snakeChars c := by
  rw [List.filter_eq_self]
  intro d hd
  have hne : d ≠ '_' := fun heq => underscore_not_mem_snakeChars hc (heq ▸ hd)
  simpa using hne

theorem filter_snakeStep (previous next : Option Char) (c : Char) (reversed : List Char) :
    (snakeStep previous next c reversed).filter (· ≠ '_')
      = (if isAlphanumeric c then (snakeChars c).reverse else []) ++ reversed.filter (· ≠ '_') := by
  cases hc : isAlphanumeric c with
  | false =>
    rw [snakeStep_of_not_isAlphanumeric hc, filter_separated]
    rfl
  | true =>
    obtain ⟨before, hbefore, heq⟩ := @snakeStep_cases previous next c reversed hc
    have hfilter : before.filter (· ≠ '_') = reversed.filter (· ≠ '_') := by
      obtain rfl | rfl := hbefore
      · rfl
      · exact filter_separated reversed
    rw [heq, List.filter_append, List.filter_reverse, filter_snakeChars hc, hfilter, if_pos rfl]

/-- What is no underscore comes from the letters and numerals, in their order. -/
theorem filter_snakeReversed (previous : Option Char) (reversed cs : List Char) :
    (snakeReversed previous reversed cs).filter (· ≠ '_')
      = ((cs.filter isAlphanumeric).flatMap snakeChars).reverse ++ reversed.filter (· ≠ '_') := by
  induction cs generalizing previous reversed with
  | nil => rfl
  | cons c cs ih =>
    rw [snakeReversed, ih, filter_snakeStep]
    cases hc : isAlphanumeric c <;> simp [hc]

theorem all_snakeChars (cs : List Char) :
    ((cs.filter isAlphanumeric).flatMap snakeChars).all isXidContinue = cs.all isSpellable := by
  rw [List.all_flatMap, List.all_filter]
  simp only [(recased_snakeChars _).all_isXidContinue]
  rfl

theorem getLast?_separated (h : reversed ≠ []) :
    separated reversed ≠ [] ∧ (separated reversed).getLast? = reversed.getLast? := by
  obtain heq | ⟨heq, -, -⟩ := separated_cases reversed
  · rw [heq]
    exact ⟨h, rfl⟩
  · rw [heq]
    exact ⟨List.cons_ne_nil _ _, List.getLast?_cons_of_ne_nil h⟩

/-- What is there already stays at the start. -/
theorem getLast?_snakeStep (h : reversed ≠ []) :
    snakeStep previous next c reversed ≠ []
      ∧ (snakeStep previous next c reversed).getLast? = reversed.getLast? := by
  cases hc : isAlphanumeric c with
  | false =>
    rw [snakeStep_of_not_isAlphanumeric hc]
    exact getLast?_separated h
  | true =>
    obtain ⟨before, hbefore, heq⟩ := @snakeStep_cases previous next c reversed hc
    obtain ⟨hne, hlast⟩ : before ≠ [] ∧ before.getLast? = reversed.getLast? := by
      obtain rfl | rfl := hbefore
      · exact ⟨h, rfl⟩
      · exact getLast?_separated h
    rw [heq, List.getLast?_append_of_ne_nil _ hne]
    exact ⟨List.append_ne_nil_of_right_ne_nil _ hne, hlast⟩

theorem getLast?_snakeReversed (h : reversed ≠ []) :
    (snakeReversed previous reversed cs).getLast? = reversed.getLast? := by
  induction cs generalizing previous reversed with
  | nil => rfl
  | cons c cs ih =>
    obtain ⟨hne, hlast⟩ := @getLast?_snakeStep previous cs.head? c reversed h
    rw [snakeReversed, ih hne, hlast]

/-- Snake case starts with what the first letter or numeral becomes. -/
theorem getLast?_snakeReversed_nil (previous : Option Char) (cs : List Char) :
    (snakeReversed previous [] cs).getLast?
      = (cs.find? isAlphanumeric).bind fun c => (snakeChars c).head? := by
  induction cs generalizing previous with
  | nil => rfl
  | cons c cs ih =>
    rw [snakeReversed]
    cases hc : isAlphanumeric c with
    | false =>
      rw [snakeStep_of_not_isAlphanumeric hc, List.find?_cons_of_neg (by simp [hc])]
      exact ih _
    | true =>
      obtain ⟨before, hbefore, heq⟩ := @snakeStep_cases previous cs.head? c [] hc
      obtain rfl : before = [] := hbefore.elim id id
      obtain ⟨d, rest, hchars, -⟩ := exists_cons_snakeChars hc
      rw [heq, List.append_nil, getLast?_snakeReversed (by simp [hchars]), List.getLast?_reverse,
        List.find?_cons_of_pos hc, Option.bind_some]

theorem filter_dropWhile_underscore (cs : List Char) :
    (cs.dropWhile (· = '_')).filter (· ≠ '_') = cs.filter (· ≠ '_') := by
  induction cs with
  | nil => rfl
  | cons c cs ih =>
    rw [List.dropWhile_cons]
    split
    · rename_i hc
      rw [ih, List.filter_cons_of_neg (by simpa using hc)]
    · rfl

/-- Underscores may stand in identifiers. -/
theorem all_filter_underscore (cs : List Char) :
    (cs.filter (· ≠ '_')).all isXidContinue = cs.all isXidContinue := by
  rw [List.all_filter]
  refine List.all_congr rfl fun c => ?_
  by_cases hc : c = '_'
  · rw [hc, isXidContinue_underscore, Bool.or_true]
  · simp [hc]

/-- Trimming underscores from one end keeps the character at the other. -/
theorem exists_dropWhile_eq_concat {d : Char} (h : cs.getLast? = some d) (hd : d ≠ '_') :
    ∃ before, cs.dropWhile (· = '_') = before ++ [d] := by
  have hmem : d ∈ cs := List.mem_of_getLast? h
  have hne : cs.dropWhile (· = '_') ≠ [] := fun hnil => by
    have := List.dropWhile_eq_nil_iff.1 hnil d hmem
    exact hd (by simpa using this)
  obtain ⟨dropped, hsplit⟩ := List.dropWhile_suffix (l := cs) (· = '_')
  rw [← hsplit, List.getLast?_append_of_ne_nil _ hne, List.getLast?_eq_some_iff] at h
  exact h

/-- A name without letters and numerals becomes the word that is there for it. Another one starts with
what its first letter or numeral becomes, behind an underscore if that is a numeral, and has between its
underscores what all of them become. -/
theorem snakeCase_cases (name : String) :
    (name.toList.find? isAlphanumeric = none ∧ snakeCase name = "field")
      ∨ ∃ c d cs, name.toList.find? isAlphanumeric = some c ∧ d ≠ '_' ∧ canLead d = canLead c
        ∧ (snakeReversed none [] name.toList).dropWhile (· = '_') = (d :: cs).reverse
        ∧ (d :: cs).filter (· ≠ '_') = (name.toList.filter isAlphanumeric).flatMap snakeChars
        ∧ snakeCase name = String.ofList (if isNumeral d then '_' :: d :: cs else d :: cs) := by
  have hlast := getLast?_snakeReversed_nil none name.toList
  cases hfind : name.toList.find? isAlphanumeric with
  | none =>
    rw [hfind, Option.bind_none, List.getLast?_eq_none_iff] at hlast
    refine .inl ⟨rfl, ?_⟩
    rw [snakeCase, hlast]
    rfl
  | some c =>
    obtain ⟨d, rest, hchars, hd, hlead⟩ := exists_cons_snakeChars (List.find?_some hfind)
    rw [hfind, Option.bind_some, hchars, List.head?_cons] at hlast
    obtain ⟨before, hdrop⟩ := exists_dropWhile_eq_concat hlast hd
    have htrim : (snakeReversed none [] name.toList).dropWhile (· = '_')
        = (d :: before.reverse).reverse := by simpa using hdrop
    have hfilter := filter_dropWhile_underscore (snakeReversed none [] name.toList)
    rw [htrim, filter_snakeReversed, List.filter_nil, List.append_nil, List.filter_reverse] at hfilter
    refine .inr ⟨c, d, before.reverse, rfl, hd, hlead, htrim, List.reverse_injective hfilter, ?_⟩
    rw [snakeCase, htrim, List.reverse_reverse]

end SnakeCase

/-! ## Spelling -/

section Spelling

variable {lead : Char → Bool} {name word : String}

theorem isSpelled_iff : IsSpelled lead name
    ↔ (∀ c ∈ name.toList.find? isAlphanumeric, lead c = true) ∧ name.toList.all isSpellable = true := by
  have hall : name.toList.all isSpellable = true
      ↔ ∀ c ∈ name.toList, isAlphanumeric c = true → isXidContinue c = true := by
    simp only [List.all_eq_true, isSpellable, Bool.or_eq_true, Bool.not_eq_true']
    exact forall₂_congr fun c _ => by cases isAlphanumeric c <;> simp
  rw [hall]
  exact ⟨fun h => ⟨h.first, h.all⟩, fun h => ⟨h.2, h.1⟩⟩

/-- A name without letters and numerals is spelled. -/
theorem isSpelled_of_find?_eq_none (h : name.toList.find? isAlphanumeric = none) :
    IsSpelled lead name :=
  ⟨fun c hc halphanumeric => absurd halphanumeric (List.find?_eq_none.1 h c hc),
    fun c hc => by cases h ▸ hc⟩

/-- How a name becomes a word. -/
inductive Spells (lead : Char → Bool) (name : String) : String → Prop
  /-- A name without letters and numerals becomes a word that is there for it. -/
  | spare {word : String} (hfind : name.toList.find? isAlphanumeric = none) (hword : IsWord word) :
    Spells lead name word
  /-- Another name becomes what its letters and numerals become, behind a mark if a numeral comes
  first. -/
  | letters {mark c d : Char} {cs : List Char} (hfind : name.toList.find? isAlphanumeric = some c)
      (hmark : mark = '_' ∨ isXidStart mark = true) (hd : d ≠ '_') (hlead : canLead d = lead c)
      (hall : (d :: cs).all isXidContinue = name.toList.all isSpellable) :
    Spells lead name (String.ofList (if isNumeral d then mark :: d :: cs else d :: cs))

theorem Spells.isWord_iff (h : Spells lead name word) : IsWord word ↔ IsSpelled lead name := by
  cases h with
  | spare hfind hword => exact ⟨fun _ => isSpelled_of_find?_eq_none hfind, fun _ => hword⟩
  | letters hfind hmark hd hlead hall =>
    rw [isWord_ofList_iff hmark hd, hlead, hall, isSpelled_iff, hfind]
    simp

theorem Spells.ne (h : Spells lead name word) : word ≠ "" ∧ word ≠ "_" := by
  cases h with
  | spare _ hword => exact ⟨hword.nonempty, hword.notUnderscore⟩
  | letters _ _ hd =>
    split
    · exact ⟨ofList_cons_ne_empty _ _, fun heq =>
        List.cons_ne_nil _ _ (ofList_cons_eq_underscore_iff.1 heq).2⟩
    · exact ⟨ofList_cons_ne_empty _ _, fun heq => hd (ofList_cons_eq_underscore_iff.1 heq).1⟩

theorem spells_snakeCase (name : String) : Spells canLead name (snakeCase name) := by
  obtain ⟨hfind, heq⟩ | ⟨c, d, cs, hfind, hd, hlead, -, hfilter, heq⟩ := snakeCase_cases name
  · rw [heq]
    exact .spare hfind (isWord_of_all_isAlpha (by decide) (by decide))
  · rw [heq]
    refine .letters hfind (.inl rfl) hd hlead ?_
    rw [← all_filter_underscore, hfilter, all_snakeChars]

end Spelling

/-! ## Camel case -/

section CamelCase

theorem all_camelChars (fresh : Bool) (cs : List Char) :
    (camelChars fresh cs).all isXidContinue = cs.all isSpellable := by
  induction cs generalizing fresh with
  | nil => rw [camelChars, List.all_nil, List.all_nil]
  | cons c cs ih =>
    rw [camelChars, List.all_cons, isSpellable]
    cases hc : isAlphanumeric c with
    | false =>
      rw [if_neg (by decide), Bool.not_false, Bool.true_or, Bool.true_and]
      exact ih true
    | true =>
      have hfirst : (if fresh then upperCase c else [c]).all isXidContinue = isXidContinue c := by
        cases fresh with
        | false => rw [if_neg (by decide), List.all_cons, List.all_nil, Bool.and_true]
        | true => rw [if_pos rfl, all_upperCase]
      rw [if_pos rfl, List.all_append, hfirst, ih, Bool.not_true, Bool.false_or]

/-- Camel case starts with the upper case of the first letter or numeral. -/
theorem head?_camelChars (cs : List Char) :
    (camelChars true cs).head? = (cs.find? isAlphanumeric).bind fun c => (upperCase c).head? := by
  induction cs with
  | nil => rfl
  | cons c cs ih =>
    rw [camelChars]
    cases hc : isAlphanumeric c with
    | false =>
      rw [List.find?_cons_of_neg (by simp [hc])]
      exact ih
    | true =>
      obtain ⟨d, rest, heq, -⟩ := exists_cons_upperCase hc
      rw [List.find?_cons_of_pos hc, Option.bind_some]
      simp [heq]

theorem spells_typeWord (name : String) : Spells canLeadUpper name (typeWord name) := by
  have hhead := head?_camelChars name.toList
  have hall := all_camelChars true name.toList
  cases hfind : name.toList.find? isAlphanumeric with
  | none =>
    rw [hfind, Option.bind_none, List.head?_eq_none_iff] at hhead
    rw [typeWord, hhead]
    exact .spare hfind (isWord_of_all_isAlpha (by decide) (by decide))
  | some c =>
    obtain ⟨d, rest, hchars, hd, hlead⟩ := exists_cons_upperCase (List.find?_some hfind)
    rw [hfind, Option.bind_some, hchars, List.head?_cons] at hhead
    obtain ⟨cs, hcs⟩ := List.head?_eq_some_iff.1 hhead
    rw [hcs] at hall
    rw [typeWord, hcs]
    exact .letters hfind (.inr (isXidStart_of_isAlpha rfl)) hd hlead hall

/-- No type has the mark of keywords in it, before the repair either. -/
theorem hash_not_mem_typeWord (name : String) : '#' ∉ (typeWord name).toList := by
  have hchars : '#' ∉ camelChars true name.toList := fun h =>
    absurd (isWordPart_of_mem_camelChars '#' h) (by decide)
  unfold typeWord
  split
  · decide
  · rename_i c cs heq
    rw [heq] at hchars
    rw [String.toList_ofList]
    split
    · exact List.not_mem_cons_of_ne_of_not_mem (by decide) hchars
    · exact hchars

end CamelCase

/-! ## Identifiers -/

/-- The field, the module and the type of a name are legal just if all its letters and numerals may stand
in identifiers and the first of them may lead; for a type it may also be the one mark that is a letter
in upper case. In any case none of them is empty or an underscore alone, and none is a reserved word
without its mark. -/
theorem identifiers_legal_iff_spelled (name : String) :
    (IsLegal (fieldIdent name) ↔ IsSpelled canLead name)
      ∧ (IsLegal (moduleName name) ↔ IsSpelled canLead name)
      ∧ (IsLegal (typeName name) ↔ IsSpelled canLeadUpper name)
      ∧ ∀ ident ∈ [fieldIdent name, moduleName name, typeName name],
        unmarked ident ≠ "" ∧ unmarked ident ≠ "_" ∧ SparesReserved ident := by
  have hsnake := spells_snakeCase name
  have htype := spells_typeWord name
  have hsnakeHash := hash_not_mem_snakeCase name
  have htypeHash := hash_not_mem_typeWord name
  refine ⟨?_, ?_, ?_, ?_⟩
  · rw [(repaired_fieldIdent name).isLegal_iff hsnakeHash, hsnake.isWord_iff]
  · rw [(repaired_moduleName name).isLegal_iff hsnakeHash, hsnake.isWord_iff]
  · rw [(repaired_typeName name).isLegal_iff htypeHash, htype.isWord_iff]
  · have hsound : ∀ {word ident : String}, Repaired word ident → '#' ∉ word.toList →
        word ≠ "" ∧ word ≠ "_" → unmarked ident ≠ "" ∧ unmarked ident ≠ "_" ∧ SparesReserved ident :=
      fun h hhash hne => ⟨(h.unmarked_ne hhash hne).1, (h.unmarked_ne hhash hne).2,
        h.sparesReserved hhash⟩
    simp only [List.forall_mem_cons]
    exact ⟨hsound (repaired_fieldIdent name) hsnakeHash hsnake.ne,
      hsound (repaired_moduleName name) hsnakeHash hsnake.ne,
      hsound (repaired_typeName name) htypeHash htype.ne, List.forall_mem_nil _⟩

/-- A superscript goes through into the field, the module and the type. -/
theorem not_isLegal_superscript :
    fieldIdent "x²" = "x²" ∧ moduleName "x²" = "x²" ∧ typeName "x²" = "X²"
      ∧ ¬ IsLegal "x²" ∧ ¬ IsLegal "X²" := by
  have hcontinue : isXidContinue '²' = false := by decide +kernel
  refine ⟨by decide +kernel, by decide +kernel, by decide +kernel, fun h => ?_, fun h => ?_⟩
  · exact absurd (h.word.rest '²' (by decide)) (by simp [hcontinue])
  · exact absurd (h.word.rest '²' (by decide)) (by simp [hcontinue])

end MasterData.Naming
