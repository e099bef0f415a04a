-- SUMMARY: The shape of names in snake case, what it keeps of them, and the names that it leaves alone.
import Mathlib.Data.List.Chain
import MasterData.Proofs.Code.Identifiers

/-! # Snake case

Underscores are put between characters only, and only one at a time; all that is not an underscore comes
from the letters and numerals of the name, in their order. So snake case is a normal form of the names of
ASCII: it has their letters in lower case and their digits, and it leaves alone what has its shape. Main
statement: `snake_case_stable`.
-/

namespace MasterData.Naming

open Text

/-! ## Underscores -/

/-- Two neighbours that are not both underscores. -/
def Apart (c d : Char) : Prop := c ≠ '_' ∨ d ≠ '_'

instance (c d : Char) : Decidable (Apart c d) :=
  inferInstanceAs (Decidable (_ ∨ _))

section Underscores

variable {previous next : Option Char} {c : Char} {cs ds reversed : List Char}

theorem Apart.symm {c d : Char} (h : Apart c d) : Apart d c := Or.symm h

theorem isChain_append_of_not_mem (hcs : '_' ∉ cs) (hds : ds.IsChain Apart) :
    (cs ++ ds).IsChain Apart := by
  induction cs with
  | nil => exact hds
  | cons c cs ih =>
    rw [List.mem_cons, not_or] at hcs
    exact List.isChain_cons.2 ⟨fun _ _ => .inl (Ne.symm hcs.1), ih hcs.2⟩

theorem isChain_separated (h : reversed.IsChain Apart) : (separated reversed).IsChain Apart := by
  obtain heq | ⟨heq, -, hhead⟩ := separated_cases reversed
  · rwa [heq]
  · rw [heq, List.isChain_cons]
    exact ⟨fun d hd => .inr fun hmark => hhead (hmark ▸ hd), h⟩

theorem isChain_snakeStep (h : reversed.IsChain Apart) :
    (snakeStep previous next c reversed).IsChain Apart := by
  cases hc : isAlphanumeric c with
  | false =>
    rw [snakeStep_of_not_isAlphanumeric hc]
    exact isChain_separated h
  | true =>
    obtain ⟨before, hbefore, heq⟩ := @snakeStep_cases previous next c reversed hc
    have hchain : before.IsChain Apart := by
      obtain rfl | rfl := hbefore
      · exact h
      · exact isChain_separated h
    rw [heq]
    exact isChain_append_of_not_mem (by simpa using underscore_not_mem_snakeChars hc) hchain

/-- Underscores stay single. -/
theorem isChain_snakeReversed (h : reversed.IsChain Apart) :
    (snakeReversed previous reversed cs).IsChain Apart := by
  induction cs generalizing previous reversed with
  | nil => exact h
  | cons c cs ih => exact ih (isChain_snakeStep h)

end Underscores

/-! ## Joined words -/

/-- Characters that have underscores between others only, and one at a time. -/
structure IsJoined (c : Char) (cs : List Char) : Prop where
  first : c ≠ '_'
  last : (c :: cs).getLast? ≠ some '_'
  apart : (c :: cs).IsChain Apart

/-- A name without letters and numerals becomes the word that is there for it. Another one becomes joined
words of what its letters and numerals become, behind an underscore if a numeral comes first. -/
theorem snakeCase_joined (name : String) :
    (name.toList.filter isAlphanumeric = [] ∧ snakeCase name = "field")
      ∨ ∃ d cs, IsJoined d cs
        ∧ (d :: cs).filter (· ≠ '_') = (name.toList.filter isAlphanumeric).flatMap snakeChars
        ∧ snakeCase name = String.ofList (if isNumeral d then '_' :: d :: cs else d :: cs) := by
  obtain ⟨hfind, heq⟩ | ⟨c, d, cs, hfind, hd, -, hdrop, hfilter, heq⟩ := snakeCase_cases name
  · exact .inl ⟨List.filter_eq_nil_iff.2 (List.find?_eq_none.1 hfind), heq⟩
  · have hlast : (d :: cs).getLast? ≠ some '_' := fun hmark => by
      rw [← List.head?_reverse, ← hdrop] at hmark
      exact absurd (not_of_mem_head?_dropWhile _ hmark) (by simp)
    have hapart : (d :: cs).IsChain Apart := by
      have := (@isChain_snakeReversed none name.toList [] .nil).suffix
        (List.dropWhile_suffix (· = '_'))
      rw [hdrop, List.isChain_reverse] at this
      exact this.imp fun _ _ => Apart.symm
    exact .inr ⟨d, cs, ⟨hd, hlast, hapart⟩, hfilter, heq⟩

/-! ## The shape of ASCII -/

/-- A lower-case letter or a digit of ASCII, or an underscore. -/
def isSnakeChar (c : Char) : Bool := c.isLower || c.isDigit || c = '_'

/-- The shape of snake case: lower-case letters, digits and single underscores, where the last character
is no underscore, and the first one only before a digit, which itself does not come first. -/
structure IsSnakeCase (word : String) : Prop where
  nonempty : word ≠ ""
  chars : ∀ c ∈ word.toList, isSnakeChar c = true
  first : ∀ c ∈ word.toList.head?, c.isDigit = false
  last : word.toList.getLast? ≠ some '_'
  apart : word.toList.IsChain Apart
  mark : word.toList.head? = some '_' → ∃ d, word.toList[1]? = some d ∧ d.isDigit = true

section Shape

variable {previous next : Option Char} {c d : Char} {cs reversed : List Char} {word : String}

theorem isSnakeChar_iff : isSnakeChar c = true ↔ c = '_' ∨ c.isLower = true ∨ c.isDigit = true := by
  simp only [isSnakeChar, Bool.or_eq_true, decide_eq_true_eq]
  exact or_comm

/-- Another character of snake case than the underscore is a letter or a numeral and no capital, and of the
numerals only the digits are among them. -/
theorem isSnakeChar_classes (h : isSnakeChar c = true) (hc : c ≠ '_') :
    isAlphanumeric c = true ∧ isUppercase c = false ∧ isNumeral c = c.isDigit := by
  have hascii : ∀ n < 128, isSnakeChar (Char.ofNat n) = true → Char.ofNat n ≠ '_' →
      isAlphanumeric (Char.ofNat n) = true ∧ isUppercase (Char.ofNat n) = false
        ∧ isNumeral (Char.ofNat n) = (Char.ofNat n).isDigit := by
    decide
  have hsmall : c.toNat < 128 := by
    obtain hmark | hlower | hdigit := isSnakeChar_iff.1 h
    · exact absurd hmark hc
    · exact Nat.lt_of_le_of_lt (isLower_iff.1 hlower).2 (by decide)
    · exact Nat.lt_of_le_of_lt (Char.isDigit_iff_toNat.1 hdigit).2 (by decide)
  exact forall_ascii (P := fun c => isSnakeChar c = true → c ≠ '_' →
    isAlphanumeric c = true ∧ isUppercase c = false ∧ isNumeral c = c.isDigit) hascii hsmall h hc

theorem separated_cons (hd : d ≠ '_') : separated (d :: reversed) = '_' :: d :: reversed := by
  unfold separated
  split
  · contradiction
  · rename_i heq
    exact absurd (List.cons.inj heq).1 hd
  · rfl

theorem snakeStep_of_isSnakeChar (h : isSnakeChar c = true) (hc : c ≠ '_') :
    snakeStep previous next c reversed = c :: reversed := by
  obtain ⟨halphanumeric, hcapital, -⟩ := isSnakeChar_classes h hc
  simp [snakeStep, halphanumeric, hcapital]

/-- Snake case only appends what has its shape. -/
theorem snakeReversed_of_isChain (hchars : ∀ c ∈ cs, isSnakeChar c = true)
    (hapart : (d :: cs).IsChain Apart) :
    snakeReversed previous (d :: reversed) cs = cs.reverse ++ d :: reversed := by
  induction cs generalizing previous d reversed with
  | nil => rfl
  | cons c cs ih =>
    rw [List.forall_mem_cons] at hchars
    rw [List.isChain_cons_cons] at hapart
    have hstep : snakeStep previous cs.head? c (d :: reversed) = c :: d :: reversed := by
      by_cases hc : c = '_'
      · rw [hc, snakeStep_of_not_isAlphanumeric rfl, separated_cons (hapart.1.resolve_right (· hc))]
      · exact snakeStep_of_isSnakeChar hchars.1 hc
    rw [snakeReversed, hstep, ih hchars.2 hapart.2, List.reverse_cons, List.append_assoc]
    rfl

theorem IsJoined.snakeReversed_eq (h : IsJoined c cs) (hchars : ∀ d ∈ c :: cs, isSnakeChar d = true) :
    snakeReversed previous [] (c :: cs) = (c :: cs).reverse := by
  rw [List.forall_mem_cons] at hchars
  rw [snakeReversed, snakeStep_of_isSnakeChar hchars.1 h.first,
    snakeReversed_of_isChain hchars.2 h.apart, List.reverse_cons]

/-- Joined words stay as they are, with the underscore in front if they have it. -/
theorem IsJoined.snakeCase_eq (h : IsJoined c cs) (hchars : ∀ d ∈ c :: cs, isSnakeChar d = true) :
    snakeCase (String.ofList (if isNumeral c then '_' :: c :: cs else c :: cs))
      = String.ofList (if isNumeral c then '_' :: c :: cs else c :: cs) := by
  have hrun : snakeReversed none [] (if isNumeral c then '_' :: c :: cs else c :: cs)
      = (c :: cs).reverse := by
    split
    · rw [snakeReversed, snakeStep_of_not_isAlphanumeric rfl]
      exact h.snakeReversed_eq hchars
    · exact h.snakeReversed_eq hchars
  have htrim : (c :: cs).reverse.dropWhile (· = '_') = (c :: cs).reverse := by
    refine dropWhile_eq_self fun d hd => ?_
    rw [List.head?_reverse] at hd
    exact decide_eq_false fun hmark => h.last (hmark ▸ hd)
  rw [snakeCase, String.toList_ofList, hrun, htrim, List.reverse_reverse]

theorem isNumeral_of_isDigit (h : c.isDigit = true) : c ≠ '_' ∧ isNumeral c = true := by
  have hc : c ≠ '_' := by
    rintro rfl
    cases h
  exact ⟨hc, (isSnakeChar_classes (isSnakeChar_iff.2 (.inr (.inr h))) hc).2.2.trans h⟩

/-- The shape is that of joined words, with an underscore in front if a digit comes first. -/
theorem isSnakeCase_iff : IsSnakeCase word ↔ ∃ c cs, IsJoined c cs
    ∧ (∀ d ∈ c :: cs, isSnakeChar d = true)
    ∧ word = String.ofList (if isNumeral c then '_' :: c :: cs else c :: cs) := by
  constructor
  · intro h
    obtain ⟨c, cs, hcs⟩ := List.exists_cons_of_ne_nil (String.toList_eq_nil_iff.not.2 h.nonempty)
    have hword : word = String.ofList (c :: cs) := by rw [← hcs, String.ofList_toList]
    obtain ⟨-, hchars, hfirst, hlast, hapart, hmark⟩ := h
    rw [hcs] at hchars hfirst hlast hapart hmark
    by_cases hc : c = '_'
    · subst hc
      obtain ⟨d, hd, hdigit⟩ := hmark rfl
      obtain ⟨ds, rfl⟩ : ∃ ds, cs = d :: ds := List.head?_eq_some_iff.1 (by
        simpa [List.head?_eq_getElem?] using hd)
      obtain ⟨hne, hnumeral⟩ := isNumeral_of_isDigit hdigit
      exact ⟨d, ds, ⟨hne, hlast, List.isChain_of_isChain_cons hapart⟩,
        (List.forall_mem_cons.1 hchars).2, by rw [hword, if_pos hnumeral]⟩
    · have hnumeral : isNumeral c = false :=
        (isSnakeChar_classes (List.forall_mem_cons.1 hchars).1 hc).2.2.trans (hfirst c rfl)
      exact ⟨c, cs, ⟨hc, hlast, hapart⟩, hchars, by rw [hword, hnumeral]; rfl⟩
  · rintro ⟨c, cs, hjoined, hchars, rfl⟩
    have hdigit := (isSnakeChar_classes (List.forall_mem_cons.1 hchars).1 hjoined.first).2.2
    split
    · rename_i hnumeral
      refine ⟨ofList_cons_ne_empty _ _, ?_, ?_, ?_, ?_, ?_⟩ <;> rw [String.toList_ofList]
      · exact List.forall_mem_cons.2 ⟨rfl, hchars⟩
      · rintro _ ⟨⟩
        rfl
      · exact hjoined.last
      · exact .cons_cons (.inr hjoined.first) hjoined.apart
      · exact fun _ => ⟨c, rfl, hdigit.symm.trans hnumeral⟩
    · rename_i hnumeral
      refine ⟨ofList_cons_ne_empty _ _, ?_, ?_, ?_, ?_, ?_⟩ <;> rw [String.toList_ofList]
      · exact hchars
      · rintro _ ⟨⟩
        exact hdigit.symm.trans (Bool.eq_false_iff.2 hnumeral)
      · exact hjoined.last
      · exact hjoined.apart
      · exact fun hmark => absurd (Option.some.inj hmark) hjoined.first

/-- What has the shape is left alone. -/
theorem IsSnakeCase.snakeCase_eq (h : IsSnakeCase word) : snakeCase word = word := by
  obtain ⟨c, cs, hjoined, hchars, rfl⟩ := isSnakeCase_iff.1 h
  exact hjoined.snakeCase_eq hchars

end Shape

/-! ## Names of ASCII -/

section Ascii

variable {c d : Char} {name : String}

theorem snakeChars_of_ascii (hc : c.toNat < 128) : snakeChars c = [c.toLower] := by
  have hascii : ∀ n < 128, snakeChars (Char.ofNat n) = [(Char.ofNat n).toLower] := by decide
  exact forall_ascii (P := fun c => snakeChars c = [c.toLower]) hascii hc

theorem isSnakeChar_toLower (hc : c.toNat < 128) (h : c.isAlphanum = true) :
    isSnakeChar c.toLower = true := by
  have hascii : ∀ n < 128, (Char.ofNat n).isAlphanum = true →
      isSnakeChar (Char.ofNat n).toLower = true := by
    decide
  exact forall_ascii (P := fun c => c.isAlphanum = true → isSnakeChar c.toLower = true) hascii hc h

/-- Of the characters of snake case only the underscore is no letter and no digit. -/
theorem isAlphanum_of_isSnakeChar (h : isSnakeChar c = true) : c.isAlphanum = decide (c ≠ '_') := by
  by_cases hc : c = '_'
  · rw [hc]
    rfl
  · have halphanum : c.isAlphanum = (c.isUpper || c.isLower || c.isDigit) := rfl
    rw [decide_eq_true hc, halphanum]
    obtain hlower | hdigit := (isSnakeChar_iff.1 h).resolve_left hc
    · rw [hlower, Bool.or_true, Bool.true_or]
    · rw [hdigit, Bool.or_true]

theorem isSnakeCase_field : IsSnakeCase "field" :=
  isSnakeCase_iff.2 ⟨'f', "ield".toList, ⟨by decide, by decide, by decide⟩,
    List.all_eq_true.1 (by decide), rfl⟩

theorem flatMap_snakeChars {cs : List Char} (hascii : ∀ c ∈ cs, c.toNat < 128) :
    (cs.filter isAlphanumeric).flatMap snakeChars = (cs.filter Char.isAlphanum).map Char.toLower := by
  rw [List.filter_congr fun c hc => isAlphanumeric_of_ascii (hascii c hc), List.map_eq_flatMap]
  exact List.flatMap_congr fun c hc => snakeChars_of_ascii (hascii c (List.mem_of_mem_filter hc))

/-- The shape of a name of ASCII in snake case, and its letters and digits. -/
theorem isSnakeCase_snakeCase (hascii : ∀ c ∈ name.toList, c.toNat < 128) :
    IsSnakeCase (snakeCase name)
      ∧ if name.toList.any Char.isAlphanum then
          (snakeCase name).toList.filter Char.isAlphanum
            = (name.toList.filter Char.isAlphanum).map Char.toLower
        else snakeCase name = "field" := by
  have hletters := flatMap_snakeChars hascii
  obtain ⟨hnone, heq⟩ | ⟨d, cs, hjoined, hfilter, heq⟩ := snakeCase_joined name
  · have hany : ¬ name.toList.any Char.isAlphanum = true := by
      rw [hnone, List.flatMap_nil, eq_comm, List.map_eq_nil_iff, List.filter_eq_nil_iff] at hletters
      simpa using hletters
    rw [if_neg hany, heq]
    exact ⟨isSnakeCase_field, rfl⟩
  · rw [hletters] at hfilter
    have hfrom : ∀ e ∈ d :: cs, e ≠ '_' → ∃ c ∈ name.toList, c.isAlphanum = true ∧ c.toLower = e := by
      intro e he hne
      have hmem : e ∈ (d :: cs).filter (· ≠ '_') := List.mem_filter.2 ⟨he, by simpa using hne⟩
      rw [hfilter] at hmem
      obtain ⟨c, hc, heq⟩ := List.mem_map.1 hmem
      exact ⟨c, (List.mem_filter.1 hc).1, (List.mem_filter.1 hc).2, heq⟩
    have hchars : ∀ e ∈ d :: cs, isSnakeChar e = true := by
      intro e he
      by_cases hmark : e = '_'
      · rw [hmark]
        rfl
      · obtain ⟨c, hc, halphanum, rfl⟩ := hfrom e he hmark
        exact isSnakeChar_toLower (hascii c hc) halphanum
    have hshape : IsSnakeCase (snakeCase name) := isSnakeCase_iff.2 ⟨d, cs, hjoined, hchars, heq⟩
    have hany : name.toList.any Char.isAlphanum = true := by
      obtain ⟨c, hc, halphanum, -⟩ := hfrom d (List.mem_cons_self ..) hjoined.first
      exact List.any_eq_true.2 ⟨c, hc, halphanum⟩
    have hmarked : (snakeCase name).toList.filter (· ≠ '_') = (d :: cs).filter (· ≠ '_') := by
      rw [heq, String.toList_ofList]
      split
      · exact List.filter_cons_of_neg (by simp)
      · rfl
    rw [if_pos hany, List.filter_congr fun c hc => isAlphanum_of_isSnakeChar (hshape.chars c hc), hmarked,
      hfilter]
    exact ⟨hshape, rfl⟩

/-- Snake case of a name of ASCII has the shape: it is not empty, has lower-case letters, digits and single
underscores only, does not start with a digit or end in an underscore, and starts with an underscore only
before a digit. Its letters and digits are those of the name in their order, in lower case; a name without
any becomes `field`. Snake case leaves alone what it gives, and a name just if it has the shape. -/
theorem snake_case_stable (name : String) (hascii : ∀ c ∈ name.toList, c.toNat < 128) :
    IsSnakeCase (snakeCase name)
      ∧ (if name.toList.any Char.isAlphanum then
          (snakeCase name).toList.filter Char.isAlphanum
            = (name.toList.filter Char.isAlphanum).map Char.toLower
        else snakeCase name = "field")
      ∧ snakeCase (snakeCase name) = snakeCase name
      ∧ (snakeCase name = name ↔ IsSnakeCase name) := by
  obtain ⟨hshape, hletters⟩ := isSnakeCase_snakeCase hascii
  exact ⟨hshape, hletters, hshape.snakeCase_eq, fun heq => heq ▸ hshape, IsSnakeCase.snakeCase_eq⟩

/-- A digit in front, capitals in a row, marks next to each other and one at the end. -/
theorem snake_case_stable_acronyms :
    (∀ c ∈ "2 HTTPServers--IDMax_".toList, c.toNat < 128)
      ∧ snakeCase "2 HTTPServers--IDMax_" = "_2_http_servers_id_max"
      ∧ IsSnakeCase "_2_http_servers_id_max"
      ∧ "_2_http_servers_id_max".toList.filter Char.isAlphanum
        = ("2 HTTPServers--IDMax_".toList.filter Char.isAlphanum).map Char.toLower
      ∧ snakeCase "_2_http_servers_id_max" = "_2_http_servers_id_max" := by
  have hascii : ∀ c ∈ "2 HTTPServers--IDMax_".toList, c.toNat < 128 := by simp
  have heq : snakeCase "2 HTTPServers--IDMax_" = "_2_http_servers_id_max" := by decide
  obtain ⟨hshape, hletters, hstable, -⟩ := snake_case_stable _ hascii
  rw [if_pos (by decide), heq] at hletters
  rw [heq] at hshape hstable
  exact ⟨hascii, heq, hshape, hletters, hstable⟩

end Ascii

end MasterData.Naming
