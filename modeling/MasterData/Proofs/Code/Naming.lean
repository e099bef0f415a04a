-- SUMMARY: What the names of modules and types are made of.
import MasterData.Code.Naming
import MasterData.Proofs.Text.Characters

/-! # Words for names

Whatever a master is called, its module and its type are words: not empty, and made of word parts
only, so no mark of the language and no end of a line stands inside one. A module is no keyword and
holds no capital of ASCII. Main statements: `isWordPart_of_mem_moduleName`,
`not_isUpper_of_mem_moduleName` and `isWordPart_of_mem_typeName`.
-/

namespace MasterData.Naming

open Text

/-! ## Snake case -/

section SnakeCase

variable {P : Char → Prop}

theorem forall_separated (hmark : P '_') {reversed : List Char} (h : ∀ c ∈ reversed, P c) :
    ∀ c ∈ separated reversed, P c := by
  unfold separated
  split
  · exact h
  · exact h
  · exact List.forall_mem_cons.2 ⟨hmark, h⟩

theorem forall_snakeStep (hmark : P '_')
    (hkept : ∀ c, isAlphanumeric c = true → isUppercase c = false → P c)
    (hlower : ∀ c, isAlphanumeric c = true → ∀ d ∈ lowerCase c, P d)
    {previous next : Option Char} (c : Char) {reversed : List Char} (h : ∀ c ∈ reversed, P c) :
    ∀ d ∈ snakeStep previous next c reversed, P d := by
  unfold snakeStep
  split
  · exact forall_separated hmark h
  · rename_i halphanumeric
    rw [Bool.not_eq_true, Bool.not_eq_false'] at halphanumeric
    split
    · rw [List.forall_mem_append]
      refine ⟨fun d hd => hlower c halphanumeric d (List.mem_reverse.1 hd), ?_⟩
      split
      · exact forall_separated hmark h
      · exact h
    · rename_i hcapital
      exact List.forall_mem_cons.2 ⟨hkept c halphanumeric (by simpa using hcapital), h⟩

theorem forall_snakeReversed (hmark : P '_')
    (hkept : ∀ c, isAlphanumeric c = true → isUppercase c = false → P c)
    (hlower : ∀ c, isAlphanumeric c = true → ∀ d ∈ lowerCase c, P d)
    {previous : Option Char} {reversed : List Char} (h : ∀ c ∈ reversed, P c) (cs : List Char) :
    ∀ d ∈ snakeReversed previous reversed cs, P d := by
  induction cs generalizing previous reversed with
  | nil => exact h
  | cons c cs ih => exact ih (forall_snakeStep hmark hkept hlower c h)

/-- What holds of an underscore, of the letters of the word for a name without any, of whatever snake
case keeps and of lower case, holds of a whole name in snake case. -/
theorem forall_mem_snakeCase (hmark : P '_') (hfield : ∀ c ∈ "field".toList, P c)
    (hkept : ∀ c, isAlphanumeric c = true → isUppercase c = false → P c)
    (hlower : ∀ c, isAlphanumeric c = true → ∀ d ∈ lowerCase c, P d) (name : String) :
    ∀ c ∈ (snakeCase name).toList, P c := by
  have hreversed : ∀ c ∈ ((snakeReversed none [] name.toList).dropWhile (· = '_')).reverse, P c :=
    fun c hc => forall_snakeReversed hmark hkept hlower (by simp) name.toList c
      ((List.dropWhile_sublist _).mem (List.mem_reverse.1 hc))
  unfold snakeCase
  split
  · exact hfield
  · rename_i heq
    rw [heq] at hreversed
    rw [String.toList_ofList]
    split
    · exact List.forall_mem_cons.2 ⟨hmark, hreversed⟩
    · exact hreversed

theorem forall_mem_moduleName (hmark : P '_') {master : String}
    (h : ∀ c ∈ (snakeCase master).toList, P c) : ∀ c ∈ (moduleName master).toList, P c := by
  unfold moduleName
  simp only
  split
  · rw [String.toList_append, List.forall_mem_append]
    exact ⟨h, by simpa using hmark⟩
  · exact h

end SnakeCase

theorem snakeCase_ne_empty (name : String) : snakeCase name ≠ "" := by
  unfold snakeCase
  split
  · decide
  · rw [ne_eq, ← String.toList_eq_nil_iff, String.toList_ofList]
    split <;> simp

/-! ## Modules -/

theorem isWordPart_of_mem_moduleName (master : String) :
    ∀ c ∈ (moduleName master).toList, isWordPart c = true :=
  forall_mem_moduleName (P := (isWordPart · = true)) rfl
    (forall_mem_snakeCase (P := (isWordPart · = true)) rfl (List.all_eq_true.1 (by decide))
      (fun _ h _ => isWordPart_of_isAlphanumeric h)
      (fun _ h _ hd => isWordPart_of_mem_lowerCase (isWordPart_of_isAlphanumeric h) hd) master)

theorem not_isUpper_of_not_isUppercase {c : Char} (h : isUppercase c = false) :
    c.isUpper = false := by
  unfold isUppercase at h
  split at h
  · exact h
  · exact not_isUpper_of_above (by omega)

theorem not_isUpper_of_mem_moduleName (master : String) :
    ∀ c ∈ (moduleName master).toList, c.isUpper = false :=
  have hfield : "field".toList.any Char.isUpper = false := by decide
  forall_mem_moduleName (P := (·.isUpper = false)) rfl
    (forall_mem_snakeCase (P := (·.isUpper = false)) rfl
      (fun c hc => Bool.eq_false_iff.2 (List.any_eq_false.1 hfield c hc))
      (fun _ _ h => not_isUpper_of_not_isUppercase h)
      (fun _ _ _ hd => not_isUpper_of_mem_lowerCase hd) master)

theorem moduleName_ne_empty (master : String) : moduleName master ≠ "" := by
  have h := snakeCase_ne_empty master
  unfold moduleName
  simp only
  split
  · simp
  · exact h

/-- No module has the name of a keyword, as no keyword ends in the mark that takes its place. -/
theorem not_isKeyword_moduleName (master : String) : isKeyword (moduleName master) = false := by
  have hends : ∀ keyword ∈ keywords, keyword.toList.getLast? ≠ some '_' := by decide
  unfold moduleName
  simp only
  split
  · rw [isKeyword, List.contains_eq_mem, decide_eq_false_iff_not]
    exact fun hmem => hends _ hmem (by simp [String.toList_append])
  · rename_i hword
    simpa using hword

theorem no_slash_moduleName (master : String) : '/' ∉ (moduleName master).toList := fun hmem =>
  absurd (isWordPart_of_mem_moduleName master '/' hmem) (by decide)

/-! ## Types -/

theorem isWordPart_of_mem_camelChars {fresh : Bool} {cs : List Char} :
    ∀ c ∈ camelChars fresh cs, isWordPart c = true := by
  induction cs generalizing fresh with
  | nil => simp [camelChars]
  | cons c cs ih =>
    unfold camelChars
    split
    · rename_i halphanumeric
      have hc := isWordPart_of_isAlphanumeric halphanumeric
      rw [List.forall_mem_append]
      refine ⟨?_, ih⟩
      split
      · exact fun d hd => isWordPart_of_mem_upperCase hc hd
      · exact List.forall_mem_singleton.2 hc
    · exact ih

theorem isWordPart_of_mem_typeName (master : String) :
    ∀ c ∈ (typeName master).toList, isWordPart c = true := by
  have hchars : ∀ c ∈ camelChars true master.toList, isWordPart c = true :=
    isWordPart_of_mem_camelChars
  unfold typeName
  split
  · exact List.all_eq_true.1 (by decide)
  · rename_i c cs heq
    rw [heq] at hchars
    have hjoined : ∀ d ∈ (String.ofList (if isNumeral c then 'M' :: c :: cs else c :: cs)).toList,
        isWordPart d = true := by
      rw [String.toList_ofList]
      split
      · exact List.forall_mem_cons.2 ⟨rfl, hchars⟩
      · exact hchars
    simp only
    generalize String.ofList (if isNumeral c then 'M' :: c :: cs else c :: cs) = joined at hjoined ⊢
    split
    · rw [String.toList_append, List.forall_mem_append]
      exact ⟨hjoined, List.all_eq_true.1 (by decide)⟩
    · exact hjoined

theorem typeName_ne_empty (master : String) : typeName master ≠ "" := by
  unfold typeName
  split
  · decide
  · rename_i c cs heq
    have hjoined : String.ofList (if isNumeral c then 'M' :: c :: cs else c :: cs) ≠ "" := by
      rw [ne_eq, ← String.toList_eq_nil_iff, String.toList_ofList]
      split <;> simp
    simp only
    generalize String.ofList (if isNumeral c then 'M' :: c :: cs else c :: cs) = joined at hjoined ⊢
    split
    · simp
    · exact hjoined

/-! ## Fields -/

theorem length_fieldIdents (names : List String) :
    (fieldIdents names).length = names.length := by
  have hfrom : ∀ (names taken : List String),
      (fieldIdentsFrom taken names).length = names.length := by
    intro names
    induction names with
    | nil => exact fun _ => rfl
    | cons name rest ih => exact fun taken => congrArg (· + 1) (ih _)
  exact hfrom names []

end MasterData.Naming
