-- SUMMARY: The letters of columns as numerals, and the labels of cells.
import Mathlib.Data.List.Induction
import Mathlib.Data.List.Shortlex
import MasterData.Cell.Address
import MasterData.Proofs.Text.Characters

/-! # Letters of columns

Letters are numerals without a zero: `A` to `Z` are the digits one to twenty-six, the most significant
one first. Each column has one numeral only, and a later column a later one, where a longer text comes
behind a shorter one. A label ends its letters where its digits start, so no two cells share one. Main
statement: `columns_lettered_bijectively`.
-/

namespace MasterData.Address

open Text

/-! ## Letters -/

/-- The digit that a letter is. -/
def letterValue (c : Char) : Nat :=
  c.toNat - 'A'.toNat + 1

/-- The letter of a digit counted from zero. -/
def letter (digit : Nat) : Char :=
  Char.ofNat ('A'.toNat + digit)

section Letters

variable {c : Char} {d e : Nat}

theorem toNat_letter (h : d < 26) : (letter d).toNat = 65 + d :=
  toNat_ofNat (.inl (show 65 + d < 0xd800 by omega))

theorem isUpper_letter (h : d < 26) : (letter d).isUpper = true := by
  rw [isUpper_iff, toNat_letter h]
  omega

theorem letterValue_letter (h : d < 26) : letterValue (letter d) = d + 1 := by
  rw [letterValue, toNat_letter h]
  simp

theorem letter_lt_letter (h : d < e) (he : e < 26) : letter d < letter e := by
  rw [Char.lt_def, UInt32.lt_iff_toNat_lt, Char.toNat_val, Char.toNat_val, toNat_letter he,
    toNat_letter (Nat.lt_trans h he)]
  omega

theorem exists_letter_eq (h : c.isUpper = true) : ∃ d < 26, letter d = c := by
  obtain ⟨hfirst, hlast⟩ := isUpper_iff.1 h
  refine ⟨c.toNat - 65, by omega, ?_⟩
  rw [letter, show 'A'.toNat + (c.toNat - 65) = c.toNat from Nat.add_sub_cancel' hfirst,
    Char.ofNat_toNat]

end Letters

/-! ## Numerals -/

/-- The number that letters stand for, the most significant letter first. -/
def lettersValue (letters : List Char) : Nat :=
  letters.foldl (fun n c => 26 * n + letterValue c) 0

/-- A text is the numeral of a number: it has letters from `A` to `Z` only, and at least one. -/
structure IsNumeral (text : String) (n : Nat) : Prop where
  nonempty : text ≠ ""
  letters : ∀ c ∈ text.toList, c.isUpper = true
  value : lettersValue text.toList = n

section Numerals

variable {cs : List Char} {d k m n : Nat}

theorem lettersValue_concat (cs : List Char) (c : Char) :
    lettersValue (cs ++ [c]) = 26 * lettersValue cs + letterValue c :=
  List.foldl_concat ..

/-- A number without its last digit, and the letter of the digit. -/
theorem reversedLetters_add (m : Nat) (h : d < 26) :
    reversedLetters (26 * m + d + 1) = letter d :: reversedLetters m := by
  have hdigit : (26 * m + d + 1 - 1) % 26 = d := by omega
  have hrest : (26 * m + d + 1 - 1) / 26 = m := by omega
  rw [reversedLetters, if_neg (Nat.succ_ne_zero _), hdigit, hrest]
  rfl

theorem isUpper_of_mem_reversedLetters (n : Nat) : ∀ c ∈ reversedLetters n, c.isUpper = true := by
  fun_induction reversedLetters n with
  | case1 => exact List.forall_mem_nil _
  | case2 n _ ih => exact List.forall_mem_cons.2 ⟨isUpper_letter (Nat.mod_lt _ (by decide)), ih⟩

theorem lettersValue_reversedLetters (n : Nat) : lettersValue (reversedLetters n).reverse = n := by
  fun_induction reversedLetters n with
  | case1 => rfl
  | case2 n hn ih =>
    have hdigit : (n - 1) % 26 < 26 := Nat.mod_lt _ (by decide)
    rw [List.reverse_cons, lettersValue_concat, ih, ← letter, letterValue_letter hdigit]
    omega

/-- Letters are those of the number that they stand for. -/
theorem reversedLetters_lettersValue (h : ∀ c ∈ cs, c.isUpper = true) :
    reversedLetters (lettersValue cs) = cs.reverse := by
  induction cs using List.reverseRecOn with
  | nil => rw [lettersValue, List.foldl_nil, reversedLetters, if_pos rfl, List.reverse_nil]
  | append_singleton cs c ih =>
    rw [List.forall_mem_append, List.forall_mem_singleton] at h
    obtain ⟨d, hd, rfl⟩ := exists_letter_eq h.2
    rw [lettersValue_concat, letterValue_letter hd, ← Nat.add_assoc, reversedLetters_add _ hd, ih h.1,
      List.reverse_concat]

theorem length_reversedLetters_le (h : n < 26 ^ k) : (reversedLetters n).length ≤ k := by
  induction k generalizing n with
  | zero =>
    obtain rfl : n = 0 := by simpa using h
    rw [reversedLetters, if_pos rfl, List.length_nil]
  | succ k ih =>
    rw [reversedLetters]
    split
    · exact Nat.zero_le _
    · have hrest : (n - 1) / 26 < 26 ^ k := by
        rw [Nat.pow_succ] at h
        omega
      exact Nat.succ_le_succ (ih hrest)

end Numerals

/-! ## Order -/

section Order

variable {xs ys : List Char} {m n : Nat}

/-- Texts of one length keep their order whatever stands behind them. -/
theorem lex_append {r : Char → Char → Prop} (h : List.Lex r xs ys) (hlength : xs.length = ys.length)
    (s t : List Char) : List.Lex r (xs ++ s) (ys ++ t) := by
  induction h with
  | nil => simp at hlength
  | rel h => exact .rel h
  | cons _ ih => exact .cons (ih (Nat.succ.inj hlength))

theorem shortlex_concat (h : List.Shortlex (· < ·) xs ys) (c d : Char) :
    List.Shortlex (· < ·) (xs ++ [c]) (ys ++ [d]) := by
  obtain hlength | ⟨hlength, hlex⟩ := List.shortlex_def.1 h
  · exact .of_length_lt (by simpa using hlength)
  · exact .of_lex (by simpa using hlength) (lex_append hlex hlength _ _)

/-- A greater number has the later letters: it has more of them, or a later one at the first place
where they differ. -/
theorem shortlex_reversedLetters (h : m < n) :
    List.Shortlex (· < ·) (reversedLetters m).reverse (reversedLetters n).reverse := by
  fun_induction reversedLetters n generalizing m with
  | case1 => exact absurd h (Nat.not_lt_zero m)
  | case2 n hn ih =>
    rw [reversedLetters, ← letter, List.reverse_cons]
    split
    · exact .of_length_lt (by simp)
    · rename_i hm
      rw [← letter, List.reverse_cons]
      obtain hrest | ⟨hrest, hdigit⟩ : (m - 1) / 26 < (n - 1) / 26
          ∨ (m - 1) / 26 = (n - 1) / 26 ∧ (m - 1) % 26 < (n - 1) % 26 := by omega
      · exact shortlex_concat (ih hrest) _ _
      · rw [hrest]
        exact .append_left ((List.shortlex_singleton_iff _ _).2
          (letter_lt_letter hdigit (Nat.mod_lt _ (by decide)))) _

/-- Numbers are in the order of their letters. -/
theorem shortlex_reversedLetters_iff : List.Shortlex (· < ·) (reversedLetters m).reverse
    (reversedLetters n).reverse ↔ m < n := by
  refine ⟨fun h => ?_, shortlex_reversedLetters⟩
  obtain hlt | rfl | hgt := Nat.lt_trichotomy m n
  · exact hlt
  · exact absurd h (irrefl _)
  · exact absurd h (asymm (shortlex_reversedLetters hgt))

end Order

/-! ## Columns -/

theorem toList_columnLetters (col : UInt32) :
    (columnLetters col).toList = (reversedLetters (col.toNat + 1)).reverse :=
  String.toList_ofList

theorem isUpper_of_mem_columnLetters (col : UInt32) :
    ∀ c ∈ (columnLetters col).toList, c.isUpper = true := by
  intro c hc
  rw [toList_columnLetters, List.mem_reverse] at hc
  exact isUpper_of_mem_reversedLetters _ c hc

theorem isNumeral_columnLetters (col : UInt32) : IsNumeral (columnLetters col) (col.toNat + 1) where
  nonempty h := by
    have hvalue := lettersValue_reversedLetters (col.toNat + 1)
    rw [← toList_columnLetters, h] at hvalue
    exact absurd hvalue (Nat.succ_ne_zero _).symm
  letters := isUpper_of_mem_columnLetters col
  value := by rw [toList_columnLetters, lettersValue_reversedLetters]

/-- A column has one numeral. -/
theorem IsNumeral.eq_columnLetters {text : String} {col : UInt32}
    (h : IsNumeral text (col.toNat + 1)) : columnLetters col = text := by
  rw [← String.toList_inj, toList_columnLetters, ← h.value, reversedLetters_lettersValue h.letters,
    List.reverse_reverse]

theorem columnLetters_injective : Function.Injective columnLetters := by
  intro c d h
  have hvalue := (isNumeral_columnLetters c).value.symm.trans (h ▸ (isNumeral_columnLetters d).value)
  exact UInt32.toNat_inj.1 (Nat.succ.inj hvalue)

/-! ## Labels -/

/-- Below the last row the number of a label is the row counted from one in 32 bits. -/
theorem label_eq (a : Address) (h : a.row < 4294967295) :
    a.label = columnLetters a.col ++ toString (a.row + 1) := by
  have hrow : a.row.toNat < 4294967295 := UInt32.lt_iff_toNat_lt.1 h
  have hsum : (a.row + 1).toNat = a.row.toNat + 1 := by
    rw [UInt32.toNat_add]
    exact Nat.mod_eq_of_lt (Nat.succ_lt_succ hrow)
  rw [label, ← hsum]
  rfl

/-- The letters of a label end where its digits start. -/
theorem toList_label (a : Address) :
    a.label.toList = (columnLetters a.col).toList ++ Nat.toDigits 10 (a.row.toNat + 1) := by
  rw [label, String.toList_append, Nat.toString_eq_ofList_toDigits, String.toList_ofList]

theorem filter_isUpper_label (a : Address) :
    a.label.toList.filter Char.isUpper = (columnLetters a.col).toList := by
  have hdigits : ∀ c ∈ Nat.toDigits 10 (a.row.toNat + 1), ¬ c.isUpper = true := fun c hc =>
    not_isUpper_of_isDigit (Nat.isDigit_of_mem_toDigits (by decide) (by decide) hc)
  rw [toList_label, List.filter_append, List.filter_eq_self.2 (isUpper_of_mem_columnLetters a.col),
    List.filter_eq_nil_iff.2 hdigits, List.append_nil]

theorem label_injective : Function.Injective label := by
  rintro ⟨row, col⟩ ⟨row', col'⟩ h
  obtain rfl : col = col' := by
    have hletters := congrArg (fun text => text.toList.filter Char.isUpper) h
    simp only [filter_isUpper_label] at hletters
    exact columnLetters_injective (String.toList_inj.1 hletters)
  have hdigits := congrArg String.toList h
  rw [toList_label, toList_label, List.append_cancel_left_eq] at hdigits
  obtain rfl : row = row' := UInt32.toNat_inj.1 (Nat.succ.inj (toDigits_inj.1 hdigits))
  rfl

/-- The letters of a column are its numeral, counted from one, and no other text is. They are at most
seven. Columns differ in their letters, and are in their order: a longer text behind a shorter one, and
texts of one length by the first letter where they differ. In all rows but the last, which has no number
of 32 bits when it is counted from one, a label is the letters and that number, and cells differ in their
labels. -/
theorem columns_lettered_bijectively :
    (∀ (col : UInt32) (text : String),
        IsNumeral text (col.toNat + 1) ↔ text = columnLetters col)
      ∧ (∀ col : UInt32, (columnLetters col).length ≤ 7)
      ∧ Function.Injective columnLetters
      ∧ (∀ c d : UInt32,
        List.Shortlex (· < ·) (columnLetters c).toList (columnLetters d).toList ↔ c < d)
      ∧ (∀ a : Address, a.row < 4294967295 →
        a.label = columnLetters a.col ++ toString (a.row + 1))
      ∧ ∀ a b : Address, a.row < 4294967295 → b.row < 4294967295 → a ≠ b → a.label ≠ b.label := by
  refine ⟨fun col text => ⟨fun h => h.eq_columnLetters.symm, ?_⟩, fun col => ?_,
    columnLetters_injective, fun c d => ?_, label_eq, fun a b _ _ hne h => hne (label_injective h)⟩
  · rintro rfl
    exact isNumeral_columnLetters col
  · have hcol : col.toNat + 1 < 26 ^ 7 := Nat.lt_of_le_of_lt col.toNat_lt (by decide)
    rw [← String.length_toList, toList_columnLetters, List.length_reverse]
    exact length_reversedLetters_le hcol
  · rw [toList_columnLetters, toList_columnLetters, shortlex_reversedLetters_iff,
      UInt32.lt_iff_toNat_lt, Nat.succ_lt_succ_iff]

/-- The last column of all, in the last row that is counted and in a row with fewer digits. -/
theorem columns_lettered_bijectively_edges :
    IsNumeral "MWLQKWV" ((4294967295 : UInt32).toNat + 1)
      ∧ columnLetters 4294967295 = "MWLQKWV"
      ∧ (4294967294 : UInt32) < 4294967295
      ∧ (⟨4294967294, 4294967295⟩ : Address).label = "MWLQKWV4294967295"
      ∧ (429496728 : UInt32) < 4294967295
      ∧ (⟨4294967294, 4294967295⟩ : Address) ≠ ⟨429496728, 4294967295⟩
      ∧ (⟨4294967294, 4294967295⟩ : Address).label
        ≠ (⟨429496728, 4294967295⟩ : Address).label := by
  have hnumeral : IsNumeral "MWLQKWV" ((4294967295 : UInt32).toNat + 1) :=
    ⟨by decide, List.all_eq_true.1 (by decide), by decide⟩
  have hrow : (4294967294 : UInt32) < 4294967295 := by decide
  have hother : (429496728 : UInt32) < 4294967295 := by decide
  have hcells : (⟨4294967294, 4294967295⟩ : Address) ≠ ⟨429496728, 4294967295⟩ := by decide
  obtain ⟨hletters, -, -, -, hlabel, hlabels⟩ := columns_lettered_bijectively
  have hcol : columnLetters 4294967295 = "MWLQKWV" := ((hletters _ _).1 hnumeral).symm
  refine ⟨hnumeral, hcol, hrow, (hlabel _ hrow).trans ?_, hother, hcells,
    hlabels _ _ hrow hother hcells⟩
  rw [hcol]
  decide

end MasterData.Address
