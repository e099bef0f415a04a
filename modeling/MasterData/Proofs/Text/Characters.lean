-- SUMMARY: How the classes of characters lie to each other, and what a change of case makes of one.
import Mathlib.Data.List.Infix
import MasterData.Text.Blank
import MasterData.Text.Case
import MasterData.Text.Classes

/-! # Classes of characters

No letter and no numeral is white space, so a word is what trimming leaves of it. A change of case
turns word parts into word parts, where a word part is an underscore, a letter or a digit of ASCII,
or any character above ASCII, and lower case holds no capital of ASCII. Main statements:
`not_isBlank_of_isAlphanumeric`, `trim_trim`, `isWordPart_of_mem_lowerCase` and
`not_isUpper_of_mem_lowerCase`.
-/

namespace MasterData.Text

/-! ## Code points -/

theorem toNat_ofNat {n : Nat} (h : n.isValidChar) : (Char.ofNat n).toNat = n := by
  rw [Char.ofNat, dif_pos h]
  rfl

theorem isUpper_iff {c : Char} : c.isUpper = true ↔ 65 ≤ c.toNat ∧ c.toNat ≤ 90 := by
  have hbounds : c.isUpper = true ↔ 65 ≤ c.val ∧ c.val ≤ 90 := decide_eq_true_iff
  rw [hbounds, UInt32.le_iff_toNat_le, UInt32.le_iff_toNat_le]
  rfl

theorem isLower_iff {c : Char} : c.isLower = true ↔ 97 ≤ c.toNat ∧ c.toNat ≤ 122 := by
  have hbounds : c.isLower = true ↔ 97 ≤ c.val ∧ c.val ≤ 122 :=
    Bool.and_eq_true_iff.trans (and_congr decide_eq_true_iff decide_eq_true_iff)
  rw [hbounds, UInt32.le_iff_toNat_le, UInt32.le_iff_toNat_le]
  rfl

theorem not_isUpper_of_isDigit {c : Char} (h : c.isDigit = true) : ¬ c.isUpper = true := by
  rw [Char.isDigit_iff_toNat] at h
  rw [isUpper_iff]
  have hlast : c.toNat ≤ 57 := h.2
  omega

/-- Numbers are told by their digits. -/
theorem toDigits_inj {m n : Nat} : Nat.toDigits 10 m = Nat.toDigits 10 n ↔ m = n := by
  refine ⟨fun h => ?_, fun h => h ▸ rfl⟩
  rw [← @Nat.ofDigitChars_ten_toDigits m, h, Nat.ofDigitChars_ten_toDigits]

theorem forall_ascii {P : Char → Prop} (h : ∀ n < 128, P (Char.ofNat n)) {c : Char}
    (hc : c.toNat < 128) : P c := by
  have := h c.toNat hc
  rwa [Char.ofNat_toNat] at this

theorem isAlphanumeric_of_ascii {c : Char} (hc : c.toNat < 128) :
    isAlphanumeric c = c.isAlphanum := by
  simp [isAlphanumeric, isAlphabetic, isNumeral, hc, Char.isAlphanum]

/-! ## White space -/

/-- Runs that lie apart share no character. -/
theorem CodePoints.not_contains_of_apart {s t : CodePoints}
    (h : ∀ r ∈ s.runs, ∀ q ∈ t.runs, r.last < q.first ∨ q.last < r.first) {c : Char}
    (hs : s.contains c = true) : t.contains c = false := by
  refine Bool.eq_false_iff.2 fun ht => ?_
  obtain ⟨r, hr, hrc⟩ := contains_iff.1 hs
  obtain ⟨q, hq, hqc⟩ := contains_iff.1 ht
  simp only [Run.contains, Bool.and_eq_true, decide_eq_true_eq] at hrc hqc
  have := h r hr q hq
  omega

theorem not_isBlank_of_isAlphanumeric {c : Char} (h : isAlphanumeric c = true) :
    isBlank c = false := by
  have hascii : ∀ n < 128, isAlphanumeric (Char.ofNat n) = true → isBlank (Char.ofNat n) = false := by
    decide
  by_cases hc : c.toNat < 128
  · exact forall_ascii (P := fun c => isAlphanumeric c = true → isBlank c = false) hascii hc h
  · simp only [isAlphanumeric, isAlphabetic, isNumeral, hc, if_false, Bool.or_eq_true] at h
    obtain h | h := h
    · exact CodePoints.not_contains_of_apart (by decide +kernel) h
    · exact CodePoints.not_contains_of_apart (by decide +kernel) h

/-! ## Trimming -/

section DropWhile

variable {p : Char → Bool} {cs : List Char}

theorem dropWhile_eq_self (h : ∀ c ∈ cs.head?, p c = false) : cs.dropWhile p = cs := by
  cases cs with
  | nil => rfl
  | cons c cs => simp [h c rfl]

theorem not_of_mem_head?_dropWhile : ∀ c ∈ (cs.dropWhile p).head?, p c = false := by
  intro c hc
  have := List.head?_dropWhile_not p cs
  rw [Option.mem_def.1 hc] at this
  simpa using this

end DropWhile

/-- Trimming leaves a text alone that has no white space at its ends. -/
theorem trim_eq_self {s : String} (hfirst : ∀ c ∈ s.toList.head?, isBlank c = false)
    (hlast : ∀ c ∈ s.toList.getLast?, isBlank c = false) : trim s = s := by
  rw [trim, trimLeft, dropWhile_eq_self hfirst, trimRight,
    dropWhile_eq_self (by simpa using hlast), List.reverse_reverse, String.ofList_toList]

theorem trim_eq_self_of_forall {s : String} (h : ∀ c ∈ s.toList, isBlank c = false) :
    trim s = s :=
  trim_eq_self (fun c hc => h c (List.mem_of_mem_head? hc)) fun c hc => h c (List.mem_of_getLast? hc)

/-- What trimming leaves has no white space at its ends. -/
@[simp] theorem trim_trim (s : String) : trim (trim s) = trim s := by
  refine trim_eq_self ?_ ?_
  · intro c hc
    rw [trim, String.toList_ofList] at hc
    -- The text starts as it did before its end was trimmed.
    have hprefix : trimRight (trimLeft s.toList) <+: trimLeft s.toList := by
      rw [trimRight, ← List.reverse_suffix, List.reverse_reverse]
      exact List.dropWhile_suffix _
    obtain ⟨rest, hrest⟩ := hprefix
    refine @not_of_mem_head?_dropWhile isBlank s.toList c ?_
    rw [← trimLeft, ← hrest, List.head?_append, Option.mem_def.1 hc]
    rfl
  · intro c hc
    rw [trim, String.toList_ofList, trimRight, List.getLast?_reverse] at hc
    exact not_of_mem_head?_dropWhile c hc

/-! ## Word parts -/

/-- An underscore, a letter or a digit of ASCII, or any character above ASCII. -/
def isWordPart (c : Char) : Bool := c = '_' || c.isAlphanum || 128 ≤ c.toNat

theorem isWordPart_of_above {c : Char} (h : 128 ≤ c.toNat) : isWordPart c = true := by
  simp [isWordPart, h]

theorem isWordPart_of_isAlphanumeric {c : Char} (h : isAlphanumeric c = true) :
    isWordPart c = true := by
  by_cases hc : c.toNat < 128
  · rw [isAlphanumeric_of_ascii hc] at h
    simp [isWordPart, h]
  · exact isWordPart_of_above (by omega)

/-! ## Case -/

/-- The counterparts of the run are characters above ASCII. -/
def CaseShift.StaysAbove (s : CaseShift) : Prop :=
  128 ≤ s.run.first + s.distance
    ∧ (s.run.last + s.distance < 0xD800
      ∨ 0xDFFF < s.run.first + s.distance ∧ s.run.last + s.distance < 0x110000)

instance (s : CaseShift) : Decidable s.StaysAbove := by
  unfold CaseShift.StaysAbove
  infer_instance

theorem CaseShift.StaysAbove.le_toNat {s : CaseShift} (h : s.StaysAbove) {n : Nat}
    (hn : s.run.contains n = true) : 128 ≤ (Char.ofNat (n + s.distance).toNat).toNat := by
  obtain ⟨hfirst, hlast⟩ := h
  simp only [Run.contains, Bool.and_eq_true, decide_eq_true_eq] at hn
  have hvalid : (n + s.distance).toNat.isValidChar := by
    simp only [Nat.isValidChar]
    omega
  rw [toNat_ofNat hvalid]
  omega

/-- What holds of all characters above ASCII and of the few counterparts in ASCII that the tables
list holds of every counterpart. -/
theorem forall_mem_counterpart {P : Char → Prop} (habove : ∀ d : Char, 128 ≤ d.toNat → P d)
    {shifts : List CaseShift} {expansions : List (Nat × List Nat)}
    (hexpansions : ∀ e ∈ expansions, ∀ n ∈ e.2, P (Char.ofNat n))
    (hshifts : ∀ s ∈ shifts, s.StaysAbove
      ∨ s.run.first = s.run.last ∧ P (Char.ofNat (s.run.first + s.distance).toNat))
    {c d : Char} (hc : 128 ≤ c.toNat) (h : d ∈ counterpart shifts expansions c) : P d := by
  unfold counterpart at h
  split at h
  · rename_i targets hlookup
    obtain ⟨n, hn, rfl⟩ := List.mem_map.1 h
    obtain ⟨before, after, hsplit, -⟩ := List.lookup_eq_some_iff.1 hlookup
    exact hexpansions (c.toNat, targets) (by simp [hsplit]) n hn
  · split at h
    · rename_i s hs
      have hcontains := List.find?_some hs
      rw [List.mem_singleton.1 h]
      rcases hshifts s (List.mem_of_find?_eq_some hs) with hstays | ⟨hsingle, hP⟩
      · exact habove _ (hstays.le_toNat hcontains)
      · have : c.toNat = s.run.first := by
          simp only [Run.contains, Bool.and_eq_true, decide_eq_true_eq] at hcontains
          omega
        rwa [this]
    · rw [List.mem_singleton.1 h]
      exact habove c hc

theorem isWordPart_of_mem_lowerCase {c d : Char} (hc : isWordPart c = true)
    (h : d ∈ lowerCase c) : isWordPart d = true := by
  have hascii : ∀ n < 128, isWordPart (Char.ofNat n) = true →
      isWordPart (Char.ofNat n).toLower = true := by
    decide
  unfold lowerCase at h
  split at h
  · rename_i hsmall
    rw [List.mem_singleton.1 h]
    exact forall_ascii (P := fun c => isWordPart c = true → isWordPart c.toLower = true)
      hascii hsmall hc
  · exact forall_mem_counterpart (P := (isWordPart · = true)) (fun _ => isWordPart_of_above)
      (by decide +kernel) (by decide +kernel) (by omega) h

theorem isWordPart_of_mem_upperCase {c d : Char} (hc : isWordPart c = true)
    (h : d ∈ upperCase c) : isWordPart d = true := by
  have hascii : ∀ n < 128, isWordPart (Char.ofNat n) = true →
      isWordPart (Char.ofNat n).toUpper = true := by
    decide
  unfold upperCase at h
  split at h
  · rename_i hsmall
    rw [List.mem_singleton.1 h]
    exact forall_ascii (P := fun c => isWordPart c = true → isWordPart c.toUpper = true)
      hascii hsmall hc
  · exact forall_mem_counterpart (P := (isWordPart · = true)) (fun _ => isWordPart_of_above)
      (by decide +kernel) (by decide +kernel) (by omega) h

theorem not_isUpper_of_above {c : Char} (h : 128 ≤ c.toNat) : c.isUpper = false := by
  rw [Bool.eq_false_iff, ne_eq, isUpper_iff]
  omega

/-- Lower case holds no capital of ASCII. -/
theorem not_isUpper_of_mem_lowerCase {c d : Char} (h : d ∈ lowerCase c) : d.isUpper = false := by
  have hascii : ∀ n < 128, (Char.ofNat n).toLower.isUpper = false := by decide
  unfold lowerCase at h
  split at h
  · rename_i hsmall
    rw [List.mem_singleton.1 h]
    exact forall_ascii (P := fun c => c.toLower.isUpper = false) hascii hsmall
  · exact forall_mem_counterpart (P := (·.isUpper = false)) (fun _ => not_isUpper_of_above)
      (by decide +kernel) (by decide +kernel) (by omega) h

end MasterData.Text
