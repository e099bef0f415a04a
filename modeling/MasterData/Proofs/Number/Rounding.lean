-- SUMMARY: What becomes of a whole number as a double, and which whole numbers stay as they are.
import Mathlib.Tactic.Ring
import MasterData.Number.Double

/-! # Whole numbers as doubles

A double has 53 significant bits. A whole number that is longer is rounded to that many, a half to the
even neighbour, and that is the whole part of its double; it is the number itself just if that is short
enough, up to a power of two. Main statements: `Double.truncate_ofInt` and `Double.rounded_eq_self_iff`.
-/

namespace MasterData

namespace FloatFormat

/-! ## Division -/

variable {a b n d : Nat}

theorem roundDiv_le (hd : 0 < d) (h : n ≤ b * d) : roundDiv n d ≤ b := by
  have hdivision := Nat.div_add_mod n d
  have hquotient : n / d ≤ b := Nat.div_le_of_le_mul (by rwa [Nat.mul_comm])
  have hremainder : n / d = b → n % d = 0 := by
    rintro rfl
    rw [Nat.mul_comm] at hdivision
    omega
  have hparity := Nat.mod_lt (n / d) (show 0 < 2 by decide)
  have hsmall : n / d < b ∨ n % d = 0 := by omega
  unfold roundDiv
  simp only
  split_ifs <;> omega

theorem le_roundDiv (hd : 0 < d) (h : a * d ≤ n) : a ≤ roundDiv n d := by
  have hquotient : a ≤ n / d := (Nat.le_div_iff_mul_le hd).2 h
  unfold roundDiv
  simp only
  split_ifs <;> omega

theorem roundDiv_mul (hd : 0 < d) (a : Nat) : roundDiv (a * d) d = a :=
  Nat.le_antisymm (roundDiv_le hd (Nat.le_refl _)) (le_roundDiv hd (Nat.le_refl _))

@[simp] theorem roundDiv_one (n : Nat) : roundDiv n 1 = n := by
  simpa using roundDiv_mul (show 0 < 1 by decide) n

/-! ## The significand -/

/-- The 53 bits that are kept of a positive number. -/
def significand (n : Nat) : Nat :=
  if n.log2 ≤ 52 then n * 2 ^ (52 - n.log2) else roundDiv n (2 ^ (n.log2 - 52))

theorem le_significand (hn : n ≠ 0) : 2 ^ 52 ≤ significand n := by
  have hle := Nat.log2_self_le hn
  unfold significand
  split
  · rename_i hlog
    calc 2 ^ 52 = 2 ^ n.log2 * 2 ^ (52 - n.log2) := by rw [← Nat.pow_add]; congr 1; omega
      _ ≤ n * 2 ^ (52 - n.log2) := Nat.mul_le_mul_right _ hle
  · rename_i hlog
    refine le_roundDiv (Nat.two_pow_pos _) ?_
    rw [← Nat.pow_add]
    rwa [show 52 + (n.log2 - 52) = n.log2 by omega]

/-- Only a number of more than 53 bits can be rounded up to the next power of two. -/
theorem significand_lt (hlog : n.log2 ≤ 52) : significand n < 2 ^ 53 := by
  have hlt : n < 2 ^ (n.log2 + 1) := Nat.lt_log2_self
  rw [significand, if_pos hlog]
  calc n * 2 ^ (52 - n.log2) < 2 ^ (n.log2 + 1) * 2 ^ (52 - n.log2) :=
        Nat.mul_lt_mul_of_pos_right hlt (Nat.two_pow_pos _)
    _ = 2 ^ 53 := by rw [← Nat.pow_add]; congr 1; omega

theorem significand_le (n : Nat) : significand n ≤ 2 ^ 53 := by
  by_cases hlog : n.log2 ≤ 52
  · exact Nat.le_of_lt (significand_lt hlog)
  · have hlt : n < 2 ^ (n.log2 + 1) := Nat.lt_log2_self
    rw [significand, if_neg hlog]
    refine roundDiv_le (Nat.two_pow_pos _) ?_
    rw [← Nat.pow_add, show 53 + (n.log2 - 52) = n.log2 + 1 by omega]
    exact Nat.le_of_lt hlt

theorem binaryExponent_one (hn : n ≠ 0) : binaryExponent n 1 = n.log2 := by
  have hle := Nat.log2_self_le hn
  have hone : Nat.log2 1 = 0 := by decide
  simp [binaryExponent, hone, Nat.shiftLeft_eq, hle]

theorem roundScaled_one (n : Nat) : roundScaled n 1 (-((n.log2 : Int) - 52)) = significand n := by
  unfold roundScaled significand
  by_cases hlog : n.log2 ≤ 52
  · have hshift : (-((n.log2 : Int) - 52)).toNat = 52 - n.log2 := by omega
    rw [if_pos (by omega), if_pos hlog, roundDiv_one, hshift, Nat.shiftLeft_eq]
  · have hshift : (- -((n.log2 : Int) - 52)).toNat = n.log2 - 52 := by omega
    rw [if_neg (by omega), if_neg hlog, hshift, Nat.shiftLeft_eq, Nat.one_mul]

/-- The magnitude of a whole number: the exponent in its field, and the significand behind; a significand
that was rounded up to the next power of two carries over into the field. -/
theorem nearest_one (hn : n ≠ 0) (hlog : n.log2 < 1023) :
    double.nearest n 1 = (n.log2 + 1022) * 2 ^ 52 + significand n := by
  have hsmall := significand_le n
  have hleast : double.leastExponent = -1074 := by decide
  have hinfinity : double.infinity = 2047 * 2 ^ 52 := by decide
  have hfraction : (double.fractionBits : Int) = 52 := rfl
  have hunit : max ((n.log2 : Int) - 52) (-1074) = (n.log2 : Int) - 52 := by omega
  have hfield : ((n.log2 : Int) - 52 - -1074).toNat = n.log2 + 1022 := by omega
  rw [nearest, if_neg hn, binaryExponent_one hn, hleast, hinfinity, hfraction]
  simp only
  rw [hunit, roundScaled_one, hfield, Nat.shiftLeft_eq]
  show min _ ((n.log2 + 1022) * 2 ^ 52 + significand n) = _
  omega

/-- A magnitude taken apart into its fields. -/
theorem scaled_double {field fraction : Nat} (hfield : field ≠ 0) (hfraction : fraction < 2 ^ 52) :
    double.scaled (field * 2 ^ 52 + fraction) = ⟨2 ^ 52 + fraction, (field : Int) - 1075⟩ := by
  have hleast : double.leastExponent = -1074 := by decide
  have hbits : double.fractionBits = 52 := rfl
  have hquotient : (field * 2 ^ 52 + fraction) / 2 ^ 52 = field := by omega
  have hremainder : (field * 2 ^ 52 + fraction) % 2 ^ 52 = fraction := by omega
  have hexponent : (-1074 : Int) + (field - 1) = field - 1075 := by omega
  simp only [scaled, hbits, hleast, Nat.shiftRight_eq_div_pow, Nat.shiftLeft_eq, Nat.one_mul,
    hquotient, hremainder, hfield, if_false, hexponent]

theorem scaled_nearest_one (hn : n ≠ 0) (hlog : n.log2 < 1023) :
    double.scaled (double.nearest n 1) = ⟨significand n, n.log2 - 52⟩
      ∨ significand n = 2 ^ 53 ∧ double.scaled (double.nearest n 1) = ⟨2 ^ 52, n.log2 - 51⟩ := by
  have hlow := le_significand hn
  have hhigh := significand_le n
  rw [nearest_one hn hlog]
  by_cases hcarry : significand n < 2 ^ 53
  · refine .inl ?_
    have hsplit : (n.log2 + 1022) * 2 ^ 52 + significand n
        = (n.log2 + 1023) * 2 ^ 52 + (significand n - 2 ^ 52) := by omega
    have hsum : 2 ^ 52 + (significand n - 2 ^ 52) = significand n := Nat.add_sub_of_le hlow
    have hexponent : ((n.log2 + 1023 : Nat) : Int) - 1075 = n.log2 - 52 := by omega
    rw [hsplit, scaled_double (by omega) (by omega), hsum, hexponent]
  · have heq : significand n = 2 ^ 53 := by omega
    refine .inr ⟨heq, ?_⟩
    have hsplit : (n.log2 + 1022) * 2 ^ 52 + significand n = (n.log2 + 1024) * 2 ^ 52 + 0 := by
      rw [heq]
      ring
    have hexponent : ((n.log2 + 1024 : Nat) : Int) - 1075 = n.log2 - 51 := by omega
    rw [hsplit, scaled_double (by omega) (by decide), hexponent, Nat.add_zero]

end FloatFormat

namespace Double

open FloatFormat

/-! ## Whole numbers -/

/-- A number rounded to 53 significant bits. -/
def roundedNat (n : Nat) : Nat :=
  roundDiv n (2 ^ (n.log2 - 52)) * 2 ^ (n.log2 - 52)

/-- A whole number rounded to 53 significant bits. -/
def rounded (i : Int) : Int :=
  i.sign * roundedNat i.natAbs

/-- A number is a multiple of a power of two with no more than 53 bits. -/
def IsShort (n : Nat) : Prop :=
  ∃ m e, m < 2 ^ 53 ∧ n = m * 2 ^ e

variable {n : Nat} {i : Int}

theorem roundedNat_of_log2_le (h : n.log2 ≤ 52) : roundedNat n = n := by
  rw [roundedNat, Nat.sub_eq_zero_of_le h, Nat.pow_zero, roundDiv_one, Nat.mul_one]

theorem roundedNat_of_lt (h : n < 2 ^ 53) : roundedNat n = n := by
  by_cases hn : n = 0
  · subst hn
    decide
  · refine roundedNat_of_log2_le ?_
    have := (Nat.log2_lt hn).2 h
    omega

/-- Rounding does not go beyond a power of two. -/
theorem roundedNat_le {k : Nat} (h : n ≤ 2 ^ k) : roundedNat n ≤ 2 ^ k := by
  by_cases hlog : n.log2 ≤ 52
  · rwa [roundedNat_of_log2_le hlog]
  · have hn : n ≠ 0 := by
      rintro rfl
      exact hlog (by decide)
    have hlow := Nat.log2_self_le hn
    have hexponent : n.log2 ≤ k := by
      by_contra hlt
      have := Nat.pow_lt_pow_right (show 1 < 2 by decide) (Nat.lt_of_not_le hlt)
      omega
    have hpower : 2 ^ (k - (n.log2 - 52)) * 2 ^ (n.log2 - 52) = 2 ^ k := by
      rw [← Nat.pow_add]
      congr 1
      omega
    calc roundedNat n ≤ 2 ^ (k - (n.log2 - 52)) * 2 ^ (n.log2 - 52) :=
          Nat.mul_le_mul_right _ (roundDiv_le (Nat.two_pow_pos _) (by rwa [hpower]))
      _ = 2 ^ k := hpower

/-- Just the short numbers are multiples of the step between doubles of their size. -/
theorem roundedNat_eq_self_iff : roundedNat n = n ↔ IsShort n := by
  by_cases hsmall : n < 2 ^ 53
  · exact ⟨fun _ => ⟨n, 0, hsmall, by rw [Nat.pow_zero, Nat.mul_one]⟩, fun _ => roundedNat_of_lt hsmall⟩
  have hlow : 2 ^ n.log2 ≤ n := Nat.log2_self_le (by omega)
  have hhigh : n < 2 ^ (n.log2 + 1) := Nat.lt_log2_self
  have hlog : 53 ≤ n.log2 := (Nat.le_log2 (by omega)).2 (by omega)
  constructor
  · intro h
    refine ⟨roundDiv n (2 ^ (n.log2 - 52)), n.log2 - 52, ?_, h.symm⟩
    refine Nat.lt_of_mul_lt_mul_right (a := 2 ^ (n.log2 - 52)) ?_
    calc roundedNat n = n := h
      _ < 2 ^ (n.log2 + 1) := hhigh
      _ = 2 ^ 53 * 2 ^ (n.log2 - 52) := by rw [← Nat.pow_add]; congr 1; omega
  · rintro ⟨m, e, hm, heq⟩
    -- A multiple of a smaller power of two would have too few bits.
    have hexponent : n.log2 - 52 ≤ e := by
      by_contra hlt
      have : n < 2 ^ n.log2 := calc
        n = m * 2 ^ e := heq
        _ < 2 ^ 53 * 2 ^ e := Nat.mul_lt_mul_of_pos_right hm (Nat.two_pow_pos e)
        _ = 2 ^ (53 + e) := by rw [← Nat.pow_add]
        _ ≤ 2 ^ n.log2 := Nat.pow_le_pow_right (by decide) (by omega)
      omega
    have hmultiple : n = m * 2 ^ (e - (n.log2 - 52)) * 2 ^ (n.log2 - 52) := by
      rw [Nat.mul_assoc, ← Nat.pow_add, Nat.sub_add_cancel hexponent]
      exact heq
    have hround := roundDiv_mul (Nat.two_pow_pos (n.log2 - 52)) (m * 2 ^ (e - (n.log2 - 52)))
    rw [← hmultiple] at hround
    rw [roundedNat, hround, ← hmultiple]

theorem rounded_eq_self_iff : rounded i = i ↔ IsShort i.natAbs := by
  rw [← roundedNat_eq_self_iff, rounded]
  constructor
  · intro h
    by_cases hi : i = 0
    · subst hi
      decide
    · have habs := congrArg Int.natAbs h
      rwa [Int.natAbs_mul, Int.natAbs_sign_of_ne_zero hi, Nat.one_mul, Int.natAbs_natCast] at habs
  · intro h
    rw [h, Int.sign_mul_natAbs]

theorem rounded_of_lt (h : i.natAbs < 2 ^ 53) : rounded i = i :=
  rounded_eq_self_iff.2 (roundedNat_eq_self_iff.1 (roundedNat_of_lt h))

theorem natAbs_rounded_le {k : Nat} (h : i.natAbs ≤ 2 ^ k) : (rounded i).natAbs ≤ 2 ^ k := by
  by_cases hi : i = 0
  · subst hi
    exact Nat.zero_le _
  · rw [rounded, Int.natAbs_mul, Int.natAbs_sign_of_ne_zero hi, Nat.one_mul, Int.natAbs_natCast]
    exact roundedNat_le h

theorem rounded_nonneg (h : 0 ≤ i) : 0 ≤ rounded i :=
  Int.mul_nonneg (Int.sign_nonneg_iff.2 h) (Int.natCast_nonneg _)

/-! ## Doubles of whole numbers -/

theorem toNat_ofMagnitude {negative : Bool} {m : Nat} (h : m < 2 ^ 63) :
    (ofMagnitude negative m).bits.toNat = m + if negative then 2 ^ 63 else 0 := by
  have hsmall : m + (if negative then 2 ^ 63 else 0) < UInt64.size := by
    have : UInt64.size = 2 ^ 64 := rfl
    split <;> omega
  exact UInt64.toNat_ofNat_of_lt' hsmall

theorem magnitude_ofMagnitude {negative : Bool} {m : Nat} (h : m < 2 ^ 63) :
    (ofMagnitude negative m).magnitude = m := by
  rw [magnitude, toNat_ofMagnitude h]
  split <;> omega

theorem isNegative_ofMagnitude {negative : Bool} {m : Nat} (h : m < 2 ^ 63) :
    (ofMagnitude negative m).isNegative = negative := by
  rw [isNegative, toNat_ofMagnitude h]
  cases negative with
  | false => exact decide_eq_false (by simp; omega)
  | true => exact decide_eq_true (by simp)

theorem nearest_one_lt (hlog : n.log2 < 1023) : double.nearest n 1 < double.infinity := by
  by_cases hn : n = 0
  · subst hn
    decide
  · have hinfinity : double.infinity = 2047 * 2 ^ 52 := by decide
    have := significand_le n
    rw [nearest_one hn hlog, hinfinity]
    omega

theorem significand_mul (hlog : 52 ≤ n.log2) :
    significand n * 2 ^ (n.log2 - 52) = roundedNat n := by
  rw [significand, roundedNat]
  split
  · rename_i hle
    have hzero : n.log2 - 52 = 0 := by omega
    have hzero' : 52 - n.log2 = 0 := by omega
    rw [hzero, hzero', Nat.pow_zero, roundDiv_one, Nat.mul_one]
  · rfl

/-- The whole part of the double nearest to a number without a sign. -/
theorem whole_nearest_one (hlog : n.log2 < 1023) :
    (if 0 ≤ (double.scaled (double.nearest n 1)).exponent then
        (double.scaled (double.nearest n 1)).significand
          <<< (double.scaled (double.nearest n 1)).exponent.toNat
      else (double.scaled (double.nearest n 1)).significand
          >>> (-(double.scaled (double.nearest n 1)).exponent).toNat) = roundedNat n := by
  by_cases hn : n = 0
  · subst hn
    decide
  · obtain heq | ⟨hcarry, heq⟩ := scaled_nearest_one hn hlog
    · rw [heq]
      by_cases hlarge : 52 ≤ n.log2
      · have hexponent : ((n.log2 : Int) - 52).toNat = n.log2 - 52 := by omega
        rw [if_pos (by simpa using hlarge), hexponent, Nat.shiftLeft_eq, significand_mul hlarge]
      · have hexponent : (-((n.log2 : Int) - 52)).toNat = 52 - n.log2 := by omega
        rw [if_neg (by simpa using hlarge), hexponent, Nat.shiftRight_eq_div_pow, significand,
          if_pos (by omega), Nat.mul_div_cancel _ (Nat.two_pow_pos _), roundedNat_of_log2_le (by omega)]
    · have hlarge : 52 < n.log2 := by
        by_contra hsmall
        have := significand_lt (Nat.le_of_not_lt hsmall)
        omega
      have hexponent : ((n.log2 : Int) - 51).toNat = n.log2 - 51 := by omega
      have hpower : 2 ^ 52 * 2 ^ (n.log2 - 51) = 2 ^ 53 * 2 ^ (n.log2 - 52) := by
        rw [← Nat.pow_add, ← Nat.pow_add]
        congr 1
        omega
      rw [heq, if_pos (by simp only; omega), hexponent, Nat.shiftLeft_eq, hpower, ← hcarry,
        significand_mul (by omega)]

variable (hlog : i.natAbs.log2 < 1023)
include hlog

theorem ofInt_fields : (ofInt i).magnitude = double.nearest i.natAbs 1
    ∧ (ofInt i).isNegative = decide (i < 0) := by
  have hinfinity : double.infinity = 2047 * 2 ^ 52 := by decide
  have hlt := nearest_one_lt hlog
  have hsmall : double.nearest i.natAbs 1 < 2 ^ 63 := by omega
  exact ⟨magnitude_ofMagnitude hsmall, isNegative_ofMagnitude hsmall⟩

/-- The whole part of the double is the number, rounded. -/
theorem truncate_ofInt : (ofInt i).truncate = rounded i := by
  obtain ⟨hmagnitude, hsign⟩ := ofInt_fields hlog
  have hwhole := whole_nearest_one hlog
  rw [truncate, scaled, hmagnitude, hsign]
  simp only [hwhole, decide_eq_true_eq, rounded]
  obtain hneg | rfl | hpos := Int.lt_trichotomy i 0
  · rw [if_pos hneg, Int.sign_eq_neg_one_of_neg hneg, Int.neg_one_mul]
  · decide
  · rw [if_neg (by omega), Int.sign_eq_one_of_pos hpos, Int.one_mul]

theorem clamp_ofInt (low high : Int) : (ofInt i).clamp low high = max low (min high (rounded i)) := by
  obtain ⟨hmagnitude, -⟩ := ofInt_fields hlog
  have hfinite : (ofInt i).isFinite = true := by
    rw [isFinite, hmagnitude]
    exact decide_eq_true (nearest_one_lt hlog)
  have hnumber : (ofInt i).isNaN = false := by
    rw [isNaN, hmagnitude]
    exact decide_eq_false (Nat.not_lt.2 (Nat.le_of_lt (nearest_one_lt hlog)))
  rw [clamp, hnumber, hfinite, truncate_ofInt hlog]
  rfl

end Double

end MasterData
