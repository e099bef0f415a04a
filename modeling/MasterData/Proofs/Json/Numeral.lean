-- SUMMARY: Literals of numbers are read as they were written.
import Mathlib.Tactic.Set
import MasterData.Json.Printer
import MasterData.Json.Token

/-! # Reading literals of numbers

A literal is scanned back to the numeral that it was written from, provided that its digits are
digits, its whole part has no needless zero in front, and what follows does not go on with it. The
numerals of whole numbers and doubles are of this form.
-/

namespace MasterData.Json

open Text (Symbol)

/-! ## What may follow -/

/-- Whether a character can go on with a literal. -/
def goesOn (c : Char) : Bool :=
  c.isDigit || c = '.' || c = 'e' || c = 'E'

/-- The symbols do not start with a character that passes a test. -/
def StartsWithout (p : Char → Bool) (k : List Symbol) : Prop :=
  ∀ c, k.head? = some (some c) → p c = false

theorem startsWithout_cons {p : Char → Bool} {c : Char} {k : List Symbol} (h : p c = false) :
    StartsWithout p (some c :: k) := by
  intro c' hc'
  simp only [List.head?_cons, Option.some.injEq] at hc'
  exact hc' ▸ h

theorem StartsWithout.imp {p q : Char → Bool} {k : List Symbol} (hk : StartsWithout p k)
    (h : ∀ c, p c = false → q c = false) : StartsWithout q k :=
  fun c hc => h c (hk c hc)

/-- Characters in front of symbols keep a test out if they are none or start well. -/
theorem StartsWithout.append {p : Char → Bool} {cs : List Char} {k : List Symbol}
    (hcs : ∀ c, cs.head? = some c → p c = false) (hk : StartsWithout p k) :
    StartsWithout p (cs.map some ++ k) := by
  cases cs with
  | nil => exact hk
  | cons c cs => exact startsWithout_cons (hcs c rfl)

theorem StartsWithout.noDigit {k : List Symbol} (hk : StartsWithout goesOn k) :
    StartsWithout Char.isDigit k :=
  hk.imp fun c hc => by simp_all [goesOn]

/-! ## Scanning the parts -/

theorem scanDigits_append {ds : List Char} {k : List Symbol} (hds : ∀ c ∈ ds, c.isDigit)
    (hk : StartsWithout Char.isDigit k) : scanDigits (ds.map some ++ k) = (ds, k) := by
  induction ds with
  | nil =>
    match k with
    | [] => rfl
    | none :: k => rfl
    | some c :: k => simp [scanDigits, hk c rfl]
  | cons c ds ih =>
    have hc := hds c (by simp)
    have ih := ih fun x hx => hds x (by simp [hx])
    simp [scanDigits, hc, ih]

theorem scanWhole_append {whole : List Char} {k : List Symbol} (hne : whole ≠ [])
    (hdigits : ∀ c ∈ whole, c.isDigit) (hlead : whole.head? = some '0' → whole = ['0'])
    (hk : StartsWithout Char.isDigit k) : scanWhole (whole.map some ++ k) = some (whole, k) := by
  cases whole with
  | nil => contradiction
  | cons c cs =>
    by_cases hc : c = '0'
    · subst hc
      rw [hlead rfl]
      rfl
    · have hscan := scanDigits_append hdigits hk
      simp only [List.map_cons, List.cons_append] at hscan ⊢
      unfold scanWhole
      split
      · simp_all
      · simp [hscan]

/-- The characters of a fraction with its point. -/
def fractionChars (fraction : List Char) : List Char :=
  if fraction = [] then [] else '.' :: fraction

theorem scanFraction_append {fraction : List Char} {k : List Symbol}
    (hdigits : ∀ c ∈ fraction, c.isDigit) (hk : StartsWithout (fun c => c.isDigit || c = '.') k) :
    scanFraction ((fractionChars fraction).map some ++ k) = some (fraction, k) := by
  have hkd : StartsWithout Char.isDigit k := hk.imp fun c hc => by simp_all
  cases fraction with
  | nil =>
    unfold scanFraction fractionChars
    split
    · rename_i rest heq
      have := hk '.' (by simp_all)
      simp at this
    · simp
  | cons c cs =>
    have hscan := scanDigits_append hdigits hkd
    simp only [List.map_cons, List.cons_append] at hscan
    simp [scanFraction, fractionChars, hscan]

/-- The characters of an exponent with its letter and sign. -/
def exponentChars : Option Int → List Char
  | none => []
  | some e => 'e' :: (if e < 0 then '-' else '+') :: Nat.toDigits 10 e.natAbs

theorem isDigit_of_mem_toDigits {n : Nat} : ∀ c ∈ Nat.toDigits 10 n, c.isDigit = true :=
  fun _ hc => Nat.isDigit_of_mem_toDigits (by decide) (by decide) hc

theorem digitsValue_toDigits (n : Nat) : Double.digitsValue (Nat.toDigits 10 n) = n :=
  Nat.ofDigitChars_ten_toDigits

theorem scanExponent_append {e : Option Int} {k : List Symbol} (hk : StartsWithout goesOn k) :
    scanExponent ((exponentChars e).map some ++ k) = some (e, k) := by
  cases e with
  | none =>
    match k with
    | [] => rfl
    | none :: k => rfl
    | some c :: k =>
      have hc := hk c rfl
      simp only [goesOn, Bool.or_eq_false_iff, decide_eq_false_iff_not] at hc
      simp [scanExponent, exponentChars, hc]
  | some e =>
    have hscan := scanDigits_append (isDigit_of_mem_toDigits (n := e.natAbs)) hk.noDigit
    have hne : Nat.toDigits 10 e.natAbs ≠ [] := Nat.toDigits_ne_nil
    have hvalue := digitsValue_toDigits e.natAbs
    by_cases he : e < 0
    · simp only [exponentChars, he, if_true, List.map_cons, List.cons_append, scanExponent,
        scanSign, true_or, hscan, hvalue]
      simp only [Option.some.injEq, Prod.mk.injEq, and_true]
      omega
    · simp only [exponentChars, he, if_false, List.map_cons, List.cons_append, scanExponent,
        scanSign, true_or, if_true, hscan, hvalue]
      simp only [Bool.false_eq_true, if_false, Option.some.injEq, Prod.mk.injEq, and_true]
      omega

/-! ## Whole literals -/

/-- A numeral whose literal is a number: digits in both parts, and no needless zero in front. -/
structure Numeral.IsWritten (n : Numeral) : Prop where
  whole_ne_nil : n.whole ≠ []
  isDigit_whole : ∀ c ∈ n.whole, c.isDigit
  leading_zero : n.whole.head? = some '0' → n.whole = ['0']
  isDigit_fraction : ∀ c ∈ n.fraction, c.isDigit

namespace Numeral

/-- The literal of a number without its sign. -/
def unsignedChars (n : Numeral) : List Char :=
  n.whole ++ (fractionChars n.fraction ++ exponentChars n.exponent)

theorem chars_eq (n : Numeral) :
    n.chars = (if n.negative then ['-'] else []) ++ n.unsignedChars := by
  rw [chars, unsignedChars, fractionChars, List.append_assoc, List.append_assoc]
  cases n.exponent <;> rfl

theorem head?_exponentChars {e : Option Int} {c : Char} (h : (exponentChars e).head? = some c) :
    c = 'e' := by
  cases e with
  | none => simp [exponentChars] at h
  | some e => exact (Option.some.inj h).symm

theorem scanNumeral_append {n : Numeral} (hn : n.IsWritten) {k : List Symbol}
    (hk : StartsWithout goesOn k) :
    scanNumeral n.negative (n.unsignedChars.map some ++ k) = some (n, k) := by
  -- Each part ends where the next one starts, so what follows is fixed from the back.
  have hexponent : StartsWithout (fun c => c.isDigit || c = '.')
      ((exponentChars n.exponent).map some ++ k) := by
    refine .append (fun c hc => ?_) (hk.imp fun c hc => by simp_all [goesOn])
    rw [head?_exponentChars hc]
    decide
  have hfraction : StartsWithout Char.isDigit
      ((fractionChars n.fraction).map some ++ ((exponentChars n.exponent).map some ++ k)) := by
    refine .append (fun c hc => ?_) (hexponent.imp fun c hc => by simp_all)
    unfold fractionChars at hc
    split at hc
    · simp at hc
    · simp only [List.head?_cons, Option.some.injEq] at hc
      exact hc ▸ rfl
  have hwhole := scanWhole_append hn.whole_ne_nil hn.isDigit_whole hn.leading_zero hfraction
  simp only [unsignedChars, List.map_append, List.append_assoc, scanNumeral, hwhole,
    scanFraction_append hn.isDigit_fraction hexponent, scanExponent_append hk,
    Option.bind_eq_bind, Option.bind_some, Option.pure_def]

/-- A literal is scanned as one token. -/
theorem scanToken_chars {n : Numeral} (hn : n.IsWritten) {k : List Symbol}
    (hk : StartsWithout goesOn k) :
    ∃ c cs, n.chars = c :: cs ∧ isGap c = false
      ∧ scanToken c (cs.map some ++ k) = some (.number n, k) := by
  have hscan := scanNumeral_append hn hk
  rw [chars_eq]
  cases hneg : n.negative with
  | true =>
    refine ⟨'-', n.unsignedChars, rfl, rfl, ?_⟩
    rw [hneg] at hscan
    simp [scanToken, punctuation?, hscan]
  | false =>
    obtain ⟨c, cs, hc⟩ := List.exists_cons_of_ne_nil hn.whole_ne_nil
    have hdigit : c.isDigit := hn.isDigit_whole c (by simp [hc])
    have hu : n.unsignedChars
        = c :: (cs ++ (fractionChars n.fraction ++ exponentChars n.exponent)) := by
      rw [unsignedChars, hc, List.cons_append]
    rw [hneg, hu, List.map_cons, List.cons_append] at hscan
    have hne : ∀ d : Char, d.isDigit = false → c ≠ d := by
      rintro d hd rfl
      simp [hdigit] at hd
    have hgap : isGap c = false := by
      simp [isGap, hne ' ' rfl, hne '\t' rfl, hne '\n' rfl, hne '\r' rfl]
    have hmark : punctuation? c = none := by
      unfold punctuation?
      split <;> simp_all
    refine ⟨c, _, hu, hgap, ?_⟩
    simp only [scanToken, hmark, hne '"' rfl, hne '-' rfl, hdigit, if_false, if_true, hscan,
      Option.map_some]

/-! ## The numerals of whole numbers and doubles -/

/-- The digits of a number have no needless zero in front. -/
theorem head?_toDigits {n : Nat} (h : n ≠ 0) : (Nat.toDigits 10 n).head? ≠ some '0' := by
  induction n using Nat.strongRecOn with
  | _ n ih =>
    rw [Nat.toDigits_eq_if (by decide)]
    split
    · rename_i hlt
      have : n = 1 ∨ n = 2 ∨ n = 3 ∨ n = 4 ∨ n = 5 ∨ n = 6 ∨ n = 7 ∨ n = 8 ∨ n = 9 := by omega
      rcases this with rfl | rfl | rfl | rfl | rfl | rfl | rfl | rfl | rfl <;> decide
    · rename_i hge
      -- Without its last digit the number is smaller and starts with the same digit.
      obtain ⟨c, cs, hc⟩ := List.exists_cons_of_ne_nil (Nat.toDigits_ne_nil (n := n / 10) (b := 10))
      have := ih (n / 10) (by omega) (by omega)
      simpa [hc] using this

theorem toDigits_of_head?_eq_zero {n : Nat} (h : (Nat.toDigits 10 n).head? = some '0') :
    Nat.toDigits 10 n = ['0'] := by
  by_cases hn : n = 0
  · simp [hn]
  · exact absurd h (head?_toDigits hn)

theorem isWritten_ofNat (n : Nat) : (ofNat n).IsWritten where
  whole_ne_nil := Nat.toDigits_ne_nil
  isDigit_whole := isDigit_of_mem_toDigits
  leading_zero := toDigits_of_head?_eq_zero
  isDigit_fraction := by simp [ofNat]

theorem isWritten_ofInt (i : Int) : (ofInt i).IsWritten where
  whole_ne_nil := Nat.toDigits_ne_nil
  isDigit_whole := isDigit_of_mem_toDigits
  leading_zero := toDigits_of_head?_eq_zero
  isDigit_fraction := by simp [ofInt, ofNat]

end Numeral

end MasterData.Json

namespace MasterData.Decimal

theorem Grid.pos_of_holds {g : Grid} {c : Nat} (hlow : 0 < g.low) (hquarter : 0 < g.quarter)
    (h : g.holds c) : 0 < c := by
  rcases Nat.eq_zero_or_pos c with rfl | hc
  · have := Nat.mul_pos hlow hquarter
    unfold holds at h
    split at h
    · simp only [Nat.zero_mul, Bool.and_eq_true, decide_eq_true_eq] at h
      omega
    · simp only [Nat.zero_mul, Bool.and_eq_true, decide_eq_true_eq] at h
      omega
  · exact hc

theorem Grid.pos_of_nearest? {g : Grid} {tie : Tie} {c : Nat} (hlow : 0 < g.low)
    (hquarter : 0 < g.quarter) (h : g.nearest? tie = some c) : 0 < c := by
  simp only [nearest?] at h
  generalize g.value * g.quarter / g.step = below at h
  split at h
  · rename_i hbelow _
    have := pos_of_holds hlow hquarter hbelow
    split at h
    · exact Option.some.inj h ▸ this
    · split at h
      · exact Option.some.inj h ▸ Nat.succ_pos below
      · cases tie
        · exact Option.some.inj h ▸ Nat.add_pos_left this _
        · exact Option.some.inj h ▸ Nat.succ_pos below
  · rename_i hbelow _
    exact Option.some.inj h ▸ pos_of_holds hlow hquarter hbelow
  · exact Option.some.inj h ▸ Nat.succ_pos below
  · cases h

/-- The shortest decimal of a number that is not zero has a digit that is not. -/
theorem digits_shortest (f : FloatFormat) (tie : Tie) (magnitude : Nat) :
    shortest f tie magnitude = ⟨0, 0⟩ ∨ (shortest f tie magnitude).digits ≠ 0 := by
  simp only [shortest]
  split
  · exact .inl rfl
  · rename_i hs
    right
    cases hfound : List.findSome? _ (List.range' 1 17) with
    | none => exact hs
    | some d =>
      obtain ⟨count, -, hd⟩ := List.exists_of_findSome?_eq_some hfound
      split at hd
      · rename_i c hc
        -- The interval of a number that is not zero lies above zero, and the point lies in it.
        have hpos : 0 < c := by
          refine Grid.pos_of_nearest? ?_ ?_ hc
          · simp only [grid]
            split <;> omega
          · simp only [grid]
            rw [Nat.shiftLeft_eq]
            exact Nat.mul_pos (Nat.pow_pos (by decide)) (Nat.two_pow_pos _)
        simp only [Option.some.injEq] at hd
        subst hd
        simp only [Option.getD_some]
        split
        · simp
        · exact Nat.ne_of_gt hpos
      · simp at hd

/-- A plain decimal has a digit before its point, and a zero there only on its own. -/
theorem whole_plain (d : Decimal) (hd : d = ⟨0, 0⟩ ∨ d.digits ≠ 0) :
    d.plain.1 ≠ [] ∧ (∀ c ∈ d.plain.1, c.isDigit)
      ∧ (d.plain.1.head? = some '0' → d.plain.1 = ['0']) := by
  have hne : d.chars ≠ [] := Nat.toDigits_ne_nil
  have hdigit : ∀ c ∈ d.chars, c.isDigit := Json.isDigit_of_mem_toDigits
  rcases hd with rfl | hd
  · simp [plain, chars, pointPosition]
  · have hhead : d.chars.head? ≠ some '0' := Json.Numeral.head?_toDigits hd
    obtain ⟨c, cs, hc⟩ := List.exists_cons_of_ne_nil hne
    simp only [plain]
    -- The point stands in front of the digits, behind them or among them.
    split
    · simp
    · split
      · refine ⟨by simp [hne], fun x hx => ?_, fun hx => ?_⟩
        · rcases List.mem_append.1 hx with hx | hx
          · exact hdigit x hx
          · rw [List.eq_of_mem_replicate hx]
            rfl
        · simp_all
      · rename_i hpoint _
        obtain ⟨n, hn⟩ : ∃ n, d.pointPosition.toNat = n + 1 := ⟨d.pointPosition.toNat - 1, by omega⟩
        refine ⟨by simp [hn, hc], fun x hx => hdigit x (List.mem_of_mem_take hx), fun hx => ?_⟩
        simp_all

theorem isDigit_of_mem_fraction_plain (d : Decimal) : ∀ c ∈ d.plain.2, c.isDigit := by
  have hdigit : ∀ c ∈ d.chars, c.isDigit := Json.isDigit_of_mem_toDigits
  intro c hc
  simp only [plain] at hc
  split at hc
  · rcases List.mem_append.1 hc with hc | hc
    · rw [List.eq_of_mem_replicate hc]
      rfl
    · exact hdigit c hc
  · split at hc
    · simp at hc
    · exact hdigit c (List.mem_of_mem_drop hc)

end MasterData.Decimal

namespace MasterData.Json.Numeral

theorem isWritten_ofDouble (x : Double) : (ofDouble x).IsWritten := by
  have hd := Decimal.digits_shortest .double .even x.magnitude
  set d := Decimal.shortest .double .even x.magnitude with hdef
  obtain ⟨hne, hdigits, hlead⟩ := Decimal.whole_plain d hd
  have hchars : ∀ c ∈ d.chars, c.isDigit := isDigit_of_mem_toDigits
  obtain ⟨c, cs, hc⟩ := List.exists_cons_of_ne_nil (l := d.chars) Nat.toDigits_ne_nil
  simp only [ofDouble, ← hdef]
  split
  · refine ⟨hne, hdigits, hlead, fun x hx => ?_⟩
    simp only at hx
    split at hx
    · simp only [List.mem_singleton] at hx
      exact hx ▸ rfl
    · exact Decimal.isDigit_of_mem_fraction_plain d x hx
  · refine ⟨by simp [hc], fun x hx => hchars x (List.mem_of_mem_take hx), fun hx => ?_,
      fun x hx => hchars x (List.mem_of_mem_drop hx)⟩
    simp_all

end MasterData.Json.Numeral
