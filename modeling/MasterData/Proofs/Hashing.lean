-- SUMMARY: Where equality and hashing of keys fit each other.
import MasterData.Hashing
import MasterData.Proofs.Number.Rounding
import MasterData.Proofs.Record.AssetText
import MasterData.Proofs.Record.Keys

/-! # Equality and hashing

What a value feeds to a hasher tells the value, and is told apart from all that may follow it. So values
that are equal feed the same only if they are the same, and this fails at the floats: a float that is no
number does not even equal itself, and a zero equals the zero with the other sign, which has other bits.
A value whose floats are all numbers other than zero is a lawful key. Main statement:
`keys_lawful_iff_floats_proper`.
-/

namespace MasterData

/-! ## Floats -/

namespace Double

/-- A zero with its sign changed; any other double as it is. -/
def flipZero (x : Double) : Double :=
  if x.magnitude = 0 then ofMagnitude (!x.isNegative) 0 else x

theorem sameNumber_self (x : Double) : x.sameNumber x = !x.isNaN := by
  simp [sameNumber]

theorem sameNumber_flipZero (x : Double) : x.sameNumber x.flipZero = !x.isNaN := by
  unfold flipZero
  split
  · rename_i hzero
    simp [sameNumber, hzero, magnitude_ofMagnitude]
  · exact x.sameNumber_self

theorem flipZero_eq_self_iff {x : Double} : x.flipZero = x ↔ x.magnitude ≠ 0 := by
  unfold flipZero
  split
  · rename_i hzero
    refine ⟨fun heq => ?_, fun hne => absurd hzero hne⟩
    have hsign := congrArg isNegative heq
    rw [isNegative_ofMagnitude (by decide)] at hsign
    exact absurd hsign (by simp)
  · rename_i hzero
    exact ⟨fun _ => hzero, fun _ => rfl⟩

theorem eq_of_bits {x y : Double} (h : x.bits = y.bits) : x = y := by
  cases x
  cases y
  exact congrArg mk h

/-- What equals a double other than zero is that double. -/
theorem eq_of_sameNumber {x y : Double} (hx : x.flipZero = x) (h : x.sameNumber y = true) : x = y := by
  have hzero := flipZero_eq_self_iff.1 hx
  simp only [sameNumber, Bool.and_eq_true, Bool.or_eq_true, beq_iff_eq] at h
  exact h.2.resolve_right fun hzeros => hzero hzeros.1

/-- A float that a lawful key can hold: a number other than zero. -/
def isProper (x : Double) : Bool :=
  !x.isNaN && x.magnitude ≠ 0

theorem isProper_iff {x : Double} : x.isProper = true ↔ x.sameNumber x = true ∧ x.flipZero = x := by
  simp [isProper, sameNumber_self, flipZero_eq_self_iff]

end Double

/-! ## Field values -/

namespace FieldValue

mutual

/-- What a value feeds to a hasher ends by itself, and tells the value. -/
theorem eq_of_hashParts_append {a b : FieldValue} {after after' : List HashPart}
    (h : a.hashParts ++ after = b.hashParts ++ after') : a = b ∧ after = after' := by
  cases a with
  | array xs =>
    cases b with
    | array ys =>
      simp only [hashParts, List.cons_append, List.cons.injEq, true_and, HashPart.length.injEq] at h
      obtain ⟨rfl, hafter⟩ := eq_of_hashPartsOfList_append h.1 h.2
      exact ⟨rfl, hafter⟩
    | _ => simp [hashParts] at h
  | float x =>
    cases b with
    | float y =>
      simp only [hashParts, List.cons_append, List.nil_append, List.cons.injEq, true_and,
        HashPart.uint.injEq] at h
      exact ⟨congrArg float (Double.eq_of_bits h.1), h.2⟩
    | _ => simp [hashParts] at h
  | _ => cases b <;> simp_all [hashParts]

theorem eq_of_hashPartsOfList_append {xs ys : List FieldValue} {after after' : List HashPart}
    (hlength : xs.length = ys.length)
    (h : hashPartsOfList xs ++ after = hashPartsOfList ys ++ after') : xs = ys ∧ after = after' := by
  cases xs with
  | nil =>
    cases ys with
    | nil => exact ⟨rfl, h⟩
    | cons y ys => cases hlength
  | cons x xs =>
    cases ys with
    | nil => cases hlength
    | cons y ys =>
      rw [hashPartsOfList, hashPartsOfList, List.append_assoc, List.append_assoc] at h
      obtain ⟨rfl, hrest⟩ := eq_of_hashParts_append h
      obtain ⟨rfl, hafter⟩ := eq_of_hashPartsOfList_append (Nat.succ.inj hlength) hrest
      exact ⟨rfl, hafter⟩

end

theorem hashParts_inj {a b : FieldValue} : a.hashParts = b.hashParts ↔ a = b := by
  refine ⟨fun h => ?_, congrArg hashParts⟩
  have hparts : a.hashParts ++ [] = b.hashParts ++ [] := by rw [h]
  exact (eq_of_hashParts_append hparts).1

mutual

/-- A value equals itself if it is one key with itself. -/
theorem agrees_self (a : FieldValue) : a.agrees a = a.isReflexive := by
  cases a with
  | array items =>
    rw [agrees, isReflexive]
    exact agreeInOrder_self items
  | float x => rw [agrees, isReflexive, Double.sameNumber_self]
  | _ => simp [agrees, isReflexive]

theorem agreeInOrder_self (items : List FieldValue) :
    agreeInOrder items items = areReflexive items := by
  cases items with
  | nil => rfl
  | cons item rest => rw [agreeInOrder, areReflexive, agrees_self item, agreeInOrder_self rest]

end

mutual

theorem isReflexive_iff (a : FieldValue) :
    a.isReflexive = true ↔ ∀ x ∈ a.floats, x.isNaN = false := by
  cases a with
  | array items =>
    rw [isReflexive, floats]
    exact areReflexive_iff items
  | float x => simp [isReflexive, floats]
  | _ => simp [isReflexive, floats]

theorem areReflexive_iff (items : List FieldValue) :
    areReflexive items = true ↔ ∀ x ∈ floatsOfList items, x.isNaN = false := by
  cases items with
  | nil => simp [areReflexive, floatsOfList]
  | cons item rest =>
    rw [areReflexive, floatsOfList, Bool.and_eq_true, isReflexive_iff item, areReflexive_iff rest,
      List.forall_mem_append]

end

/-- Two values fall together in a map if they feed the same to its hasher and are equal. -/
theorem sameKey_iff_agrees {a b : FieldValue} :
    a.sameKey b = true ↔ a.hashParts = b.hashParts ∧ a.agrees b = true := by
  rw [sameKey_iff, hashParts_inj, ← agrees_self]
  refine and_congr_right fun heq => ?_
  rw [heq]

/-! ## Zeros -/

mutual

/-- A value with the sign of all its zeros changed. -/
def flipZeros : FieldValue → FieldValue
  | float x => .float x.flipZero
  | array items => .array (flipZerosInOrder items)
  | v => v

def flipZerosInOrder : List FieldValue → List FieldValue
  | [] => []
  | item :: rest => item.flipZeros :: flipZerosInOrder rest

end

mutual

theorem agrees_flipZeros (a : FieldValue) : a.agrees a.flipZeros = a.agrees a := by
  cases a with
  | array items =>
    rw [flipZeros, agrees, agrees]
    exact agreeInOrder_flipZerosInOrder items
  | float x => rw [flipZeros, agrees, agrees, Double.sameNumber_flipZero, Double.sameNumber_self]
  | _ => rfl

theorem agreeInOrder_flipZerosInOrder (items : List FieldValue) :
    agreeInOrder items (flipZerosInOrder items) = agreeInOrder items items := by
  cases items with
  | nil => rfl
  | cons item rest =>
    rw [flipZerosInOrder, agreeInOrder, agreeInOrder, agrees_flipZeros item,
      agreeInOrder_flipZerosInOrder rest]

end

mutual

theorem flipZeros_eq_self_iff (a : FieldValue) :
    a.flipZeros = a ↔ ∀ x ∈ a.floats, x.flipZero = x := by
  cases a with
  | array items =>
    rw [flipZeros, floats, array.injEq]
    exact flipZerosInOrder_eq_self_iff items
  | float x => simp [flipZeros, floats]
  | _ => simp [flipZeros, floats]

theorem flipZerosInOrder_eq_self_iff (items : List FieldValue) :
    flipZerosInOrder items = items ↔ ∀ x ∈ floatsOfList items, x.flipZero = x := by
  cases items with
  | nil => simp [flipZerosInOrder, floatsOfList]
  | cons item rest =>
    rw [flipZerosInOrder, floatsOfList, List.cons.injEq, flipZeros_eq_self_iff item,
      flipZerosInOrder_eq_self_iff rest, List.forall_mem_append]

end

mutual

/-- A value without zeros equals at most itself. -/
theorem eq_of_agrees {a b : FieldValue} (ha : ∀ x ∈ a.floats, x.flipZero = x)
    (h : a.agrees b = true) : a = b := by
  cases a with
  | array xs =>
    cases b with
    | array ys =>
      rw [agrees] at h
      exact congrArg array (eq_of_agreeInOrder ha h)
    | _ => simp [agrees] at h
  | float x =>
    cases b with
    | float y =>
      rw [agrees] at h
      exact congrArg float (Double.eq_of_sameNumber (ha x (List.mem_singleton_self _)) h)
    | _ => simp [agrees] at h
  | _ => cases b <;> simp_all [agrees]

theorem eq_of_agreeInOrder {xs ys : List FieldValue}
    (hxs : ∀ x ∈ floatsOfList xs, x.flipZero = x) (h : agreeInOrder xs ys = true) : xs = ys := by
  cases xs with
  | nil =>
    cases ys with
    | nil => rfl
    | cons y ys => simp [agreeInOrder] at h
  | cons x xs =>
    cases ys with
    | nil => simp [agreeInOrder] at h
    | cons y ys =>
      rw [floatsOfList, List.forall_mem_append] at hxs
      rw [agreeInOrder, Bool.and_eq_true] at h
      rw [eq_of_agrees hxs.1 h.1, eq_of_agreeInOrder hxs.2 h.2]

end

end FieldValue

/-! ## Lawful keys -/

/-- An equality and what keys feed to a hasher fit each other at a key: it equals itself, and all that it
equals feeds the same. -/
def IsLawfulKey {α : Type} (agrees : α → α → Bool) (hashParts : α → List HashPart) (a : α) : Prop :=
  agrees a a = true ∧ ∀ b, agrees a b = true → hashParts a = hashParts b

theorem FieldValue.isLawfulKey_iff {a : FieldValue} :
    IsLawfulKey agrees hashParts a ↔ ∀ x ∈ a.floats, x.isProper = true := by
  simp only [Double.isProper_iff, forall_and, IsLawfulKey, hashParts_inj, agrees_self,
    isReflexive_iff, Double.sameNumber_self, Bool.not_eq_true']
  refine and_congr_right fun hreflexive => ⟨fun h => ?_, fun h b hb => eq_of_agrees h hb⟩
  refine (flipZeros_eq_self_iff a).1 (h _ ?_).symm
  rw [agrees_flipZeros, agrees_self]
  exact (isReflexive_iff a).2 hreflexive

namespace Cell

theorem hashParts_inj {a b : Cell} : a.hashParts = b.hashParts ↔ a = b := by
  refine ⟨fun h => ?_, congrArg hashParts⟩
  cases a with
  | number x =>
    cases b with
    | number y =>
      simp only [hashParts, List.cons.injEq, HashPart.uint.injEq, and_true, true_and] at h
      exact congrArg number (Double.eq_of_bits h)
    | _ => simp [hashParts] at h
  | _ => cases b <;> simp_all [hashParts]

theorem agrees_self_iff {a : Cell} : a.agrees a = true ↔ ∀ x, a = .number x → x.isNaN = false := by
  cases a <;> simp [agrees, Double.sameNumber_self]

/-- Two cells fall together in a set if they feed the same to its hasher and are equal. -/
theorem sameKey_iff_agrees {a b : Cell} :
    a.sameKey b = true ↔ a.hashParts = b.hashParts ∧ a.agrees b = true := by
  rw [hashParts_inj]
  cases a <;> cases b <;> simp [sameKey, agrees]

theorem isLawfulKey_iff {a : Cell} :
    IsLawfulKey agrees hashParts a ↔ ∀ x, a = .number x → x.isProper = true := by
  simp only [IsLawfulKey, hashParts_inj]
  cases a with
  | number x =>
    simp only [number.injEq, forall_eq', Double.isProper_iff]
    refine and_congr_right fun hself => ⟨fun h => ?_, fun hzero b hb => ?_⟩
    · have hagrees : (number x).agrees (number x.flipZero) = true :=
        x.sameNumber_flipZero.trans (x.sameNumber_self.symm.trans hself)
      exact (number.inj (h _ hagrees)).symm
    · cases b with
      | number y => exact congrArg number (Double.eq_of_sameNumber hzero hb)
      | _ => cases hb
  | _ => simp [agrees]

end Cell

/-- Equality and hashing of keys fit each other up to the floats. What a value or a cell feeds to a hasher
tells all of it, and two of them are one key of a map exactly if they feed the same and are equal. A value
equals itself exactly if all its floats are numbers, however deep they are nested. It is a lawful key
exactly if they are numbers other than zero; a zero equals the zero with the other sign, which feeds other
bits. -/
theorem keys_lawful_iff_floats_proper (a b : FieldValue) (c d : Cell) :
    (IsLawfulKey FieldValue.agrees FieldValue.hashParts a ↔ ∀ x ∈ a.floats, x.isProper = true)
      ∧ (a.agrees a = true ↔ ∀ x ∈ a.floats, x.isNaN = false)
      ∧ (a.hashParts = b.hashParts ↔ a = b)
      ∧ (a.sameKey b = true ↔ a.hashParts = b.hashParts ∧ a.agrees b = true)
      ∧ (IsLawfulKey Cell.agrees Cell.hashParts c ↔ ∀ x, c = .number x → x.isProper = true)
      ∧ (c.agrees c = true ↔ ∀ x, c = .number x → x.isNaN = false)
      ∧ (c.hashParts = d.hashParts ↔ c = d)
      ∧ (c.sameKey d = true ↔ c.hashParts = d.hashParts ∧ c.agrees d = true) := by
  refine ⟨FieldValue.isLawfulKey_iff, ?_, FieldValue.hashParts_inj, FieldValue.sameKey_iff_agrees,
    Cell.isLawfulKey_iff, Cell.agrees_self_iff, Cell.hashParts_inj, Cell.sameKey_iff_agrees⟩
  rw [FieldValue.agrees_self, FieldValue.isReflexive_iff]

/-- A float that is no number does not equal itself, and the two zeros are equal and feed different bits:
as values, inside of lists and as cells. -/
theorem not_lawful_nan_zero :
    (FieldValue.float .nan).agrees (.float .nan) = false
      ∧ (FieldValue.array [.float .zero]).agrees (.array [.float (.ofMagnitude true 0)]) = true
      ∧ (FieldValue.array [.float .zero]).hashParts
        ≠ (FieldValue.array [.float (.ofMagnitude true 0)]).hashParts
      ∧ (Cell.number .nan).agrees (.number .nan) = false
      ∧ (Cell.number .zero).agrees (.number (.ofMagnitude true 0)) = true
      ∧ (Cell.number .zero).hashParts ≠ (Cell.number (.ofMagnitude true 0)).hashParts
      ∧ (¬ ∀ a, IsLawfulKey FieldValue.agrees FieldValue.hashParts a)
      ∧ ¬ ∀ a, IsLawfulKey Cell.agrees Cell.hashParts a := by
  have hvalue : (FieldValue.float .nan).agrees (.float .nan) = false := by decide +kernel
  have hcell : (Cell.number .nan).agrees (.number .nan) = false := by decide +kernel
  refine ⟨hvalue, by decide +kernel, by decide +kernel, hcell, by decide +kernel, by decide +kernel,
    fun h => ?_, fun h => ?_⟩
  · exact absurd (h (.float .nan)).1 (by simp [hvalue])
  · exact absurd (h (.number .nan)).1 (by simp [hcell])

end MasterData
