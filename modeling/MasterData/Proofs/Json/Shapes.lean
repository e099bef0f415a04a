-- SUMMARY: Simple values are read from the trees that they are written as.
import Mathlib.Data.List.Forall2
import Mathlib.Tactic.Set
import MasterData.Json.Shape
import MasterData.Proofs.Json.Tokens

/-! # Reading simple values

Whole numbers, characters and lists are read back from the trees that they are written as. A double is
read back at all only if it is finite, and what is read as a double is finite.
-/

namespace MasterData.Json

/-! ## Whole numbers -/

theorem Numeral.toInt?_ofNat (n : Nat) : (Numeral.ofNat n).toInt? = some n := by
  simp [Numeral.toInt?, Numeral.ofNat, digitsValue_toDigits]

theorem Numeral.toInt?_ofInt (i : Int) : (Numeral.ofInt i).toInt? = some i := by
  by_cases hi : i < 0
  · have habs : i.natAbs ≠ 0 := by omega
    simp only [Numeral.toInt?, Numeral.ofInt, Numeral.ofNat, digitsValue_toDigits, hi, habs]
    simp only [ne_eq, not_true_eq_false, or_self, if_false, decide_true, if_true,
      Option.some.injEq]
    omega
  · simp only [Numeral.toInt?, Numeral.ofInt, Numeral.ofNat, digitsValue_toDigits, hi]
    simp only [ne_eq, not_true_eq_false, or_self, if_false, decide_false, Bool.false_eq_true,
      Option.some.injEq]
    omega

theorem asIntIn?_ofInt {low high i : Int} (hlow : low ≤ i) (hhigh : i ≤ high) :
    (ofInt i).asIntIn? low high = some i := by
  simp [ofInt, asIntIn?, Numeral.toInt?_ofInt, hlow, hhigh]

theorem asIntIn?_ofNat {low high : Int} {n : Nat} (hlow : low ≤ n) (hhigh : n ≤ high) :
    (ofNat n).asIntIn? low high = some (n : Int) := by
  simp [ofNat, asIntIn?, Numeral.toInt?_ofNat, hlow, hhigh]

@[simp] theorem asInt64?_ofInt (i : Int64) : (ofInt i.toInt).asInt64? = some i := by
  have hlow := i.le_toInt
  have hhigh := i.toInt_lt
  rw [asInt64?, asIntIn?_ofInt (by omega) (by omega)]
  simp

@[simp] theorem asUInt64?_ofNat (n : UInt64) : (ofNat n.toNat).asUInt64? = some n := by
  have := n.toNat_lt
  rw [asUInt64?, asIntIn?_ofNat (by omega) (by omega)]
  simp

@[simp] theorem asUInt32?_ofNat (n : UInt32) : (ofNat n.toNat).asUInt32? = some n := by
  have := n.toNat_lt
  rw [asUInt32?, asIntIn?_ofNat (by omega) (by omega)]
  simp

@[simp] theorem asChar?_text (c : Char) : (Json.text (String.singleton c)).asChar? = some c := by
  simp [asChar?, asText?]

/-! ## Lists -/

/-- A list is read if its items are, each by itself. -/
theorem mapM_eq_some_iff {α β : Type} {read : α → Option β} {l : List α} {bs : List β} :
    l.mapM read = some bs ↔ List.Forall₂ (fun a b => read a = some b) l bs := by
  induction l generalizing bs with
  | nil => cases bs <;> simp
  | cons a l ih =>
    cases bs with
    | nil => simp [List.mapM_cons, Option.bind_eq_some_iff]
    | cons b bs => simp [List.mapM_cons, Option.bind_eq_some_iff, ← ih]

theorem mapM_map_eq_some {α β : Type} {write : α → β} {read : β → Option α} {l : List α}
    (h : ∀ a ∈ l, read (write a) = some a) : (l.map write).mapM read = some l :=
  mapM_eq_some_iff.2 (List.forall₂_map_left_iff.2 (List.forall₂_same.2 h))

theorem mapM_map_eq_none {α β γ : Type} {write : α → β} {read : β → Option γ} {l : List α} {a : α}
    (ha : a ∈ l) (h : read (write a) = none) : (l.map write).mapM read = none := by
  induction l with
  | nil => cases ha
  | cons b l ih =>
    rcases List.mem_cons.1 ha with rfl | ha
    · simp [h]
    · simp [ih ha]

theorem exists_forall₂ {α β : Type} {R : α → β → Prop} {l : List α} (h : ∀ a ∈ l, ∃ b, R a b) :
    ∃ bs, List.Forall₂ R l bs := by
  induction l with
  | nil => exact ⟨[], .nil⟩
  | cons a l ih =>
    obtain ⟨b, hb⟩ := h a (List.mem_cons_self ..)
    obtain ⟨bs, hbs⟩ := ih fun a ha => h a (List.mem_cons_of_mem _ ha)
    exact ⟨b :: bs, .cons hb hbs⟩

theorem exists_of_mem_mapM {α β : Type} {read : α → Option β} {l : List α} {bs : List β} {b : β}
    (h : l.mapM read = some bs) (hb : b ∈ bs) : ∃ a ∈ l, read a = some b := by
  replace h := mapM_eq_some_iff.1 h
  induction h with
  | nil => cases hb
  | cons hread _ ih =>
    rcases List.mem_cons.1 hb with rfl | hb
    · exact ⟨_, List.mem_cons_self .., hread⟩
    · obtain ⟨a, ha, hread⟩ := ih hb
      exact ⟨a, List.mem_cons_of_mem _ ha, hread⟩

/-- Each item of what is read as a list was read on its own. -/
theorem exists_of_mem_asListOf? {α : Type} {read : Json → Option α} {j : Json} {l : List α} {a : α}
    (h : j.asListOf? read = some l) (ha : a ∈ l) : ∃ j, read j = some a := by
  cases j with
  | list items =>
    obtain ⟨j, -, hj⟩ := exists_of_mem_mapM h ha
    exact ⟨j, hj⟩
  | _ => cases h

theorem asListOf?_list_map {α : Type} {write : α → Json} {read : Json → Option α} {l : List α}
    (h : ∀ a ∈ l, read (write a) = some a) :
    (Json.list (l.map write)).asListOf? read = some l :=
  mapM_map_eq_some h

@[simp] theorem asListOf?_texts (l : List String) :
    (Json.list (l.map .text)).asListOf? asText? = some l :=
  asListOf?_list_map fun _ _ => rfl

/-! ## Records -/

/-- An object with none but known keys, each once, has its members for its fields. -/
theorem fields?_object {names : List String} {members : List (String × Json)}
    (hknown : ∀ m ∈ members, m.1 ∈ names) (hnodup : (members.map (·.1)).Nodup) :
    (Json.object members).fields? names = some ⟨members, false⟩ := by
  have hfilter : members.filter (fun m => names.contains m.1) = members :=
    List.filter_eq_self.2 fun m hm => by simpa using hknown m hm
  simp only [fields?, hfilter, hnodup, if_true]

namespace Fields

variable {α : Type}

theorem lookup_cons (key name : String) (j : Json) (members : List (String × Json)) :
    ((key, j) :: members).lookup name = if name = key then some j else members.lookup name := by
  rw [List.lookup_cons]
  split
  · rename_i heq
    rw [if_pos (beq_iff_eq.1 heq)]
  · rename_i hne
    rw [if_neg (beq_eq_false_iff_ne.1 hne)]

theorem required?_cons (key name : String) (j : Json) (members : List (String × Json))
    (positional : Bool) (value : Json → Option α) :
    required? ⟨(key, j) :: members, positional⟩ name value
      = if name = key then value j else required? ⟨members, positional⟩ name value := by
  simp only [required?, lookup_cons]
  split <;> rfl

theorem defaulted?_cons (key name : String) (j : Json) (members : List (String × Json))
    (positional : Bool) (default : α) (value : Json → Option α) :
    defaulted? ⟨(key, j) :: members, positional⟩ name default value
      = if name = key then value j else defaulted? ⟨members, positional⟩ name default value := by
  simp only [defaulted?, lookup_cons]
  by_cases h : name = key
  · rw [if_pos h, if_pos h]
  · rw [if_neg h, if_neg h]

theorem defaulted?_nil (name : String) (positional : Bool) (default : α)
    (value : Json → Option α) : defaulted? ⟨[], positional⟩ name default value = some default := rfl

end Fields

/-! ## Variants -/

theorem asVariant?_content (names : List String) (depth : Nat) (kept : Bool) (name : String)
    (content : Json) :
    (object [("type", .text name), ("value", content)]).asVariant? names depth kept
      = some ⟨name, some content, kept⟩ := by
  simp [asVariant?, asVariantName?]

theorem asVariant?_bare (names : List String) (depth : Nat) (kept : Bool) (name : String) :
    (object [("type", .text name)]).asVariant? names depth kept
      = some ⟨name, none, kept⟩ := by
  simp [asVariant?, asVariantName?]

/-! ## Doubles -/

theorem asDouble?_ofDouble_of_not_isFinite {x : Double} (hx : x.isFinite = false) :
    (ofDouble x).asDouble? = none := by
  simp [ofDouble, hx, asDouble?]

theorem isWritten_ofDouble (x : Double) : (ofDouble x).IsWritten := by
  unfold ofDouble
  split
  · exact Numeral.isWritten_ofDouble x
  · trivial

theorem isWritten_ofNat (n : Nat) : (ofNat n).IsWritten := Numeral.isWritten_ofNat n

theorem isWritten_ofInt (i : Int) : (ofInt i).IsWritten := Numeral.isWritten_ofInt i

theorem isWritten_texts (l : List String) : (Json.list (l.map .text)).IsWritten := by
  refine areWritten_iff.2 fun j hj => ?_
  obtain ⟨s, -, rfl⟩ := List.mem_map.1 hj
  trivial

/-- The bit of the sign does not count for the magnitude. -/
theorem isFinite_flip (x : Double) :
    Double.isFinite ⟨x.bits ^^^ 0x8000000000000000⟩ = x.isFinite := by
  -- The magnitude is what is left below the bit of the sign, and only that bit changes.
  have h : (x.bits.toNat ^^^ 2 ^ 63) % 2 ^ 63 = x.bits.toNat % 2 ^ 63 := by
    rw [Nat.xor_mod_two_pow, Nat.mod_self, Nat.xor_zero]
  simp only [Double.isFinite, Double.magnitude, UInt64.toNat_xor]
  exact congrArg (fun m => decide (m < FloatFormat.double.infinity)) h

theorem Numeral.isFinite_of_scale {significand : Nat} {exponent : Int} {x : Double}
    (h : scale significand exponent = some x) : x.isFinite := by
  have hif {y : Double} (h : (if y.isFinite then some y else none) = some x) : x.isFinite := by
    split at h
    · rename_i hy
      exact Option.some.inj h ▸ hy
    · cases h
  simp only [scale] at h
  split at h
  · exact Option.some.inj h ▸ rfl
  · split at h
    · cases h
    · split at h
      · exact hif h
      · exact hif h

/-- A literal of a number that is too large is not read. -/
theorem Numeral.isFinite_of_toDouble? {n : Numeral} {x : Double} (h : n.toDouble? = some x) :
    x.isFinite := by
  simp only [toDouble?, Option.map_eq_some_iff] at h
  obtain ⟨y, hy, hx⟩ := h
  have hfinite : y.isFinite := by
    split at hy
    · exact Option.some.inj hy ▸ rfl
    · split at hy
      · cases hy
      · exact isFinite_of_scale hy
  split at hx
  · exact hx ▸ (isFinite_flip y).trans hfinite
  · exact hx ▸ hfinite

theorem isFinite_of_asDouble? {j : Json} {x : Double} (h : j.asDouble? = some x) : x.isFinite := by
  cases j with
  | number n => exact Numeral.isFinite_of_toDouble? h
  | _ => cases h

end MasterData.Json

namespace MasterData.Double

/-- Whether a double is read from its literal with the same bits. -/
def ReadsBack (x : Double) : Prop :=
  (Json.ofDouble x).asDouble? = some x

instance (x : Double) : Decidable x.ReadsBack :=
  inferInstanceAs (Decidable (_ = some x))

end MasterData.Double
