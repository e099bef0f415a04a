-- SUMMARY: The values of primitive types: how they are stored, and what is read of them.
import Mathlib.Tactic.SplitIfs
import MasterData.Record.Decode
import MasterData.Record.FieldType

/-! # Values of primitive types

Numbers are stored at 64 bits, with or without a sign, whatever their type is, and are cut down to it when
they are read. A stored value that lies in the range of its type loses nothing then: what is read has it
for its stored form. Casts stay in range, so they are read as they are.
-/

namespace MasterData

/-! ## Values of a type -/

/-- The value is one of a primitive type: a number of its sort and in its range, or a character. -/
def Primitive.Conforms : Primitive → FieldValue → Prop
  | u8, .uint n => n.toNat ≤ 0xff
  | u16, .uint n => n.toNat ≤ 0xffff
  | u32, .uint n => n.toNat ≤ 0xffffffff
  | u64, .uint _ => True
  | i8, .int i => -0x80 ≤ i.toInt ∧ i.toInt ≤ 0x7f
  | i16, .int i => -0x8000 ≤ i.toInt ∧ i.toInt ≤ 0x7fff
  | i32, .int i => -0x80000000 ≤ i.toInt ∧ i.toInt ≤ 0x7fffffff
  | i64, .int _ => True
  | f32, .float _ => True
  | f64, .float _ => True
  | char, .char _ => True
  | _, _ => False

/-! ## Casts -/

theorem Double.exists_clamp (x : Double) (low high : Int) (hlow : low ≤ 0) (hhigh : 0 ≤ high) :
    ∃ i, x.clamp low high = i ∧ low ≤ i ∧ i ≤ high := by
  refine ⟨_, rfl, ?_⟩
  unfold clamp
  split_ifs <;> omega

theorem toNat_clamp_le (x : Double) (high : Nat) (hhigh : high < UInt64.size) :
    (UInt64.ofNat (x.clamp 0 high).toNat).toNat ≤ high := by
  obtain ⟨i, hi, hlow, hle⟩ := x.exists_clamp 0 high (by decide) (by omega)
  rw [hi, UInt64.toNat_ofNat_of_lt' (by omega)]
  omega

theorem toInt_clamp_mem (x : Double) (high : Int) (hlow : 0 ≤ high)
    (hhigh : high ≤ 0x7fffffffffffffff) :
    -high - 1 ≤ (Int64.ofInt (x.clamp (-high - 1) high)).toInt
      ∧ (Int64.ofInt (x.clamp (-high - 1) high)).toInt ≤ high := by
  obtain ⟨i, hi, hle, hge⟩ := x.exists_clamp (-high - 1) high (by omega) hlow
  rw [hi, Int64.toInt_ofInt_of_le (by omega) (by omega)]
  exact ⟨hle, hge⟩

theorem Primitive.conforms_cast (p : Primitive) (x : Double) : p.Conforms (p.cast x) := by
  cases p with
  | u8 => exact toNat_clamp_le x 0xff (by decide)
  | u16 => exact toNat_clamp_le x 0xffff (by decide)
  | u32 => exact toNat_clamp_le x 0xffffffff (by decide)
  | i8 => exact toInt_clamp_mem x 0x7f (by decide) (by decide)
  | i16 => exact toInt_clamp_mem x 0x7fff (by decide) (by decide)
  | i32 => exact toInt_clamp_mem x 0x7fffffff (by decide) (by decide)
  | u64 | i64 | f32 | f64 | char => trivial

/-! ## Stored forms -/

namespace Primitive

/-- The stored form of a value. -/
def stored : (p : Primitive) → p.Value → FieldValue
  | u8, (n : UInt8) => .uint (UInt64.ofNat n.toNat)
  | u16, (n : UInt16) => .uint (UInt64.ofNat n.toNat)
  | u32, (n : UInt32) => .uint (UInt64.ofNat n.toNat)
  | u64, (n : UInt64) => .uint n
  | i8, (n : Int8) => .int (Int64.ofInt n.toInt)
  | i16, (n : Int16) => .int (Int64.ofInt n.toInt)
  | i32, (n : Int32) => .int (Int64.ofInt n.toInt)
  | i64, (n : Int64) => .int n
  | f32, (x : Single) => .float x.toDouble
  | f64, (x : Double) => .float x
  | char, (c : Char) => .char c

/-- A number below the size of an unsigned type is not changed by wrapping around. -/
theorem toNat_emod_of_lt {n size : Nat} (h : n < size) : ((n : Int) % (size : Int)).toNat = n := by
  rw [Int.emod_eq_of_lt (by omega) (by omega), Int.toNat_natCast]

/-- A value of a type without fractions is read as it is: it is the stored form of what is read. -/
theorem exists_stored_of_conforms {p : Primitive} (hp : p.isFloat = false) {v : FieldValue}
    (hv : p.Conforms v) : ∃ a, p.read? v = some a ∧ p.stored a = v := by
  cases p with
  | u8 =>
    cases v with
    | uint n =>
      have hlt : n.toNat < UInt8.size := Nat.lt_succ_of_le hv
      have hread : UInt64.ofNat (UInt8.ofNat ((n.toNat : Int) % (UInt8.size : Int)).toNat).toNat
          = n := by
        rw [toNat_emod_of_lt hlt, UInt8.toNat_ofNat_of_lt' hlt, UInt64.ofNat_toNat]
      exact ⟨_, rfl, congrArg FieldValue.uint hread⟩
    | _ => cases hv
  | u16 =>
    cases v with
    | uint n =>
      have hlt : n.toNat < UInt16.size := Nat.lt_succ_of_le hv
      have hread : UInt64.ofNat (UInt16.ofNat ((n.toNat : Int) % (UInt16.size : Int)).toNat).toNat
          = n := by
        rw [toNat_emod_of_lt hlt, UInt16.toNat_ofNat_of_lt' hlt, UInt64.ofNat_toNat]
      exact ⟨_, rfl, congrArg FieldValue.uint hread⟩
    | _ => cases hv
  | u32 =>
    cases v with
    | uint n =>
      have hlt : n.toNat < UInt32.size := Nat.lt_succ_of_le hv
      have hread : UInt64.ofNat (UInt32.ofNat ((n.toNat : Int) % (UInt32.size : Int)).toNat).toNat
          = n := by
        rw [toNat_emod_of_lt hlt, UInt32.toNat_ofNat_of_lt' hlt, UInt64.ofNat_toNat]
      exact ⟨_, rfl, congrArg FieldValue.uint hread⟩
    | _ => cases hv
  | u64 =>
    cases v with
    | uint n =>
      have hread : UInt64.ofNat ((n.toNat : Int) % (UInt64.size : Int)).toNat = n := by
        rw [toNat_emod_of_lt n.toNat_lt, UInt64.ofNat_toNat]
      exact ⟨_, rfl, congrArg FieldValue.uint hread⟩
    | _ => cases hv
  | i8 =>
    cases v with
    | int i =>
      have hread : Int64.ofInt (Int8.ofInt i.toInt).toInt = i := by
        rw [Int8.toInt_ofInt_of_le hv.1 (Int.lt_add_one_of_le hv.2), Int64.ofInt_toInt]
      exact ⟨_, rfl, congrArg FieldValue.int hread⟩
    | _ => cases hv
  | i16 =>
    cases v with
    | int i =>
      have hread : Int64.ofInt (Int16.ofInt i.toInt).toInt = i := by
        rw [Int16.toInt_ofInt_of_le hv.1 (Int.lt_add_one_of_le hv.2), Int64.ofInt_toInt]
      exact ⟨_, rfl, congrArg FieldValue.int hread⟩
    | _ => cases hv
  | i32 =>
    cases v with
    | int i =>
      have hread : Int64.ofInt (Int32.ofInt i.toInt).toInt = i := by
        rw [Int32.toInt_ofInt_of_le hv.1 (Int.lt_add_one_of_le hv.2), Int64.ofInt_toInt]
      exact ⟨_, rfl, congrArg FieldValue.int hread⟩
    | _ => cases hv
  | i64 =>
    cases v with
    | int i => exact ⟨_, rfl, congrArg FieldValue.int (Int64.ofInt_toInt i)⟩
    | _ => cases hv
  | char =>
    cases v with
    | char c => exact ⟨c, rfl, rfl⟩
    | _ => cases hv
  | f32 => cases hp
  | f64 => cases hp

end Primitive

end MasterData
