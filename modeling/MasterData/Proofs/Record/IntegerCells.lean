-- SUMMARY: Which whole numbers keep their value in a column of an integer type, and which keys fall together.
import MasterData.Proofs.Number.Rounding
import MasterData.Record.Materialize

/-! # Integer cells

The number of a cell is read as a double before it is brought into the type of its column. So a whole
number of more than 53 significant bits is stored as another one, in the columns of the two 64-bit types;
the greatest value of the signed one comes back by chance, as rounding takes it out of the range. Two keys
that are stored as the same number fall together. Main statement: `integer_cells_stay_iff_short`.
-/

namespace MasterData

open Double (rounded IsShort)

namespace Primitive

/-! ## Integer types -/

/-- The least and the greatest value of an integer type. -/
def bounds? : Primitive → Option (Int × Int)
  | u8 => some (0, 0xff)
  | u16 => some (0, 0xffff)
  | u32 => some (0, 0xffffffff)
  | u64 => some (0, 0xffffffffffffffff)
  | i8 => some (-0x80, 0x7f)
  | i16 => some (-0x8000, 0x7fff)
  | i32 => some (-0x80000000, 0x7fffffff)
  | i64 => some (-0x8000000000000000, 0x7fffffffffffffff)
  | f32 => none
  | f64 => none
  | char => none

/-- A whole number as a value of an integer type: signed types have signed values. -/
def integer (p : Primitive) (i : Int) : FieldValue :=
  match p with
  | i8 | i16 | i32 | i64 => .int (Int64.ofInt i)
  | _ => .uint (UInt64.ofNat i.toNat)

/-- What a whole number is stored as in an integer type: rounded to a double, and brought into the
range. -/
def kept (p : Primitive) (i : Int) : Int :=
  match p.bounds? with
  | some (low, high) => max low (min high (rounded i))
  | none => i

/-- The numbers that are stored as they are: the short ones, and the greatest of all signed ones, which
is rounded up and brought back. -/
def Stays (p : Primitive) (i : Int) : Prop :=
  IsShort i.natAbs ∨ p = i64 ∧ i = 0x7fffffffffffffff

variable {p : Primitive} {low high : Int}

theorem kept_eq (hbounds : p.bounds? = some (low, high)) (i : Int) :
    p.kept i = max low (min high (rounded i)) := by
  rw [kept, hbounds]

/-- The integer types: those whose values are all short, and the two of 64 bits. -/
theorem bounds?_cases (hbounds : p.bounds? = some (low, high)) :
    (-2 ^ 53 < low ∧ low ≤ 0 ∧ 0 ≤ high ∧ high < 2 ^ 53 ∧ p ≠ i64 ∧ p ≠ u64)
      ∨ (p = i64 ∧ low = -2 ^ 63 ∧ high = 2 ^ 63 - 1) ∨ (p = u64 ∧ low = 0 ∧ high = 2 ^ 64 - 1) := by
  cases p <;> simp_all [bounds?] <;> omega

/-- An integer type is signed or not, with bounds that its values can have. -/
theorem integer_cases (hbounds : p.bounds? = some (low, high)) :
    (∀ i, p.integer i = .int (Int64.ofInt i)) ∧ -2 ^ 63 ≤ low ∧ high < 2 ^ 63
      ∨ (∀ i, p.integer i = .uint (UInt64.ofNat i.toNat)) ∧ 0 ≤ low ∧ high < 2 ^ 64 := by
  cases p with
  | f32 | f64 | char => cases hbounds
  | i8 | i16 | i32 | i64 =>
    obtain ⟨rfl, rfl⟩ := Prod.mk.inj (Option.some.inj hbounds)
    exact .inl ⟨fun _ => rfl, by decide, by decide⟩
  | u8 | u16 | u32 | u64 =>
    obtain ⟨rfl, rfl⟩ := Prod.mk.inj (Option.some.inj hbounds)
    exact .inr ⟨fun _ => rfl, by decide, by decide⟩

/-- The values of an integer type are told apart by their numbers. -/
theorem integer_inj (hbounds : p.bounds? = some (low, high)) {i j : Int} (hi : low ≤ i ∧ i ≤ high)
    (hj : low ≤ j ∧ j ≤ high) : p.integer i = p.integer j ↔ i = j := by
  refine ⟨fun h => ?_, fun h => h ▸ rfl⟩
  obtain ⟨hinteger, hlow, hhigh⟩ | ⟨hinteger, hlow, hhigh⟩ := integer_cases hbounds
  · rw [hinteger, hinteger, FieldValue.int.injEq] at h
    have hnumber := congrArg Int64.toInt h
    rwa [Int64.toInt_ofInt_of_le (by omega) (by omega),
      Int64.toInt_ofInt_of_le (by omega) (by omega)] at hnumber
  · rw [hinteger, hinteger, FieldValue.uint.injEq] at h
    have hsize : UInt64.size = 2 ^ 64 := rfl
    have hnumber := congrArg UInt64.toNat h
    rw [UInt64.toNat_ofNat_of_lt' (by omega), UInt64.toNat_ofNat_of_lt' (by omega)] at hnumber
    omega

theorem cast_ofInt (hbounds : p.bounds? = some (low, high)) {i : Int} (hlog : i.natAbs.log2 < 1023) :
    p.cast (.ofInt i) = p.integer (p.kept i) := by
  rw [kept_eq hbounds]
  cases p with
  | f32 | f64 | char => cases hbounds
  | u8 | u16 | u32 | u64 =>
    obtain ⟨rfl, rfl⟩ := Prod.mk.inj (Option.some.inj hbounds)
    simp only [cast, integer, Double.clamp_ofInt hlog]
  | i8 | i16 | i32 | i64 =>
    obtain ⟨rfl, rfl⟩ := Prod.mk.inj (Option.some.inj hbounds)
    simp only [cast, integer, Double.clamp_ofInt hlog]
    rfl

theorem kept_mem (hbounds : p.bounds? = some (low, high)) (i : Int) :
    low ≤ p.kept i ∧ p.kept i ≤ high := by
  rw [kept_eq hbounds]
  obtain ⟨-, hlow, hhigh, -⟩ | ⟨-, rfl, rfl⟩ | ⟨-, rfl, rfl⟩ := bounds?_cases hbounds <;> omega

/-- A number that a cell can hold is kept just if it stays as it is. -/
theorem kept_eq_self_iff (hbounds : p.bounds? = some (low, high)) {i : Int}
    (hi : low ≤ i ∧ i ≤ high) (hcell : i.natAbs ≤ 2 ^ 63) (hpos : i < 2 ^ 63) :
    p.kept i = i ↔ p.Stays i := by
  have hrounded := Double.natAbs_rounded_le hcell
  rw [kept_eq hbounds, Stays, ← Double.rounded_eq_self_iff]
  obtain ⟨hlow, -, -, hhigh, hsigned, -⟩ | ⟨rfl, rfl, rfl⟩ | ⟨rfl, rfl, rfl⟩ := bounds?_cases hbounds
  · have hshort : rounded i = i := Double.rounded_of_lt (by omega)
    rw [hshort]
    exact ⟨fun _ => .inl rfl, fun _ => by omega⟩
  · have hgreatest : rounded 0x7fffffffffffffff = 2 ^ 63 := by decide +kernel
    constructor
    · intro h
      by_cases hround : rounded i = i
      · exact .inl hround
      · exact .inr ⟨rfl, by omega⟩
    · rintro (h | ⟨-, rfl⟩)
      · omega
      · rw [hgreatest]
        decide
  · have hnonneg := Double.rounded_nonneg hi.1
    constructor
    · intro h
      exact .inl (by omega)
    · rintro (h | ⟨h, -⟩)
      · omega
      · cases h

/-! ## Cells -/

/-- A cell holds a whole number that is a value of the type. -/
structure HoldsAt (p : Primitive) (sheet : Sheet) (a : Address) (i : Int64) : Prop where
  cell : sheet.cell? a = some (.int i)
  inRange : ∃ low high, p.bounds? = some (low, high) ∧ low ≤ i.toInt ∧ i.toInt ≤ high

theorem natAbs_toInt_le (i : Int64) : i.toInt.natAbs ≤ 2 ^ 63 ∧ i.toInt < 2 ^ 63 := by
  have hlow := i.le_toInt
  have hhigh := i.toInt_lt
  omega

theorem log2_natAbs_toInt_lt (i : Int64) : i.toInt.natAbs.log2 < 1023 := by
  have hle := (natAbs_toInt_le i).1
  by_cases hzero : i.toInt.natAbs = 0
  · rw [hzero]
    decide
  · have := (Nat.log2_lt hzero).2 (show i.toInt.natAbs < 2 ^ 64 by omega)
    omega

section Cells

variable {sheet : Sheet} {a : Address} {i j : Int64}

theorem HoldsAt.cast_eq (h : p.HoldsAt sheet a i) :
    p.cast (.ofInt i.toInt) = p.integer (p.kept i.toInt) := by
  obtain ⟨low, high, hbounds, -⟩ := h.inRange
  exact cast_ofInt hbounds (log2_natAbs_toInt_lt i)

theorem HoldsAt.integer_kept_eq_iff (h : p.HoldsAt sheet a i) :
    p.integer (p.kept i.toInt) = p.integer i.toInt ↔ p.Stays i.toInt := by
  obtain ⟨low, high, hbounds, hrange⟩ := h.inRange
  rw [integer_inj hbounds (kept_mem hbounds _) hrange,
    kept_eq_self_iff hbounds hrange (natAbs_toInt_le i).1 (natAbs_toInt_le i).2]

theorem HoldsAt.integer_eq_iff {b : Address} (hi : p.HoldsAt sheet a i) (hj : p.HoldsAt sheet b j) :
    p.integer i.toInt = p.integer j.toInt ↔ i = j := by
  obtain ⟨low, high, hbounds, hrange⟩ := hi.inRange
  obtain ⟨low', high', hbounds', hrange'⟩ := hj.inRange
  obtain ⟨rfl, rfl⟩ := Prod.mk.inj (Option.some.inj (hbounds.symm.trans hbounds'))
  rw [integer_inj hbounds hrange hrange', Int64.toInt_inj]

/-- All values of the types of at most 32 bits stay as they are. -/
theorem HoldsAt.stays (h : p.HoldsAt sheet a i) (hsigned : p ≠ i64) (hunsigned : p ≠ u64) :
    p.Stays i.toInt := by
  obtain ⟨low, high, hbounds, hrange⟩ := h.inRange
  obtain hsmall | ⟨rfl, -⟩ | ⟨rfl, -⟩ := bounds?_cases hbounds
  · exact .inl ⟨i.toInt.natAbs, 0, by omega, by simp⟩
  · exact absurd rfl hsigned
  · exact absurd rfl hunsigned

theorem HoldsAt.decode? (h : p.HoldsAt sheet a i) :
    (FieldKind.primitive p).decode? sheet a = some (p.integer (p.kept i.toInt)) := by
  rw [FieldKind.decode?, Sheet.numberAt?, h.cell, ← h.cast_eq]
  rfl

/-- A lone number is an array of one element. -/
theorem HoldsAt.decode?_array (h : p.HoldsAt sheet a i) {length : Option Nat}
    (hlength : length.all (· = 1)) :
    (FieldKind.array (.primitive p) length).decode? sheet a
      = some (.array [p.integer (p.kept i.toInt)]) := by
  have helements : (FieldKind.primitive p).decodeElements? (.int i)
      = some [p.integer (p.kept i.toInt)] := by
    rw [← h.cast_eq]
    rfl
  rw [FieldKind.decode?, h.cell]
  simp [helements, hlength]

end Cells

end Primitive

/-! ## Keys -/

namespace MasterSchema

/-- The key cell of a row holds a whole number that is a value of the key's integer type. -/
def HasIntegerKey (s : MasterSchema) (p : Primitive) (sheet : Sheet) (row : UInt32) (i : Int64) : Prop :=
  ∃ c, s.keyField? = some c ∧ c.kind = .primitive p ∧ p.HoldsAt sheet ⟨row, c.column⟩ i

theorem HasIntegerKey.key?_recordAt {s : MasterSchema} {p : Primitive} {sheet : Sheet} {row : UInt32}
    {i : Int64} (h : s.HasIntegerKey p sheet row i) (prior : Option Asset) (position : Nat) :
    (s.recordAt sheet prior position row).key? = some (p.integer (p.kept i.toInt)) := by
  obtain ⟨c, hkey, hkind, hholds⟩ := h
  rw [recordAt, MasterRecord.key?, List.head?_map, ← keyField?, hkey, Option.map_some, hkind,
    hholds.decode?, Option.getD_some]

theorem eq_recordAt_of_getElem? {s : MasterSchema} {sheet : Sheet} {first last : UInt32}
    {prior : Option Asset} {position : Nat} {r : MasterRecord}
    (h : (s.materialize sheet first last prior)[position]? = some r) :
    r = s.recordAt sheet prior position (first + UInt32.ofNat position) := by
  rw [materialize, List.getElem?_map, Option.map_eq_some_iff] at h
  obtain ⟨n, hn, rfl⟩ := h
  obtain ⟨hlt, hn⟩ := List.getElem?_eq_some_iff.1 hn
  rw [← hn, List.getElem_range]

end MasterSchema

/-- A whole number in a column of an integer type that has it, or alone in a column of arrays of the
type, is stored as a double of it is, brought into the range: as it is just if it has no more than 53
significant bits or is the greatest of all signed ones, as are all of at most 32 bits. The keys of two
records are equal just if the numbers in their cells are stored as the same one, so they differ with the
numbers if these are stored as they are. -/
theorem integer_cells_stay_iff_short (p : Primitive) (sheet : Sheet) :
    (∀ a i, p.HoldsAt sheet a i →
        (FieldKind.primitive p).decode? sheet a = some (p.integer (p.kept i.toInt))
          ∧ (∀ length : Option Nat, length.all (· = 1) →
            (FieldKind.array (.primitive p) length).decode? sheet a
              = some (.array [p.integer (p.kept i.toInt)]))
          ∧ (p.integer (p.kept i.toInt) = p.integer i.toInt ↔ p.Stays i.toInt)
          ∧ (p ≠ .i64 → p ≠ .u64 → p.Stays i.toInt))
      ∧ ∀ (s : MasterSchema) (first last : UInt32) (prior : Option Asset) (m n : Nat)
          (r r' : MasterRecord) (i j : Int64),
        (s.materialize sheet first last prior)[m]? = some r →
        (s.materialize sheet first last prior)[n]? = some r' →
        s.HasIntegerKey p sheet (first + UInt32.ofNat m) i →
        s.HasIntegerKey p sheet (first + UInt32.ofNat n) j →
          (r.key? = r'.key? ↔ p.kept i.toInt = p.kept j.toInt)
            ∧ (p.Stays i.toInt → p.Stays j.toInt → (r.key? = r'.key? ↔ i = j)) := by
  refine ⟨fun a i h => ⟨h.decode?, fun length hlength => h.decode?_array hlength,
    h.integer_kept_eq_iff, h.stays⟩, ?_⟩
  intro s first last prior m n r r' i j hr hr' hi hj
  rw [s.eq_recordAt_of_getElem? hr, s.eq_recordAt_of_getElem? hr', hi.key?_recordAt,
    hj.key?_recordAt, Option.some.injEq]
  obtain ⟨c, hkey, hkind, hi⟩ := hi
  obtain ⟨c', hkey', hkind', hj⟩ := hj
  obtain ⟨low, high, hbounds, hrange⟩ := hi.inRange
  refine ⟨Primitive.integer_inj hbounds (Primitive.kept_mem hbounds _)
    (Primitive.kept_mem hbounds _), fun hstays hstays' => ?_⟩
  rw [hi.integer_kept_eq_iff.2 hstays, hj.integer_kept_eq_iff.2 hstays', hi.integer_eq_iff hj]

/-- A sheet with two records, whose keys differ in the last of 54 bits. -/
def Sheet.longKeys : Sheet :=
  ((Sheet.named "Loot").set ⟨5, 0⟩ (.int 9007199254740992)).set ⟨6, 0⟩ (.int 9007199254740993)

/-- A master whose keys are signed numbers of 64 bits. -/
def MasterSchema.longSchema : MasterSchema where
  masterName := "Loot"
  masterDescription := ""
  keyType := "long"
  keyColumn := 0
  fields := [⟨0, "long", .primitive .i64, "id", ""⟩]
  source := ⟨"book.json", "Loot"⟩
  anchor := ⟨1, 0⟩
  dataStartRow := 5

theorem integer_cells_stay_iff_short_longKeys :
    (FieldKind.array (.primitive .i64) none).decode? Sheet.longKeys ⟨5, 0⟩
        = some (.array [.int 9007199254740992])
      ∧ ∀ r r', (MasterSchema.longSchema.materialize Sheet.longKeys 5 6 none)[0]? = some r →
        (MasterSchema.longSchema.materialize Sheet.longKeys 5 6 none)[1]? = some r' →
          r.key? = r'.key? := by
  have hfirst : Primitive.i64.HoldsAt Sheet.longKeys ⟨5, 0⟩ 9007199254740992 :=
    ⟨by decide +kernel, _, _, rfl, by decide +kernel, by decide +kernel⟩
  have hsecond : Primitive.i64.HoldsAt Sheet.longKeys ⟨6, 0⟩ 9007199254740993 :=
    ⟨by decide +kernel, _, _, rfl, by decide +kernel, by decide +kernel⟩
  obtain ⟨hcells, hkeys⟩ := integer_cells_stay_iff_short .i64 Sheet.longKeys
  obtain ⟨-, harray, hstays, -⟩ := hcells _ _ hfirst
  refine ⟨(harray none rfl).trans ?_, fun r r' hr hr' => ?_⟩
  · rw [hstays.2 (.inl ⟨1, 53, by decide, by decide +kernel⟩)]
    rfl
  · refine (hkeys .longSchema 5 6 none 0 1 r r' _ _ hr hr' ⟨_, rfl, rfl, hfirst⟩
      ⟨_, rfl, rfl, hsecond⟩).1.2 ?_
    decide +kernel

/-- The second key is not decoded as what the cell holds, and falls together with the first. -/
theorem not_stays_longKeys :
    (FieldKind.primitive .i64).decode? Sheet.longKeys ⟨6, 0⟩ ≠ some (.int 9007199254740993)
      ∧ MasterSchema.longSchema.materializeSheet Sheet.longKeys none
        = [⟨[.int 9007199254740992]⟩, ⟨[.int 9007199254740992]⟩] := by
  decide +kernel

end MasterData
