-- SUMMARY: The records that materializing makes can be stored, and are made again from themselves.
import Mathlib.Data.List.Forall2
import MasterData.Proofs.Record.AssetText
import MasterData.Proofs.Schema.Extract
import MasterData.Record.Materialize

/-! # Materialized records

What a cell decodes to and what stands in for it are nested at most as deep as a prior asset, so the
records fit the file of their asset. When they are the prior asset of another run over the same sheet,
each value that no cell gives is carried over from its own place: the run makes the same records. Main
statement: `MasterSchema.materialize_over_own_records`.
-/

namespace MasterData

/-! ## Nesting -/

namespace FieldKind

open FieldValue (FitsIn)

theorem fitsIn_cast (p : Primitive) (x : Double) (depth : Nat) : (p.cast x).FitsIn (depth + 1) := by
  cases p <;> simp [Primitive.cast, FitsIn]

theorem fitsIn_parseElement? {kind : FieldKind} {s : String} {v : FieldValue}
    (h : kind.parseElement? s = some v) : v.FitsIn 1 := by
  cases kind with
  | primitive p =>
    rw [parseElement?, Option.map_eq_some_iff] at h
    obtain ⟨x, -, rfl⟩ := h
    exact fitsIn_cast p x 0
  | string =>
    rw [parseElement?, Option.some.injEq] at h
    simp [← h, FitsIn]
  | boolean =>
    rw [parseElement?, Option.map_eq_some_iff] at h
    obtain ⟨b, -, rfl⟩ := h
    simp [FitsIn]
  | enumeration name members =>
    rw [parseElement?, Option.map_eq_some_iff] at h
    obtain ⟨m, -, rfl⟩ := h
    simp [FitsIn]
  | array _ _ => cases h
  | opaqueType _ => cases h

theorem fitsIn_decodeElements? {element : FieldKind} {cell : Cell} {items : List FieldValue}
    (h : element.decodeElements? cell = some items) : ∀ item ∈ items, item.FitsIn 1 := by
  unfold decodeElements? at h
  split at h
  · split at h
    · cases h
    · intro item hitem
      obtain ⟨piece, -, hpiece⟩ := Json.exists_of_mem_mapM h hitem
      exact fitsIn_parseElement? hpiece
  · split at h
    · obtain rfl := Option.some.inj h
      simp [fitsIn_cast]
    · cases h

theorem fitsIn_decode? {kind : FieldKind} {sheet : Sheet} {a : Address} {v : FieldValue}
    (h : kind.decode? sheet a = some v) : v.FitsIn 3 := by
  cases kind with
  | primitive p =>
    rw [decode?, Option.some.injEq] at h
    exact h ▸ fitsIn_cast p _ 2
  | string =>
    rw [decode?, Option.some.injEq] at h
    simp [← h, FitsIn]
  | boolean =>
    rw [decode?, Option.some.injEq] at h
    simp [← h, FitsIn]
  | enumeration _ _ =>
    rw [decode?] at h
    exact (fitsIn_parseElement? h).mono (by decide)
  | array element length =>
    simp only [decode?, Option.bind_eq_bind, Option.bind_eq_some_iff] at h
    obtain ⟨cell, -, items, hitems, h⟩ := h
    split at h
    · obtain rfl := Option.some.inj h
      exact fitsIn_decodeElements? hitems
    · cases h
  | opaqueType _ => cases h

theorem fitsIn_zero_of_isScalar {kind : FieldKind} (h : kind.isScalar) : kind.zero.FitsIn 1 := by
  cases kind with
  | primitive p => exact fitsIn_cast p _ 0
  | enumeration name members => cases members <;> simp [zero, FitsIn]
  | array _ _ => cases h
  | opaqueType _ => cases h
  | string | boolean => simp [zero, FitsIn]

theorem fitsIn_zero {kind : FieldKind} (h : kind.IsDeclarable) : kind.zero.FitsIn 3 := by
  cases kind with
  | array element length =>
    intro item hitem
    rw [List.eq_of_mem_replicate hitem]
    exact fitsIn_zero_of_isScalar (h.isScalar rfl)
  | opaqueType _ => simp [zero, FitsIn]
  | primitive _ | string | boolean | enumeration _ _ =>
    exact (fitsIn_zero_of_isScalar rfl).mono (by decide)

end FieldKind

namespace Asset

theorem fitsIn_of_valueAt? {a : Asset} (h : a.FitsFile) {position : Nat} {name : String}
    {v : FieldValue} (hv : a.valueAt? position name = some v) : v.FitsIn valueDepth := by
  simp only [valueAt?, Option.bind_eq_bind, Option.bind_eq_some_iff] at hv
  obtain ⟨i, -, r, hr, hv⟩ := hv
  exact h r (List.mem_of_getElem? hr) v (List.mem_of_getElem? hv)

end Asset

namespace MasterSchema

variable {s : MasterSchema} {sheet : Sheet} {prior : Option Asset}

theorem mem_materializeSheet {r : MasterRecord} (h : r ∈ s.materializeSheet sheet prior) :
    ∃ position row, r = s.recordAt sheet prior position row := by
  unfold materializeSheet at h
  split at h
  · obtain ⟨position, -, rfl⟩ := List.mem_map.1 h
    exact ⟨position, _, rfl⟩
  · cases h

/-- What is materialized over a prior asset that was read fits the file of an asset. -/
theorem fitsFile_materializeSheet (hkinds : ∀ c ∈ s.fields, c.kind.IsDeclarable)
    (hprior : ∀ a, prior = some a → a.FitsFile) :
    Asset.FitsFile ⟨s.masterName, s.fieldNames, s.materializeSheet sheet prior⟩ := by
  intro r hr v hv
  obtain ⟨position, row, rfl⟩ := mem_materializeSheet hr
  obtain ⟨c, hc, rfl⟩ := List.mem_map.1 hv
  cases hdecode : c.kind.decode? sheet ⟨row, c.column⟩ with
  | some v => exact (FieldKind.fitsIn_decode? hdecode).mono (by decide)
  | none =>
    rw [Option.getD_none, fallback]
    cases hcarried : prior.bind fun a => a.valueAt? position c.fieldName with
    | none => exact (FieldKind.fitsIn_zero (hkinds c hc)).mono (by decide)
    | some v =>
      obtain ⟨a, ha, hv⟩ := Option.bind_eq_some_iff.1 hcarried
      exact Asset.fitsIn_of_valueAt? (hprior a ha) hv

/-! ## Rows -/

/-- How many rows the data block of a master has, down to the last row of its sheet. -/
def rowCount (s : MasterSchema) (sheet : Sheet) : Nat :=
  match sheet.lastRow? with
  | none => 0
  | some last =>
    if s.dataStartRow ≤ last then last.toNat - s.dataStartRow.toNat + 1 else 0

theorem length_materialize (s : MasterSchema) (sheet : Sheet) (first last : UInt32)
    (prior : Option Asset) :
    (s.materialize sheet first last prior).length
      = if first ≤ last then last.toNat - first.toNat + 1 else 0 := by
  rw [materialize, List.length_map, List.length_range]
  simp only [UInt32.le_iff_toNat_le]
  split <;> omega

theorem length_materializeSheet (s : MasterSchema) (sheet : Sheet) (prior : Option Asset) :
    (s.materializeSheet sheet prior).length = s.rowCount sheet := by
  unfold materializeSheet rowCount
  cases sheet.lastRow? with
  | none => rfl
  | some last => exact s.length_materialize sheet s.dataStartRow last prior

/-- The record at a position is that of the row as many rows below the first one. -/
theorem getElem?_materialize_eq_some_iff {first last : UInt32} {position : Nat} {r : MasterRecord} :
    (s.materialize sheet first last prior)[position]? = some r
      ↔ ∃ row, row.toNat = first.toNat + position ∧ row ≤ last
        ∧ s.recordAt sheet prior position row = r := by
  rw [materialize, List.getElem?_map, Option.map_eq_some_iff]
  simp only [List.getElem?_eq_some_iff, List.length_range, List.getElem_range]
  constructor
  · rintro ⟨_, ⟨hlt, rfl⟩, rfl⟩
    -- The sum stays below the last row, so it does not wrap around.
    have hrow : (first + UInt32.ofNat position).toNat = first.toNat + position := by
      have hlast := last.toNat_lt
      rw [UInt32.toNat_add, UInt32.toNat_ofNat', Nat.add_mod_mod, Nat.mod_eq_of_lt (by omega)]
    exact ⟨_, hrow, UInt32.le_iff_toNat_le.2 (by omega), rfl⟩
  · rintro ⟨row, hrow, hle, rfl⟩
    have hle := UInt32.le_iff_toNat_le.1 hle
    have heq : first + UInt32.ofNat position = row := by
      refine UInt32.toNat_inj.1 ?_
      have hlt := row.toNat_lt
      rw [UInt32.toNat_add, UInt32.toNat_ofNat', Nat.add_mod_mod, ← hrow, Nat.mod_eq_of_lt hlt]
    exact ⟨position, ⟨by omega, rfl⟩, by rw [heq]⟩

/-- The record is decoded from a row: each value is what the cell of its column decodes to, or stands in
for it where the cell does not decode. -/
def DecodesAs (s : MasterSchema) (sheet : Sheet) (prior : Option Asset) (position : Nat) (row : UInt32)
    (r : MasterRecord) : Prop :=
  List.Forall₂ (fun c v => c.kind.decode? sheet ⟨row, c.column⟩ = some v
    ∨ c.kind.decode? sheet ⟨row, c.column⟩ = none ∧ fallback prior position c = v) s.fields r.values

theorem decodesAs_recordAt (s : MasterSchema) (sheet : Sheet) (prior : Option Asset) (position : Nat)
    (row : UInt32) : s.DecodesAs sheet prior position row (s.recordAt sheet prior position row) := by
  rw [DecodesAs, recordAt, List.forall₂_map_right_iff, List.forall₂_same]
  intro c _
  cases c.kind.decode? sheet ⟨row, c.column⟩ with
  | some v => exact .inl rfl
  | none => exact .inr ⟨rfl, rfl⟩

/-! ## Materializing again -/

/-- The asset that holds records under the fields of a schema. -/
def assetOf (s : MasterSchema) (records : List MasterRecord) : Asset :=
  ⟨s.masterName, s.fieldNames, records⟩

theorem fieldIndex?_assetOf (hnodup : s.fieldNames.Nodup) {c : Column} {i : Nat}
    (hi : s.fields[i]? = some c) (records : List MasterRecord) :
    (s.assetOf records).fieldIndex? c.fieldName = some i := by
  obtain ⟨hlt, hc⟩ := List.getElem?_eq_some_iff.1 hi
  have hlt' : i < s.fieldNames.length := by simpa [fieldNames] using hlt
  refine List.findIdx?_eq_some_iff_getElem.2 ⟨hlt', by simp [assetOf, fieldNames, hc], ?_⟩
  intro j hj heq
  refine List.pairwise_iff_getElem.1 hnodup j i (Nat.lt_trans hj hlt') hlt' hj ?_
  simpa [assetOf, fieldNames, hc] using heq

theorem valueAt?_assetOf (hnodup : s.fieldNames.Nodup) {c : Column} {i : Nat}
    (hi : s.fields[i]? = some c) {records : List MasterRecord} {position : Nat} {r : MasterRecord}
    (hr : records[position]? = some r) :
    (s.assetOf records).valueAt? position c.fieldName = r.values[i]? := by
  rw [Asset.valueAt?, fieldIndex?_assetOf hnodup hi]
  simp [assetOf, hr]

/-- A record whose own values are carried over is the same record. -/
theorem recordAt_assetOf (hnodup : s.fieldNames.Nodup) {records : List MasterRecord}
    {position : Nat} {row : UInt32}
    (hr : records[position]? = some (s.recordAt sheet prior position row)) :
    s.recordAt sheet (some (s.assetOf records)) position row
      = s.recordAt sheet prior position row := by
  have hvalues : ∀ (i : Nat) (c : Column), s.fields[i]? = some c →
      (c.kind.decode? sheet ⟨row, c.column⟩).getD
          (fallback (some (s.assetOf records)) position c)
        = (c.kind.decode? sheet ⟨row, c.column⟩).getD (fallback prior position c) := by
    intro i c hi
    cases hdecode : c.kind.decode? sheet ⟨row, c.column⟩ with
    | some v => rfl
    | none =>
      -- The prior asset holds this very record, so what stands in is what stood in before.
      have hown : (s.recordAt sheet prior position row).values[i]?
          = some (fallback prior position c) := by
        simp [recordAt, hi, hdecode]
      rw [Option.getD_none, Option.getD_none, fallback, Option.bind_some,
        valueAt?_assetOf hnodup hi hr, hown, Option.getD_some]
  simp only [recordAt, MasterRecord.mk.injEq]
  refine List.map_congr_left fun c hc => ?_
  obtain ⟨i, hi⟩ := List.mem_iff_getElem?.1 hc
  exact hvalues i c hi

/-- Materializing rows over the asset that was just made of them makes the same records. -/
theorem materialize_assetOf (hnodup : s.fieldNames.Nodup) (sheet : Sheet) (first last : UInt32)
    (prior : Option Asset) :
    s.materialize sheet first last (some (s.assetOf (s.materialize sheet first last prior)))
      = s.materialize sheet first last prior := by
  refine List.map_congr_left fun position hposition => ?_
  refine recordAt_assetOf hnodup ?_
  rw [List.mem_range] at hposition
  simp [materialize, hposition]

theorem materializeSheet_assetOf (hnodup : s.fieldNames.Nodup) (sheet : Sheet)
    (prior : Option Asset) :
    s.materializeSheet sheet (some (s.assetOf (s.materializeSheet sheet prior)))
      = s.materializeSheet sheet prior := by
  unfold materializeSheet
  cases sheet.lastRow? with
  | none => rfl
  | some last => exact materialize_assetOf hnodup sheet s.dataStartRow last prior

/-- What an asset gives for a run depends on its fields and records, and not on the name of its
master. -/
theorem materialize_of_fields {a : Asset} (hfields : a.fields = s.fieldNames) (sheet : Sheet)
    (first last : UInt32) :
    s.materialize sheet first last (some a)
      = s.materialize sheet first last (some (s.assetOf a.records)) := by
  have hvalue (position : Nat) (name : String) :
      a.valueAt? position name = (s.assetOf a.records).valueAt? position name := by
    simp only [Asset.valueAt?, Asset.fieldIndex?, hfields, assetOf]
  simp only [materialize, recordAt, fallback, Option.bind_some, hvalue]

/-- Materializing is idempotent: over any asset with the fields of the schema and the records of a run,
the same run makes these records again. There is one for each row from the first to the last, the last
one of the grid included, and each is decoded from the row of its position. -/
theorem materialize_over_own_records (hnodup : s.fieldNames.Nodup) (sheet : Sheet)
    (first last : UInt32) (prior : Option Asset) :
    let out := s.materialize sheet first last prior
    (∀ a : Asset, a.fields = s.fieldNames → a.records = out →
        s.materialize sheet first last (some a) = out)
      ∧ out.length = (if first ≤ last then last.toNat - first.toNat + 1 else 0)
      ∧ ∀ position r, out[position]? = some r →
        ∃ row, row.toNat = first.toNat + position ∧ row ≤ last
          ∧ s.DecodesAs sheet prior position row r := by
  intro out
  refine ⟨fun a hfields hrecords => ?_, s.length_materialize sheet first last prior,
    fun position r hr => ?_⟩
  · rw [materialize_of_fields hfields, hrecords]
    exact materialize_assetOf hnodup sheet first last prior
  · obtain ⟨row, hrow, hle, rfl⟩ := getElem?_materialize_eq_some_iff.1 hr
    exact ⟨row, hrow, hle, s.decodesAs_recordAt sheet prior position row⟩

/-- A schema with a column whose values are only carried over. -/
def taggedSchema : MasterSchema where
  masterName := "Item"
  masterDescription := ""
  keyType := "int"
  keyColumn := 0
  fields := [⟨0, "int", .primitive .i32, "id", ""⟩, ⟨1, "Vector3", .opaqueType "Vector3", "tag", ""⟩]
  source := ⟨"book.json", "Items"⟩
  anchor := ⟨1, 0⟩
  dataStartRow := 5

/-- A sheet down to the last row of the grid. -/
def bottomSheet : Sheet :=
  ((Sheet.named "Items").set ⟨4294967294, 0⟩ (.int 7)).set ⟨4294967295, 0⟩ (.int 8)

/-- An asset with fewer records and its fields in another order. -/
def taggedAsset : Asset := ⟨"Item", ["tag", "id"], [⟨[.text "kept", .int 1]⟩]⟩

theorem materialize_over_own_records_bottom :
    let out : List MasterRecord := [⟨[.int 7, .text "kept"]⟩, ⟨[.int 8, .empty]⟩]
    taggedSchema.materialize bottomSheet 4294967294 4294967295 (some taggedAsset) = out
      ∧ taggedSchema.materialize bottomSheet 4294967294 4294967295
          (some ⟨"Renamed", ["id", "tag"], out⟩) = out := by
  have hout : taggedSchema.materialize bottomSheet 4294967294 4294967295 (some taggedAsset)
      = [⟨[.int 7, .text "kept"]⟩, ⟨[.int 8, .empty]⟩] := by
    decide +kernel
  refine ⟨hout, ?_⟩
  rw [← hout]
  exact (materialize_over_own_records (by decide) bottomSheet 4294967294 4294967295
    (some taggedAsset)).1 _ rfl rfl

end MasterSchema

end MasterData
