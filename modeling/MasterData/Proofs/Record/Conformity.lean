-- SUMMARY: Materialized values are values of the kinds of their columns, over any number of runs.
import Mathlib.Data.List.Forall2
import MasterData.Proofs.Record.Keys
import MasterData.Proofs.Record.Materialize

/-! # Conforming values

A value conforms to a kind if it is of the sort of the kind and within its range. Every path to a value
ends in one that conforms: the cast of a number, the elements of a text, the zero of the kind. A value
that is carried over was found under the name of its column, so it conforms as far as the prior asset
does; over runs of one schema this is an invariant, provided no two columns share a name. Main
statement: `MasterSchema.conforms_materialize`.
-/

namespace MasterData

/-! ## Kinds and their values -/

namespace FieldKind

/-- The value is one of the kind. An enumeration without members has nothing for its value, and an
opaque kind has all values. -/
def Conforms : FieldKind → FieldValue → Prop
  | primitive p, v => p.Conforms v
  | string, .text _ => True
  | boolean, .bool _ => True
  | enumeration _ members, .text s => s ∈ members
  | enumeration _ members, .empty => members = []
  | array element length, .array items =>
    (∀ n ∈ length, items.length = n) ∧ ∀ item ∈ items, element.Conforms item
  | opaqueType _, _ => True
  | _, _ => False

/-- Whether some cells of the kind decode and others leave the value to what stands in. -/
def isPartlyDecoded : FieldKind → Bool
  | enumeration _ _ => true
  | array _ _ => true
  | _ => false

/-! ## Values of cells and what stands in for them -/

theorem conforms_zero (kind : FieldKind) : kind.Conforms kind.zero := by
  induction kind with
  | primitive p =>
    rw [zero]
    exact p.conforms_cast .zero
  | string | boolean | opaqueType _ => simp only [zero, Conforms]
  | enumeration _ members => cases members <;> simp [zero, Conforms]
  | array element length ih =>
    rw [zero, Conforms]
    refine ⟨?_, fun item hitem => ?_⟩
    · intro n hn
      rw [Option.mem_def.1 hn, List.length_replicate, Option.getD_some]
    · rw [List.eq_of_mem_replicate hitem]
      exact ih

theorem conforms_parseElement? {kind : FieldKind} {s : String} {v : FieldValue}
    (h : kind.parseElement? s = some v) : kind.Conforms v := by
  cases kind with
  | primitive p =>
    simp only [parseElement?, Option.map_eq_some_iff] at h
    obtain ⟨x, -, rfl⟩ := h
    exact p.conforms_cast x
  | string =>
    simp only [parseElement?, Option.some.injEq] at h
    simp only [← h, Conforms]
  | boolean =>
    simp only [parseElement?, Option.map_eq_some_iff] at h
    obtain ⟨b, -, rfl⟩ := h
    simp only [Conforms]
  | enumeration _ members =>
    simp only [parseElement?, Option.map_eq_some_iff] at h
    obtain ⟨m, hm, rfl⟩ := h
    exact List.mem_of_find?_eq_some hm
  | array _ _ | opaqueType _ => simp [parseElement?] at h

theorem conforms_decodeElements? {element : FieldKind} {cell : Cell} {items : List FieldValue}
    (h : element.decodeElements? cell = some items) : ∀ item ∈ items, element.Conforms item := by
  unfold decodeElements? at h
  split at h
  · split at h
    · cases h
    · intro item hitem
      obtain ⟨piece, -, hpiece⟩ := Json.exists_of_mem_mapM h hitem
      exact conforms_parseElement? hpiece
  · split at h
    · rename_i p x _
      obtain rfl := Option.some.inj h
      intro item hitem
      rw [List.mem_singleton.1 hitem]
      exact p.conforms_cast x
    · cases h

/-- What a cell decodes to conforms. -/
theorem conforms_decode? {kind : FieldKind} {sheet : Sheet} {a : Address} {v : FieldValue}
    (h : kind.decode? sheet a = some v) : kind.Conforms v := by
  cases kind with
  | primitive p =>
    obtain rfl := Option.some.inj h
    exact p.conforms_cast _
  | string | boolean =>
    obtain rfl := Option.some.inj h
    trivial
  | enumeration _ _ => exact conforms_parseElement? h
  | array element length =>
    simp only [decode?, Option.bind_eq_bind, Option.bind_eq_some_iff] at h
    obtain ⟨cell, -, items, hitems, h⟩ := h
    split at h
    · rename_i hlength
      obtain rfl := Option.some.inj h
      refine ⟨?_, conforms_decodeElements? hitems⟩
      rintro n hn
      rw [Option.mem_def.1 hn] at hlength
      simpa [eq_comm] using hlength
    · cases h
  | opaqueType _ => cases h

/-- A cell that does not decode is one of an opaque kind, which has all values, or of a kind of which
only some cells decode. -/
theorem isPartlyDecoded_or_opaque {kind : FieldKind} {sheet : Sheet} {a : Address}
    (h : kind.decode? sheet a = none) : kind.isPartlyDecoded ∨ ∃ name, kind = opaqueType name := by
  cases kind with
  | primitive _ | string | boolean => cases h
  | enumeration _ _ | array _ _ => exact .inl rfl
  | opaqueType name => exact .inr ⟨name, rfl⟩

end FieldKind

/-! ## Records -/

namespace MasterSchema

/-- A record has one value for each field, which conforms to the kind of its column. -/
def Conforms (s : MasterSchema) (r : MasterRecord) : Prop :=
  List.Forall₂ (fun (c : Column) v => c.kind.Conforms v) s.fields r.values

/-- What an asset holds under the names of partly decoded columns conforms to their kinds. -/
def CanCarry (s : MasterSchema) (a : Asset) : Prop :=
  ∀ c ∈ s.fields, c.kind.isPartlyDecoded →
    ∀ position v, a.valueAt? position c.fieldName = some v → c.kind.Conforms v

variable {s : MasterSchema} {sheet : Sheet} {prior : Option Asset}

/-- The step: the record of a row conforms if all that it may carry over does. -/
theorem conforms_recordAt (hprior : ∀ a ∈ prior, s.CanCarry a) (position : Nat) (row : UInt32) :
    s.Conforms (s.recordAt sheet prior position row) := by
  rw [Conforms, recordAt, List.forall₂_map_right_iff, List.forall₂_same]
  intro c hc
  cases hdecode : c.kind.decode? sheet ⟨row, c.column⟩ with
  | some v => exact FieldKind.conforms_decode? hdecode
  | none =>
    rw [Option.getD_none, fallback]
    cases hcarried : prior.bind fun a => a.valueAt? position c.fieldName with
    | none => exact c.kind.conforms_zero
    | some v =>
      rw [Option.getD_some]
      obtain ⟨a, ha, hv⟩ := Option.bind_eq_some_iff.1 hcarried
      rcases FieldKind.isPartlyDecoded_or_opaque hdecode with hpartly | ⟨name, hkind⟩
      · exact hprior a ha c hc hpartly position v hv
      · rw [hkind]
        trivial

theorem conforms_of_mem_materialize {first last : UInt32} (hprior : ∀ a ∈ prior, s.CanCarry a)
    {r : MasterRecord} (hr : r ∈ s.materialize sheet first last prior) : s.Conforms r := by
  obtain ⟨position, -, rfl⟩ := List.mem_map.1 hr
  exact conforms_recordAt hprior position _

/-- Records that conform can be carried over, as each name leads to the column that it was saved
from. -/
theorem canCarry_assetOf (hnodup : s.fieldNames.Nodup) {records : List MasterRecord}
    (h : ∀ r ∈ records, s.Conforms r) : s.CanCarry (s.assetOf records) := by
  intro c hc _ position v hv
  obtain ⟨i, hi⟩ := List.mem_iff_getElem?.1 hc
  cases hr : records[position]? with
  | none =>
    rw [Asset.valueAt?, fieldIndex?_assetOf hnodup hi] at hv
    simp [assetOf, hr] at hv
  | some r =>
    rw [valueAt?_assetOf hnodup hi hr] at hv
    obtain ⟨hlt, rfl⟩ := List.getElem?_eq_some_iff.1 hi
    obtain ⟨hlt', rfl⟩ := List.getElem?_eq_some_iff.1 hv
    exact (h r (List.mem_of_getElem? hr)).get hlt hlt'

/-! ## Runs -/

/-- The rows of a sheet that one run makes records of. -/
structure RowRange where
  sheet : Sheet
  first : UInt32
  last : UInt32

/-- The asset after runs of a schema, each over rows of its own and with the asset of the run before as
its prior asset. -/
def assetAfter (s : MasterSchema) (prior : Option Asset) : List RowRange → Option Asset
  | [] => prior
  | rows :: rest =>
    s.assetAfter (some (s.assetOf (s.materialize rows.sheet rows.first rows.last prior))) rest

/-- The invariant of runs: what can be carried over into the first run can be carried over into every
run. -/
theorem canCarry_assetAfter (hnodup : s.fieldNames.Nodup) {runs : List RowRange} {a : Asset}
    (hprior : ∀ a ∈ prior, s.CanCarry a ∧ ∀ r ∈ a.records, s.Conforms r)
    (ha : s.assetAfter prior runs = some a) : s.CanCarry a ∧ ∀ r ∈ a.records, s.Conforms r := by
  induction runs generalizing prior with
  | nil => exact hprior a ha
  | cons rows rest ih =>
    refine ih ?_ ha
    rintro a' ⟨⟩
    have hrecords : ∀ r ∈ s.materialize rows.sheet rows.first rows.last prior, s.Conforms r :=
      fun r hr => conforms_of_mem_materialize (fun a ha => (hprior a ha).1) hr
    exact ⟨canCarry_assetOf hnodup hrecords, hrecords⟩

/-- Every record that is materialized has one conforming value for each field, whatever the sheet and
its rows are, as long as the prior asset holds conforming values under the names of the enumerations
and arrays. For a schema whose field names differ this is so after each of any number of runs that
start without a prior asset. -/
theorem conforms_materialize (s : MasterSchema) :
    (∀ (sheet : Sheet) (first last : UInt32) (prior : Option Asset),
        (∀ a ∈ prior, s.CanCarry a) →
        ∀ r ∈ s.materialize sheet first last prior, s.Conforms r)
      ∧ (s.fieldNames.Nodup → ∀ (runs : List RowRange) (a : Asset),
          s.assetAfter none runs = some a → ∀ r ∈ a.records, s.Conforms r) := by
  refine ⟨fun sheet first last prior hprior r hr => ?_, fun hnodup runs a ha => ?_⟩
  · exact conforms_of_mem_materialize hprior hr
  · exact (canCarry_assetAfter hnodup (by simp) ha).2

/-- A master with an enumeration and an array of a fixed length. -/
def lootSchema : MasterSchema where
  masterName := "Loot"
  masterDescription := ""
  keyType := "int"
  keyColumn := 0
  fields :=
    [⟨0, "int", .primitive .i32, "id", ""⟩,
      ⟨1, "Element", .enumeration "Element" ["Fire", "Water"], "element", ""⟩,
      ⟨2, "byte[2]", .array (.primitive .u8) (some 2), "odds", ""⟩]
  source := ⟨"book.json", "Loot"⟩
  anchor := ⟨1, 0⟩
  dataStartRow := 5

/-- Two runs: what the first reads is out of range in part, the second reads nothing but the key. -/
def lootRuns : List RowRange :=
  [⟨(Sheet.named "Loot").set ⟨5, 1⟩ (.text "Water") |>.set ⟨5, 2⟩ (.text "300,-1"), 5, 5⟩,
    ⟨(Sheet.named "Loot").set ⟨5, 0⟩ (.int 7) |>.set ⟨5, 1⟩ (.text "?")
      |>.set ⟨5, 2⟩ (.text "1,2,3"), 5, 6⟩]

/-- The asset after both runs. -/
def lootAsset : Asset :=
  ⟨"Loot", ["id", "element", "odds"],
    [⟨[.int 7, .text "Water", .array [.uint 255, .uint 0]]⟩,
      ⟨[.int 0, .text "Fire", .array [.uint 0, .uint 0]]⟩]⟩

theorem conforms_materialize_loot :
    lootSchema.fieldNames.Nodup
      ∧ lootSchema.assetAfter none lootRuns = some lootAsset
      ∧ (∀ r ∈ lootAsset.records, lootSchema.Conforms r)
      ∧ ∀ r ∈ lootSchema.materialize (Sheet.named "Loot") 5 5 none, lootSchema.Conforms r := by
  have hnodup : lootSchema.fieldNames.Nodup := by decide
  have hruns : lootSchema.assetAfter none lootRuns = some lootAsset := by decide +kernel
  exact ⟨hnodup, hruns, (conforms_materialize lootSchema).2 hnodup lootRuns lootAsset hruns,
    (conforms_materialize lootSchema).1 (Sheet.named "Loot") 5 5 none (by simp)⟩

/-- A schema in which an opaque column has the name of a later enumeration. -/
def sharedNameSchema : MasterSchema where
  masterName := "Loot"
  masterDescription := ""
  keyType := "int"
  keyColumn := 0
  fields :=
    [⟨0, "int", .primitive .i32, "id", ""⟩,
      ⟨1, "Curve", .opaqueType "Curve", "tag", ""⟩,
      ⟨2, "Element", .enumeration "Element" ["Fire", "Water"], "tag", ""⟩]
  source := ⟨"book.json", "Loot"⟩
  anchor := ⟨1, 0⟩
  dataStartRow := 5

/-- Where two columns share a name, the later one carries over what the first one held: the second run
gives the enumeration the value of the opaque column, which is none of its members. -/
theorem not_conforms_sharedName :
    ∃ runs a, sharedNameSchema.assetAfter none runs = some a
      ∧ ∃ r ∈ a.records, ¬ sharedNameSchema.Conforms r := by
  refine ⟨[⟨(Sheet.named "Loot").set ⟨5, 2⟩ (.text "Water"), 5, 5⟩,
      ⟨(Sheet.named "Loot").set ⟨5, 2⟩ (.text "?"), 5, 5⟩],
    ⟨"Loot", ["id", "tag", "tag"], [⟨[.int 0, .empty, .empty]⟩]⟩, by decide +kernel,
    ⟨[.int 0, .empty, .empty]⟩, List.mem_singleton_self _, ?_⟩
  simp [Conforms, sharedNameSchema, FieldKind.Conforms]

end MasterSchema

end MasterData
