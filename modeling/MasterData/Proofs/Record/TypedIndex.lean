-- SUMMARY: The index over the rows of an asset against the index over its records.
import MasterData.Proofs.Record.Keys
import MasterData.Proofs.Record.Materialize
import MasterData.Proofs.Record.RowType

/-! # Collisions as applications see them

An application loads the rows of an asset under the row type of its schema and indexes them by typed
keys, while materializing reports the collisions of the stored keys. A key that names no member of its
enumeration is read as the first member, so the application sees the collisions of the records whose
keys are replaced in this way; without such keys both indexes agree. Main statement:
`loadIndex_materialized`.
-/

namespace MasterData

namespace MasterSchema

/-- A record with its key as its readers know it. -/
def withKnownKey (s : MasterSchema) (r : MasterRecord) : MasterRecord :=
  match s.keyField?, r.values with
  | some key, v :: rest => ⟨key.kind.knownKey v :: rest⟩
  | _, _ => r

/-- The key of a record is a member of the enumeration of the key column, if that is one. -/
def HasMemberKey (s : MasterSchema) (r : MasterRecord) : Prop :=
  ∀ key ∈ s.keyField?, ∀ name members, key.kind = .enumeration name members →
    ∃ m ∈ members, r.key? = some (.text m)

end MasterSchema

section Records

variable {c : Config} {s : MasterSchema} {t : RowType} {key : Column}

theorem MasterSchema.withKnownKey_mk (hkey : s.keyField? = some key) (v : FieldValue)
    (rest : List FieldValue) :
    s.withKnownKey ⟨v :: rest⟩ = ⟨key.kind.knownKey v :: rest⟩ := by
  rw [withKnownKey, hkey]

/-- A member key is known as what it is. -/
theorem MasterSchema.withKnownKey_of_hasMemberKey {r : MasterRecord} (h : s.HasMemberKey r) :
    s.withKnownKey r = r := by
  unfold withKnownKey
  split
  · rename_i key v rest hkey hvalues
    obtain ⟨values⟩ := r
    obtain rfl : values = v :: rest := hvalues
    have hknown : key.kind.knownKey v = v := by
      cases hkind : key.kind with
      | enumeration name members =>
        obtain ⟨m, hm, hv⟩ := h key hkey name members hkind
        obtain rfl : v = .text m := Option.some.inj hv
        exact FieldKind.knownKey_of_isKey (.member name hm)
      | _ => rfl
    rw [hknown]
  · rfl

/-- The key of a row is the first value of its record, read at the type of the key column. -/
theorem RowType.IsOf.exists_key_ofRecord (ht : t.IsOf s) (hkey : s.keyField? = some key) :
    ∃ type, FieldType.ofKind? key.kind = some type
      ∧ ∀ (v : FieldValue) (rest : List FieldValue), Keyed.key (t.ofRecord ⟨v :: rest⟩)
        = (⟨type, type.decode (some v)⟩ : TypedValue) := by
  obtain ⟨columns, hcolumns⟩ := List.head?_eq_some_iff.1 hkey
  have hpairs := ht.fields
  rw [hcolumns] at hpairs
  obtain ⟨f, more, ⟨-, htype⟩, -, hfields⟩ := List.forall₂_cons_left_iff.1 hpairs
  refine ⟨f.2, htype, fun v rest => ?_⟩
  simp [Keyed.key, RowType.ofRecord, hfields]

/-- The first value of a materialized record is known as a key of the key column. -/
theorem MasterSchema.exists_of_mem_materializeSheet (hkey : s.keyField? = some key) {type : FieldType}
    (htype : FieldType.ofKind? key.kind = some type) (hkind : key.kind.isHashable) {sheet : Sheet}
    {prior : Option Asset} {r : MasterRecord} (hr : r ∈ s.materializeSheet sheet prior) :
    ∃ v rest, r = ⟨v :: rest⟩ ∧ key.kind.IsKey (key.kind.knownKey v) := by
  obtain ⟨position, row, rfl⟩ := mem_materializeSheet hr
  obtain ⟨columns, hcolumns⟩ := List.head?_eq_some_iff.1 hkey
  exact ⟨_, _, by rw [recordAt, hcolumns, List.map_cons],
    FieldKind.isKey_knownKey htype hkind sheet ⟨row, key.column⟩ _⟩

/-- Rows of materialized records have the same key just if the records with their known keys do. -/
theorem sameKey_ofRecord (ht : t.IsOf s) (hkey : s.keyField? = some key)
    (hkind : key.kind.isHashable) {sheet : Sheet} {prior : Option Asset} {a b : MasterRecord}
    (ha : a ∈ s.materializeSheet sheet prior) (hb : b ∈ s.materializeSheet sheet prior) :
    Keyed.sameKey (Keyed.key (t.ofRecord a)) (Keyed.key (t.ofRecord b))
      = Keyed.sameKey (Keyed.key (s.withKnownKey a)) (Keyed.key (s.withKnownKey b)) := by
  obtain ⟨type, htype, hrow⟩ := ht.exists_key_ofRecord hkey
  obtain ⟨v, rest, rfl, hv⟩ := s.exists_of_mem_materializeSheet hkey htype hkind ha
  obtain ⟨w, more, rfl, hw⟩ := s.exists_of_mem_materializeSheet hkey htype hkind hb
  -- Typed keys cannot tell a key from what it is known as, and known keys compare as they are stored.
  have hcompare := FieldKind.sameKey_decode htype hv hw
  rw [FieldKind.decode_knownKey htype, FieldKind.decode_knownKey htype] at hcompare
  rw [hrow, hrow, Row.sameKey_mk, hcompare, s.withKnownKey_mk hkey, s.withKnownKey_mk hkey]
  rfl

/-- The rows of materialized records collide where the records with their known keys do. -/
theorem positions_ofRecord (ht : t.IsOf s) (hkey : s.keyField? = some key)
    (hkind : key.kind.isHashable) (sheet : Sheet) (prior : Option Asset) :
    (MasterIndex.build t.master ((s.materializeSheet sheet prior).map t.ofRecord)).collisions.map
        (·.positions)
      = (MasterIndex.build s.masterName
          ((s.materializeSheet sheet prior).map s.withKnownKey)).collisions.map (·.positions) :=
  MasterIndex.positions_build_map isPartialEquiv_row isPartialEquiv_masterRecord
    (fun _ ha _ hb => sameKey_ofRecord ht hkey hkind ha hb) t.master s.masterName

end Records

/-! ## Loading -/

theorem RowType.IsOf.loadAll {t : RowType} {s : MasterSchema} (ht : t.IsOf s)
    {load : String → Except AssetError (Option Asset)} {records : List MasterRecord}
    (hload : load s.masterName = .ok (some (s.assetOf records))) :
    t.loadAll load = .ok (records.map t.ofRecord) := by
  rw [RowType.loadAll, ht.master_eq, hload, ht.fieldNames_eq]
  exact if_pos rfl

/-- Under a valid configuration the module of a schema declares a row type for which the asset of
materialized records has the right fields. It gives a row for each record in order, and the index over
these rows has its collisions where the index over the records has them once every key is replaced by
what it is known as. Where the keys of an enumeration are members of it, this is the index over the
records themselves. -/
theorem loadIndex_materialized {c : Config} (hc : c.IsValid) {workbook : String} {header : Sheet}
    {anchor : Address} {s : MasterSchema}
    (hs : MasterSchema.extract c.typeTable workbook header anchor = .ok (some s)) (sheet : Sheet)
    (prior : Option Asset) :
    let records := s.materializeSheet sheet prior
    ∃ m t, RecordModule.ofSchema? c.codeOptions s = some m ∧ RowType.ofSchema? s = some t
      ∧ m.Declares t
      ∧ ∀ load, load s.masterName = .ok (some (s.assetOf records)) →
        t.loadAll load = .ok (records.map t.ofRecord)
        ∧ ∃ index, t.loadIndex load = .ok index
          ∧ index.collisions.map (·.positions)
            = (MasterIndex.build s.masterName (records.map s.withKnownKey)).collisions.map
                (·.positions)
          ∧ ((∀ r ∈ records, s.HasMemberKey r) → index.collisions.map (·.positions)
            = (MasterIndex.build s.masterName records).collisions.map (·.positions)) := by
  intro records
  have hwell := (MasterSchema.isExtracted_of_extract hs).toIsWellFormed
  obtain ⟨m, t, hm, ht, hdeclares⟩ := hwell.exists_rowType hc
  have hof := RowType.isOf_ofSchema? ht
  refine ⟨m, t, hm, ht, hdeclares, fun load hload => ?_⟩
  have hall := hof.loadAll hload
  obtain ⟨key, hkey⟩ : ∃ key, s.keyField? = some key := by
    cases hkey : s.keyField? with
    | none => exact absurd (List.head?_eq_none_iff.1 hkey) hwell.fields_ne_nil
    | some key => exact ⟨key, rfl⟩
  have hknown := positions_ofRecord hof hkey (hwell.isHashable_key key hkey) sheet prior
  refine ⟨hall, MasterIndex.build t.master (records.map t.ofRecord), ?_, hknown, fun hmember => ?_⟩
  · rw [RowType.loadIndex, hall]
    rfl
  · have hsame : records.map s.withKnownKey = records := by
      rw [List.map_congr_left fun r hr => MasterSchema.withKnownKey_of_hasMemberKey (hmember r hr)]
      exact List.map_id records
    rw [hsame] at hknown
    exact hknown

/-- A configuration with an enumeration. -/
def elementConfig : Config where
  workbooks := "data"
  generatedSource := "src"
  assets := "assets"
  runtimeCrate := "runtime"
  types := ⟨.empty, .ofList [("Element", ["Fire", "Water"])]⟩
  baseDir := ""

/-- A master with a key of that enumeration, which the first of its two records leaves out. -/
def elementSheet : Sheet :=
  [(⟨0, 0⟩, .text "Item"), (⟨1, 0⟩, .text "@"), (⟨2, 0⟩, .text "Element"),
    (⟨3, 0⟩, .text "element"), (⟨5, 0⟩, .text "?"), (⟨6, 0⟩, .text "Fire")].foldl
    (fun sheet (a, cell) => sheet.set a cell) (Sheet.named "Items")

/-- The schema of that master. -/
def elementSchema : MasterSchema where
  masterName := "Item"
  masterDescription := ""
  keyType := "Element"
  keyColumn := 0
  fields := [⟨0, "Element", .enumeration "Element" ["Fire", "Water"], "element", ""⟩]
  source := ⟨"book.json", "Items"⟩
  anchor := ⟨1, 0⟩
  dataStartRow := 5

/-- An asset from a time when the enumeration had another member. -/
def staleAsset : Asset := ⟨"Item", ["element"], [⟨[.text "Ice"]⟩]⟩

/-- The asset that is materialized over it. -/
def elementAsset : Asset :=
  elementSchema.assetOf (elementSchema.materializeSheet elementSheet (some staleAsset))

/-- The application sees a collision that materializing does not report: the key that was carried over
is no member any more, and so is read as the first one. -/
theorem loadIndex_stale_key :
    elementConfig.IsValid
      ∧ MasterSchema.extract elementConfig.typeTable "book.json" elementSheet ⟨1, 0⟩
        = .ok (some elementSchema)
      ∧ ∃ t index, RowType.ofSchema? elementSchema = some t
        ∧ t.loadIndex (fun _ => .ok (some elementAsset)) = .ok index
        ∧ index.collisions.map (·.positions) = [(0, 1)]
        ∧ (MasterIndex.build "Item" elementAsset.records).collisions.map (·.positions) = [] := by
  refine ⟨by decide +kernel, by decide +kernel,
    ⟨"Item", [("element", .enumeration "Element" "Fire" ["Water"])]⟩, _, rfl, rfl, ?_, ?_⟩
  · have hof := RowType.isOf_ofSchema? (s := elementSchema) rfl
    refine (positions_ofRecord hof rfl rfl elementSheet (some staleAsset)).trans ?_
    decide +kernel
  · decide +kernel

theorem loadIndex_materialized_stale :
    ∃ t index, RowType.ofSchema? elementSchema = some t
      ∧ t.loadIndex (fun _ => .ok (some elementAsset)) = .ok index
      ∧ index.collisions.map (·.positions)
        = (MasterIndex.build "Item"
            (elementAsset.records.map elementSchema.withKnownKey)).collisions.map (·.positions) := by
  have hc : elementConfig.IsValid := by decide +kernel
  have hs : MasterSchema.extract elementConfig.typeTable "book.json" elementSheet ⟨1, 0⟩
      = .ok (some elementSchema) := by
    decide +kernel
  obtain ⟨m, t, -, ht, -, hload⟩ := loadIndex_materialized hc hs elementSheet (some staleAsset)
  obtain ⟨-, index, hindex, hpositions, -⟩ := hload (fun _ => .ok (some elementAsset)) rfl
  exact ⟨t, index, ht, hindex, hpositions⟩

end MasterData
