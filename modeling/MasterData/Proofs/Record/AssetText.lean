-- SUMMARY: Which assets are read back from the text that they are written as.
import MasterData.Record.Asset
import MasterData.Proofs.Json.RoundTrip
import MasterData.Proofs.Json.Shapes

/-! # The text of an asset

A value is read back from its written form if its lists are not nested too deep and its floats are
read back; a value with a float that is not finite is written, but never read. Conversely, whatever is
read has only finite floats and bounded nesting, so what was read once can be written and read again.
Main statements: `Asset.parse?_render`, `Asset.parse?_render_eq_none` and `Asset.isStorable_of_parse?`.
-/

namespace MasterData

namespace FieldValue

/-! ## Floats and nesting -/

mutual

/-- The floats in a value, from left to right. -/
def floats : FieldValue → List Double
  | float x => [x]
  | array items => floatsOfList items
  | _ => []

def floatsOfList : List FieldValue → List Double
  | [] => []
  | item :: rest => item.floats ++ floatsOfList rest

end

theorem floatsOfList_eq (items : List FieldValue) : floatsOfList items = items.flatMap floats := by
  induction items with
  | nil => rfl
  | cons item rest ih => rw [floatsOfList, ih, List.flatMap_cons]

@[simp] theorem mem_floats_array {x : Double} {items : List FieldValue} :
    x ∈ (array items).floats ↔ ∃ item ∈ items, x ∈ item.floats := by
  rw [floats, floatsOfList_eq, List.mem_flatMap]

/-- Whether the written form of a value uses at most so many nested lists and objects. -/
def FitsIn : (depth : Nat) → FieldValue → Prop
  | 0, _ => False
  | 1, array _ => False
  | depth + 2, array items => ∀ item ∈ items, FitsIn depth item
  | _ + 1, _ => True

theorem FitsIn.mono {v : FieldValue} {depth depth' : Nat} (h : v.FitsIn depth)
    (hle : depth ≤ depth') : v.FitsIn depth' := by
  -- A list takes two levels from its items.
  induction depth using Nat.strongRecOn generalizing depth' v with
  | _ depth ih =>
    match v, depth, depth', hle with
    | array items, depth + 2, depth' + 2, hle =>
      exact fun item hitem => ih depth (by omega) (h item hitem) (by omega)
    | int _, _ + 1, _ + 1, _ | uint _, _ + 1, _ + 1, _ | float _, _ + 1, _ + 1, _
    | char _, _ + 1, _ + 1, _ | bool _, _ + 1, _ + 1, _ | text _, _ + 1, _ + 1, _
    | empty, _ + 1, _ + 1, _ => simp [FitsIn]

/-! ## Writing -/

theorem toJsonList_eq (items : List FieldValue) : toJsonList items = items.map toJson := by
  induction items with
  | nil => rfl
  | cons item rest ih => rw [toJsonList, ih, List.map_cons]

mutual

theorem isWritten_toJson (v : FieldValue) : v.toJson.IsWritten := by
  match v with
  | int i => simp [toJson, Json.IsWritten, Json.MembersAreWritten, Json.isWritten_ofInt]
  | uint n => simp [toJson, Json.IsWritten, Json.MembersAreWritten, Json.isWritten_ofNat]
  | float x => simp [toJson, Json.IsWritten, Json.MembersAreWritten, Json.isWritten_ofDouble]
  | array items =>
    simp [toJson, Json.IsWritten, Json.MembersAreWritten, areWritten_toJsonList items]
  | char _ | bool _ | text _ | empty => simp [toJson, Json.IsWritten, Json.MembersAreWritten]

theorem areWritten_toJsonList (items : List FieldValue) : Json.AreWritten (toJsonList items) := by
  match items with
  | [] => trivial
  | item :: rest => exact ⟨isWritten_toJson item, areWritten_toJsonList rest⟩

end

/-! ## Reading what was written -/

theorem ofJson?_toJson_array (depth : Nat) (kept : Bool) (items : List FieldValue) :
    ofJson? (depth + 2) kept (array items).toJson
      = ((items.map toJson).mapM (ofJson? depth kept)).map array := by
  rw [toJson, ofJson?, Json.asVariant?_content, toJsonList_eq]
  rfl

theorem ofJson?_toJson_float (depth : Nat) (kept : Bool) (x : Double) :
    ofJson? (depth + 1) kept (float x).toJson = (Json.ofDouble x).asDouble?.map float := by
  rw [toJson, ofJson?, Json.asVariant?_content]
  rfl

/-- The induction is on the nesting that is left; lists take two levels of it. -/
theorem ofJson?_toJson {v : FieldValue} {depth : Nat} (hfits : v.FitsIn depth)
    (hfloats : ∀ x ∈ v.floats, x.ReadsBack) (kept : Bool) :
    ofJson? depth kept v.toJson = some v := by
  induction depth using Nat.strongRecOn generalizing v with
  | _ depth ih =>
    match v, depth with
    | array items, depth + 2 =>
      have hitems : (items.map toJson).mapM (ofJson? depth kept) = some items :=
        Json.mapM_map_eq_some fun item hitem => ih depth (by omega) (hfits item hitem)
          fun x hx => hfloats x (mem_floats_array.2 ⟨item, hitem, hx⟩)
      rw [ofJson?_toJson_array, hitems, Option.map_some]
    | float x, depth + 1 =>
      have hx : (Json.ofDouble x).asDouble? = some x := hfloats x (by simp [floats])
      rw [ofJson?_toJson_float, hx, Option.map_some]
    | int i, depth + 1 => simp [toJson, ofJson?, Json.asVariant?_content, Json.Variant.with?]
    | uint n, depth + 1 => simp [toJson, ofJson?, Json.asVariant?_content, Json.Variant.with?]
    | char c, depth + 1 => simp [toJson, ofJson?, Json.asVariant?_content, Json.Variant.with?]
    | bool b, depth + 1 =>
      simp [toJson, ofJson?, Json.asVariant?_content, Json.Variant.with?, Json.asBool?]
    | text s, depth + 1 =>
      simp [toJson, ofJson?, Json.asVariant?_content, Json.Variant.with?, Json.asText?]
    | empty, depth + 1 => simp [toJson, ofJson?, Json.asVariant?_bare, Json.Variant.isBare]

/-- A float that is not finite is written as `null`, which no float is read from. -/
theorem ofJson?_toJson_eq_none {v : FieldValue} {x : Double} (hx : x ∈ v.floats)
    (hfinite : x.isFinite = false) (depth : Nat) (kept : Bool) :
    ofJson? depth kept v.toJson = none := by
  induction depth using Nat.strongRecOn generalizing v with
  | _ depth ih =>
    match v, depth with
    | _, 0 => rfl
    | array items, 1 =>
      rw [toJson, ofJson?, Json.asVariant?_content]
      rfl
    | array items, depth + 2 =>
      obtain ⟨item, hitem, hx⟩ := mem_floats_array.1 hx
      rw [ofJson?_toJson_array, Json.mapM_map_eq_none hitem (ih depth (by omega) hx), Option.map_none]
    | float y, depth + 1 =>
      simp only [floats, List.mem_singleton] at hx
      rw [ofJson?_toJson_float, ← hx, Json.asDouble?_ofDouble_of_not_isFinite hfinite,
        Option.map_none]
    | int _, _ + 1 | uint _, _ + 1 | char _, _ + 1 | bool _, _ + 1 | text _, _ + 1 | empty, _ + 1 =>
      simp [floats] at hx

/-! ## What is read -/

/-- Whether a value can stand in a file: its nesting fits and its floats are finite. -/
def IsStorable (depth : Nat) (v : FieldValue) : Prop :=
  v.FitsIn depth ∧ ∀ x ∈ v.floats, x.isFinite

theorem isStorable_of_ofJson? {depth : Nat} {kept : Bool} {j : Json} {v : FieldValue}
    (h : ofJson? depth kept j = some v) : v.IsStorable depth := by
  induction depth using Nat.strongRecOn generalizing kept j v with
  | _ depth ih =>
    match depth with
    | 0 => cases h
    | depth + 1 =>
      rw [ofJson?, Option.bind_eq_bind, Option.bind_eq_some_iff] at h
      obtain ⟨variant, -, h⟩ := h
      -- One case for each name of a type; only an array has values below it.
      split at h
      · obtain ⟨i, -, rfl⟩ := Option.map_eq_some_iff.1 h
        simp [IsStorable, FitsIn, floats]
      · obtain ⟨n, -, rfl⟩ := Option.map_eq_some_iff.1 h
        simp [IsStorable, FitsIn, floats]
      · obtain ⟨x, hx, rfl⟩ := Option.map_eq_some_iff.1 h
        obtain ⟨content, -, hx⟩ := Option.bind_eq_some_iff.1 hx
        simp [IsStorable, FitsIn, floats, Json.isFinite_of_asDouble? hx]
      · obtain ⟨c, -, rfl⟩ := Option.map_eq_some_iff.1 h
        simp [IsStorable, FitsIn, floats]
      · obtain ⟨b, -, rfl⟩ := Option.map_eq_some_iff.1 h
        simp [IsStorable, FitsIn, floats]
      · obtain ⟨s, -, rfl⟩ := Option.map_eq_some_iff.1 h
        simp [IsStorable, FitsIn, floats]
      · split at h
        · cases h
        · rename_i depth
          obtain ⟨items, hitems, rfl⟩ := Option.map_eq_some_iff.1 h
          obtain ⟨content, -, hitems⟩ := Option.bind_eq_some_iff.1 hitems
          have hread : ∀ item ∈ items, item.IsStorable depth := fun item hitem => by
            obtain ⟨j, hj⟩ := Json.exists_of_mem_asListOf? hitems hitem
            exact ih depth (by omega) hj
          refine ⟨fun item hitem => (hread item hitem).1, fun x hx => ?_⟩
          obtain ⟨item, hitem, hx⟩ := mem_floats_array.1 hx
          exact (hread item hitem).2 x hx
      · split at h
        · exact Option.some.inj h ▸ by simp [IsStorable, FitsIn, floats]
        · cases h
      · cases h

end FieldValue

/-! ## Records and assets -/

/-- The nesting that an asset leaves to the values of its records. -/
def valueDepth : Nat := 127 - 2 - 1

namespace MasterRecord

/-- The floats in a record. -/
def floats (r : MasterRecord) : List Double :=
  r.values.flatMap FieldValue.floats

def IsStorable (r : MasterRecord) : Prop :=
  ∀ v ∈ r.values, v.IsStorable valueDepth

theorem ofJson?_toJson {r : MasterRecord} (hfits : ∀ v ∈ r.values, v.FitsIn valueDepth)
    (hfloats : ∀ x ∈ r.floats, x.ReadsBack) : ofJson? (127 - 2) r.toJson = some r := by
  have hvalues : (r.values.map FieldValue.toJson).mapM (FieldValue.ofJson? valueDepth false)
      = some r.values :=
    Json.mapM_map_eq_some fun v hv => FieldValue.ofJson?_toJson (hfits v hv)
      (fun x hx => hfloats x (List.mem_flatMap.2 ⟨v, hv, hx⟩)) false
  rw [toJson, FieldValue.toJsonList_eq, ofJson?, Json.asListOf?]
  exact congrArg (Option.map MasterRecord.mk) hvalues

theorem ofJson?_toJson_eq_none {r : MasterRecord} {x : Double} (hx : x ∈ r.floats)
    (hfinite : x.isFinite = false) : ofJson? (127 - 2) r.toJson = none := by
  obtain ⟨v, hv, hx⟩ := List.mem_flatMap.1 hx
  have hvalues : (r.values.map FieldValue.toJson).mapM (FieldValue.ofJson? valueDepth false)
      = none :=
    Json.mapM_map_eq_none hv (FieldValue.ofJson?_toJson_eq_none hx hfinite _ _)
  rw [toJson, FieldValue.toJsonList_eq, ofJson?, Json.asListOf?]
  exact congrArg (Option.map MasterRecord.mk) hvalues

theorem isStorable_of_ofJson? {j : Json} {r : MasterRecord} (h : ofJson? (127 - 2) j = some r) :
    r.IsStorable := by
  obtain ⟨values, hvalues, rfl⟩ := Option.map_eq_some_iff.1 h
  intro v hv
  obtain ⟨j, hj⟩ := Json.exists_of_mem_asListOf? hvalues hv
  exact FieldValue.isStorable_of_ofJson? hj

end MasterRecord

namespace Asset

/-- The floats in the records of an asset. -/
def floats (a : Asset) : List Double :=
  a.records.flatMap MasterRecord.floats

/-- Whether all floats of an asset are finite. -/
def HasFiniteFloats (a : Asset) : Prop :=
  ∀ x ∈ a.floats, x.isFinite

instance (a : Asset) : Decidable a.HasFiniteFloats :=
  inferInstanceAs (Decidable (∀ x ∈ a.floats, x.isFinite))

/-- Whether the text of an asset leaves room for the nesting of its values. -/
def FitsFile (a : Asset) : Prop :=
  ∀ r ∈ a.records, ∀ v ∈ r.values, v.FitsIn valueDepth

def IsStorable (a : Asset) : Prop :=
  ∀ r ∈ a.records, r.IsStorable

theorem IsStorable.fitsFile {a : Asset} (h : a.IsStorable) : a.FitsFile :=
  fun r hr v hv => (h r hr v hv).1

theorem IsStorable.hasFiniteFloats {a : Asset} (h : a.IsStorable) : a.HasFiniteFloats := by
  intro x hx
  obtain ⟨r, hr, hx⟩ := List.mem_flatMap.1 hx
  obtain ⟨v, hv, hx⟩ := List.mem_flatMap.1 hx
  exact (h r hr v hv).2 x hx

theorem isWritten_toJson (a : Asset) : a.toJson.IsWritten := by
  have hrecords : Json.AreWritten (a.records.map MasterRecord.toJson) := by
    refine Json.areWritten_iff.2 fun j hj => ?_
    obtain ⟨r, -, rfl⟩ := List.mem_map.1 hj
    exact FieldValue.areWritten_toJsonList r.values
  exact ⟨trivial, Json.isWritten_texts a.fields, hrecords, trivial⟩

/-- The tree of an asset is read as its name, its fields, and the records that are read. -/
theorem ofJson?_toJson (a : Asset) :
    ofJson? a.toJson
      = ((a.records.map MasterRecord.toJson).mapM (MasterRecord.ofJson? (127 - 2))).map
          (⟨a.master, a.fields, ·⟩) := by
  have hfields : a.toJson.fields? ["master", "fields", "records"]
      = some ⟨[("master", .text a.master), ("fields", .list (a.fields.map .text)),
          ("records", .list (a.records.map MasterRecord.toJson))], false⟩ :=
    Json.fields?_object (by simp) (by simp)
  rw [ofJson?, hfields]
  simp only [Option.bind_eq_bind, Option.bind_some, Json.Fields.required?_cons, String.reduceEq,
    if_true, if_false, Json.asText?, Json.asListOf?_texts, Option.map_eq_bind]
  rfl

/-- An asset is read back from its text when its floats are. -/
theorem parse?_render {a : Asset} (hfits : a.FitsFile) (hfloats : ∀ x ∈ a.floats, x.ReadsBack) :
    parse? a.render = some a := by
  have hrecords : (a.records.map MasterRecord.toJson).mapM (MasterRecord.ofJson? (127 - 2))
      = some a.records :=
    Json.mapM_map_eq_some fun r hr => MasterRecord.ofJson?_toJson (hfits r hr)
      fun x hx => hfloats x (List.mem_flatMap.2 ⟨r, hr, hx⟩)
  rw [parse?, render, Json.parseText?_pretty a.isWritten_toJson, Option.bind_eq_bind,
    Option.bind_some, ofJson?_toJson, hrecords, Option.map_some]

/-- The text of an asset with a float that is not finite is the text of no asset. -/
theorem parse?_render_eq_none {a : Asset} {x : Double} (hx : x ∈ a.floats)
    (hfinite : x.isFinite = false) : parse? a.render = none := by
  obtain ⟨r, hr, hx⟩ := List.mem_flatMap.1 hx
  have hrecords : (a.records.map MasterRecord.toJson).mapM (MasterRecord.ofJson? (127 - 2))
      = none :=
    Json.mapM_map_eq_none hr (MasterRecord.ofJson?_toJson_eq_none hx hfinite)
  rw [parse?, render, Json.parseText?_pretty a.isWritten_toJson, Option.bind_eq_bind,
    Option.bind_some, ofJson?_toJson, hrecords, Option.map_none]

theorem isStorable_of_ofJson? {j : Json} {a : Asset} (h : ofJson? j = some a) : a.IsStorable := by
  simp only [ofJson?, Option.bind_eq_bind, Option.bind_eq_some_iff, Option.pure_def,
    Option.some.injEq] at h
  obtain ⟨f, -, master, -, fields, -, records, hrecords, rfl⟩ := h
  obtain ⟨j, -, hrecords⟩ := Option.bind_eq_some_iff.1 hrecords
  intro r hr
  obtain ⟨j, hj⟩ := Json.exists_of_mem_asListOf? hrecords hr
  exact MasterRecord.isStorable_of_ofJson? hj

/-- Whatever is read from a text can be stored. -/
theorem isStorable_of_parse? {s : String} {a : Asset} (h : parse? s = some a) : a.IsStorable := by
  obtain ⟨j, -, hj⟩ := Option.bind_eq_some_iff.1 h
  exact isStorable_of_ofJson? hj

end Asset

end MasterData
