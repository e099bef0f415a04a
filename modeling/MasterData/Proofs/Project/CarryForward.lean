-- SUMMARY: Values of opaque columns survive any number of runs, whatever becomes of the other columns.
import MasterData.Proofs.Project.OneByOne

/-! # Values carried forward

No cell decodes to a value of an opaque column: such values are entered into an asset by hand. Each run
finds them in the asset of the run before by position and field name, and saves them where the next run
finds them again, so they survive while columns are added, removed, moved or declared anew.
Main statement: `opaque_values_survive`.
-/

namespace MasterData

/-- Whether no cell decodes to the kind. -/
def FieldKind.isOpaque : FieldKind → Bool
  | opaqueType _ => true
  | _ => false

/-- A schema has an opaque column of a name. -/
def MasterSchema.HasOpaque (s : MasterSchema) (name : String) : Prop :=
  ∃ c ∈ s.fields, c.fieldName = name ∧ c.kind.isOpaque

instance (s : MasterSchema) (name : String) : Decidable (s.HasOpaque name) :=
  inferInstanceAs (Decidable (∃ c ∈ s.fields, c.fieldName = name ∧ c.kind.isOpaque))

theorem MasterSchema.exists_getElem?_materialize {s : MasterSchema} {sheet : Sheet}
    {first last : UInt32} {prior : Option Asset} {position : Nat}
    (h : position < (s.materialize sheet first last prior).length) :
    ∃ row, (s.materialize sheet first last prior)[position]?
      = some (s.recordAt sheet prior position row) := by
  have hrecord := List.getElem?_eq_getElem h
  obtain ⟨row, -, -, hrow⟩ := getElem?_materialize_eq_some_iff.1 hrecord
  exact ⟨row, by rw [hrecord, hrow]⟩

/-! ## Runs -/

/-- One materialization of a master, with the schema that the master has at the time. -/
structure MasterRun where
  schema : MasterSchema
  sheet : Sheet
  /-- The first and the last row, where these are not all data rows of the sheet. -/
  rows : Option (UInt32 × UInt32)

namespace MasterRun

variable {r : MasterRun} {prior : Option Asset} {position : Nat} {name : String}

def records (r : MasterRun) (prior : Option Asset) : List MasterRecord :=
  match r.rows with
  | none => r.schema.materializeSheet r.sheet prior
  | some (first, last) => r.schema.materialize r.sheet first last prior

/-- The asset that a run makes over a prior one. -/
def asset (r : MasterRun) (prior : Option Asset) : Asset :=
  r.schema.assetOf (r.records prior)

/-- How many rows a run covers. -/
def rowCount (r : MasterRun) : Nat :=
  match r.rows with
  | none => r.schema.rowCount r.sheet
  | some (first, last) => last.toNat + 1 - first.toNat

theorem length_records (r : MasterRun) (prior : Option Asset) :
    (r.records prior).length = r.rowCount := by
  unfold records rowCount
  split
  · exact r.schema.length_materializeSheet r.sheet prior
  · simp [MasterSchema.materialize]

/-- The record at a position is made of some row with what the prior asset holds at that position. -/
theorem exists_getElem?_records (h : position < r.rowCount) (prior : Option Asset) :
    ∃ row, (r.records prior)[position]? = some (r.schema.recordAt r.sheet prior position row) := by
  rw [← r.length_records prior] at h
  unfold records at h ⊢
  split at h
  · unfold MasterSchema.materializeSheet at h ⊢
    split at h
    · exact MasterSchema.exists_getElem?_materialize h
    · cases h
  · exact MasterSchema.exists_getElem?_materialize h

/-- What makes a run carry a value of an opaque column forward: it covers the position, and its schema
has the column among fields of different names. -/
structure Carries (r : MasterRun) (position : Nat) (name : String) : Prop where
  nodup_fieldNames : r.schema.fieldNames.Nodup
  hasOpaque : r.schema.HasOpaque name
  covers : position < r.rowCount

/-- What a run saves in an opaque column is what it finds there, or nothing. -/
theorem Carries.valueAt?_asset (h : r.Carries position name) (prior : Option Asset) :
    (r.asset prior).valueAt? position name
      = some ((prior.bind (·.valueAt? position name)).getD .empty) := by
  obtain ⟨c, hc, rfl, hkind⟩ := h.hasOpaque
  obtain ⟨i, hi⟩ := List.mem_iff_getElem?.1 hc
  obtain ⟨row, hrow⟩ := exists_getElem?_records h.covers prior
  rw [asset, MasterSchema.valueAt?_assetOf h.nodup_fieldNames hi hrow]
  cases hdeclared : c.kind with
  | opaqueType _ =>
    simp [MasterSchema.recordAt, hi, hdeclared, MasterSchema.fallback, FieldKind.decode?, FieldKind.zero]
  | _ =>
    rw [hdeclared] at hkind
    cases hkind

/-- The asset after some runs, each of which has the asset of the run before for its prior one. -/
def assetAfter (prior : Option Asset) : List MasterRun → Option Asset
  | [] => prior
  | r :: rest => assetAfter (some (r.asset prior)) rest

/-- The invariant of runs: a value of an opaque column is passed on from asset to asset. -/
theorem valueAt?_assetAfter {runs : List MasterRun} (h : ∀ r ∈ runs, r.Carries position name)
    {v : FieldValue} (hv : prior.bind (·.valueAt? position name) = some v) :
    (assetAfter prior runs).bind (·.valueAt? position name) = some v := by
  induction runs generalizing prior with
  | nil => exact hv
  | cons r rest ih =>
    have hstep := (h r (List.mem_cons_self ..)).valueAt?_asset prior
    rw [hv, Option.getD_some] at hstep
    exact ih (fun r hr => h r (List.mem_cons_of_mem _ hr)) hstep

end MasterRun

/-! ## Runs of projects -/

/-- A project that materializes a master makes a run over the asset that it loads, and saves the asset
of that run. -/
theorem exists_of_materializeMaster {store : FolderStore} {w : Workbook} {path : String}
    {s : MasterSchema} {d d' : Disk} {report : MasterReport}
    (h : materializeMaster store w path s d = (.ok report, d')) :
    ∃ sheet prior, s.sheetIn w path = .ok sheet ∧ store.load d s.masterName = .ok prior
      ∧ d'.readText (store.assetPath s.masterName)
        = .ok ((MasterRun.mk s sheet none).asset prior).render := by
  obtain ⟨a, hmade, hsave, -⟩ := materializeMaster_eq_ok_iff.1 h
  obtain ⟨sheet, prior, hsheet, -, hload, ha⟩ := MasterSchema.exists_of_assetFrom hmade
  have hrun : a = (MasterRun.mk s sheet none).asset prior := ha
  have htext := FolderStore.readText_of_save hsave
  rw [MasterSchema.master_of_assetFrom hmade, hrun] at htext
  exact ⟨sheet, prior, hsheet, hload, htext⟩

/-- Over any number of runs of a master, each with a schema and a sheet of its own, the value that the
first prior asset holds at a position of an opaque column is the one that the last asset holds there.
Where it held none, the runs leave an empty value. A project that materializes the master makes such a
run over the asset that it loads, and saves what the run makes. -/
theorem opaque_values_survive (prior : Option Asset) (runs : List MasterRun) (position : Nat)
    (name : String) (h : ∀ r ∈ runs, r.Carries position name) :
    (∀ v, prior.bind (·.valueAt? position name) = some v →
        (MasterRun.assetAfter prior runs).bind (·.valueAt? position name) = some v)
      ∧ (prior.bind (·.valueAt? position name) = none → runs ≠ [] →
        (MasterRun.assetAfter prior runs).bind (·.valueAt? position name) = some .empty)
      ∧ ∀ (store : FolderStore) (w : Workbook) (path : String) (s : MasterSchema) (d d' : Disk)
          (report : MasterReport), materializeMaster store w path s d = (.ok report, d') →
          ∃ sheet prior, s.sheetIn w path = .ok sheet ∧ store.load d s.masterName = .ok prior
            ∧ d'.readText (store.assetPath s.masterName)
              = .ok ((MasterRun.mk s sheet none).asset prior).render := by
  refine ⟨fun v hv => MasterRun.valueAt?_assetAfter h hv, fun hnone hruns => ?_,
    fun _ _ _ _ _ _ _ hsaved => exists_of_materializeMaster hsaved⟩
  cases runs with
  | nil => exact absurd rfl hruns
  | cons r rest =>
    -- The first run makes an empty value, and the others pass it on.
    have hstep := (h r (List.mem_cons_self ..)).valueAt?_asset prior
    rw [hnone, Option.getD_none] at hstep
    exact MasterRun.valueAt?_assetAfter (fun r hr => h r (List.mem_cons_of_mem _ hr)) hstep

/-- A schema of a master of gadgets with the given columns behind the key. -/
def gadgetSchema (columns : List Column) : MasterSchema where
  masterName := "Gadget"
  masterDescription := ""
  keyType := "int"
  keyColumn := 0
  fields := ⟨0, "int", .primitive .i32, "id", ""⟩ :: columns
  source := ⟨"book.json", "Gadget"⟩
  anchor := ⟨1, 0⟩
  dataStartRow := 5

/-- The schema with an opaque column alone. -/
def rampSchema : MasterSchema :=
  gadgetSchema [⟨1, "Curve", .opaqueType "Curve", "ramp", ""⟩]

/-- Two runs between which a column was put in before the opaque one, which was also declared anew. -/
def gadgetRuns : List MasterRun :=
  [⟨rampSchema, (Sheet.named "Gadget").set ⟨6, 1⟩ (.text "?"), none⟩,
    ⟨gadgetSchema [⟨1, "string", .string, "name", ""⟩, ⟨2, "Spline", .opaqueType "Spline", "ramp", ""⟩],
      (Sheet.named "Gadget").set ⟨6, 1⟩ (.text "drill"), some (5, 7)⟩]

/-- An asset with values that were entered by hand, in a column before the key. -/
def gadgetAsset : Asset :=
  ⟨"Gadget", ["ramp", "id"], [⟨[.text "slow", .int 1]⟩, ⟨[.array [.text "fast"], .int 2]⟩]⟩

/-- The workbook of the first run. -/
def gadgetBook : Document :=
  ⟨1, [⟨"Gadget", [⟨⟨1, 0⟩, some (.text "@")⟩, ⟨⟨6, 1⟩, some (.text "?")⟩], none, false⟩]⟩

theorem opaque_values_survive_moved :
    (∀ r ∈ gadgetRuns, r.Carries 1 "ramp")
      ∧ (MasterRun.assetAfter gadgetAsset gadgetRuns).bind (·.valueAt? 1 "ramp")
        = some (.array [.text "fast"])
      ∧ (MasterRun.assetAfter none gadgetRuns).bind (·.valueAt? 1 "ramp") = some .empty
      ∧ ∃ sheet prior, rampSchema.sheetIn (.document gadgetBook) "book.json" = .ok sheet
        ∧ FolderStore.load ⟨"assets"⟩ .empty "Gadget" = .ok prior
        ∧ (materializeMaster ⟨"assets"⟩ (.document gadgetBook) "book.json" rampSchema
            .empty).2.readText "assets/Gadget.json"
          = .ok ((MasterRun.mk rampSchema sheet none).asset prior).render := by
  have hcarries : ∀ r ∈ gadgetRuns, r.Carries 1 "ramp" := by
    simp only [gadgetRuns, List.forall_mem_cons]
    exact ⟨⟨by decide, by decide, by decide +kernel⟩, ⟨by decide, by decide, by decide +kernel⟩,
      List.forall_mem_nil _⟩
  have hsaved : materializeMaster ⟨"assets"⟩ (.document gadgetBook) "book.json" rampSchema .empty
      = (.ok ⟨"Gadget", 2, [⟨"0", 0, 1⟩], "assets/Gadget.json"⟩, _) :=
    eq_mk_of_fst_eq (by decide +kernel)
  have hruns := opaque_values_survive gadgetAsset gadgetRuns 1 "ramp" hcarries
  exact ⟨hcarries, hruns.1 _ (by decide +kernel),
    (opaque_values_survive none gadgetRuns 1 "ramp" hcarries).2.1 rfl (by decide),
    hruns.2.2 _ _ _ _ _ _ _ hsaved⟩

end MasterData
