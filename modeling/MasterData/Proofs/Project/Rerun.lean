-- SUMMARY: What a second run over the same workbooks does.
import MasterData.Proofs.Project.OneByOne

/-! # Materializing again

A run that succeeds leaves the text of each asset in its file. Where the floats of the assets are read
back from that text, a second run finds its own assets as prior ones, makes the same records again and
leaves the disk as it is. A float that is not finite is written as `null`, though, and the second run
stops at the file that holds it. Main statement: `materialize_again`.
-/

namespace MasterData

/-! ## Saved assets -/

/-- The asset of a master is saved on a disk, together with all that it was made from. -/
structure IsSavedOn (c : Config) (d : Disk) (s : MasterSchema) (a : Asset) : Prop where
  exists_sheet : ∃ w sheet prior, Workbook.openAt d (c.workbookPath s) = .ok w
    ∧ s.sheetIn w (c.workbookPath s) = .ok sheet
    ∧ a = s.assetOf (s.materializeSheet sheet prior)
  valid : isValidAssetName s.masterName
  fits : a.FitsFile
  text : d.readText (c.store.assetPath s.masterName) = .ok a.render
  save : c.store.save d a = (.ok (), d)

namespace IsSavedOn

variable {c : Config} {d d' : Disk} {s : MasterSchema} {a : Asset}

theorem master_eq (h : IsSavedOn c d s a) : a.master = s.masterName := by
  obtain ⟨_, _, _, -, -, rfl⟩ := h.exists_sheet
  rfl

theorem of_keeps {S : Location → Prop} (h : IsSavedOn c d s a) (hkeeps : Disk.Keeps S d d')
    (hworkbook : ∀ l, Disk.destination (c.workbookPath s) = some l → ¬ S l)
    (hasset : ∀ l, c.store.IsFileOf s.masterName l → ¬ S l) : IsSavedOn c d' s a := by
  have htext : d'.readText (c.store.assetPath s.masterName) = .ok a.render :=
    hkeeps.readText (fun l hl => hasset l ⟨h.valid, hl⟩) h.text
  obtain ⟨w, sheet, prior, hw, hsheet, ha⟩ := h.exists_sheet
  refine ⟨⟨w, sheet, prior, hkeeps.openAt hworkbook hw, hsheet, ha⟩, h.valid, h.fits, htext, ?_⟩
  exact FolderStore.save_again h.save hkeeps (by rwa [h.master_eq])

theorem load (h : IsSavedOn c d s a) :
    c.store.load d s.masterName
      = match Asset.parse? a.render with
        | some asset => .ok (some asset)
        | none => .error (.malformed (c.store.assetPath s.masterName)) :=
  FolderStore.load_of_readText h.valid h.text

/-- The saved asset is loaded if its floats are finite and read back, and refused if they are not
finite. -/
theorem load_eq_ite (h : IsSavedOn c d s a)
    (hfloats : ∀ x ∈ a.floats, x.isFinite → x.ReadsBack) :
    c.store.load d a.master
      = if a.HasFiniteFloats then .ok (some a)
        else .error (.malformed (c.store.assetPath a.master)) := by
  rw [h.master_eq, h.load]
  split_ifs with hfinite
  · rw [Asset.parse?_render h.fits fun x hx => hfloats x hx (hfinite x hx)]
  · simp only [Asset.HasFiniteFloats, not_forall, Bool.not_eq_true] at hfinite
    obtain ⟨x, hx, hfinite⟩ := hfinite
    rw [Asset.parse?_render_eq_none hx hfinite]

end IsSavedOn

/-! ## The first run -/

section FirstRun

variable {c : Config} {d d' : Disk}

theorem isSavedOn_of_materializeOne {s : MasterSchema} {a : Asset} (happart : c.IsApart s)
    (hkinds : ∀ f ∈ s.fields, f.kind.IsDeclarable) (h : materializeOne c s d = (.ok a, d')) :
    IsSavedOn c d' s a := by
  cases hw : Workbook.openAt d (c.workbookPath s) with
  | error e =>
    rw [materializeOne_of_openAt_error hw] at h
    cases h
  | ok w =>
    have hw' := happart.openAt s hw
    rw [h] at hw'
    rw [materializeOne_of_openAt hw] at h
    obtain ⟨hmade, hsave⟩ := MasterSchema.materializeFrom_eq_ok_iff.1 h
    obtain ⟨sheet, prior, hsheet, hvalid, hload, ha⟩ := MasterSchema.exists_of_assetFrom hmade
    have hmaster := MasterSchema.master_of_assetFrom hmade
    have htext := FolderStore.readText_of_save hsave
    refine ⟨⟨w, sheet, prior, hw', hsheet, ha⟩, hvalid, ?_, by rwa [← hmaster],
      FolderStore.save_again hsave (.refl (S := fun _ => False) d') htext⟩
    rw [ha]
    -- What a prior asset can pass on was itself read from a file, and so fits one.
    refine MasterSchema.fitsFile_materializeSheet hkinds fun b hb => ?_
    subst hb
    obtain ⟨text, hparse⟩ := FolderStore.exists_parse?_of_load hload
    exact (Asset.isStorable_of_parse? hparse).fitsFile

/-- The first asset stays saved while the other masters are materialized, as no other master has its
file and none has that of a workbook. -/
theorem isSavedOn_of_materializeEach {schemas : List MasterSchema} {assets : List Asset}
    (hnodup : (schemas.map (·.masterName)).Nodup) (happart : ∀ s ∈ schemas, c.IsApart s)
    (hkinds : ∀ s ∈ schemas, ∀ f ∈ s.fields, f.kind.IsDeclarable)
    (h : materializeEach c schemas d = (.ok assets, d')) :
    List.Forall₂ (IsSavedOn c d') schemas assets := by
  induction schemas generalizing d assets with
  | nil =>
    rw [materializeEach_nil] at h
    cases h
    exact .nil
  | cons s rest ih =>
    rw [List.map_cons, List.nodup_cons] at hnodup
    obtain ⟨a, d₁, more, hone, hrest, rfl⟩ := exists_of_materializeEach_cons h
    have hsaved := isSavedOn_of_materializeOne (happart s (List.mem_cons_self ..))
      (hkinds s (List.mem_cons_self ..)) hone
    have hkeeps := keeps_materializeEach c rest d₁
    rw [hrest] at hkeeps
    refine .cons (hsaved.of_keeps hkeeps ?_ ?_) ?_
    · rintro l hl ⟨s', -, hfile⟩
      exact happart s (List.mem_cons_self ..) l hl hfile.inFolder
    · rintro l hl ⟨s', hs', hfile⟩
      exact hnodup.1 (List.mem_map.2 ⟨s', hs', (hl.master_eq hfile).symm⟩)
    · exact ih hnodup.2 (fun s hs => happart s (List.mem_cons_of_mem _ hs))
        (fun s hs => hkinds s (List.mem_cons_of_mem _ hs)) hrest

end FirstRun

/-! ## The second run -/

section SecondRun

variable {c : Config} {d : Disk} {s : MasterSchema} {a : Asset}

/-- A saved asset whose text is read back is made again, and saving it changes nothing. -/
theorem IsSavedOn.materializeOne_again (h : IsSavedOn c d s a) (hnodup : s.fieldNames.Nodup)
    (hfloats : ∀ x ∈ a.floats, x.ReadsBack) : materializeOne c s d = (.ok a, d) := by
  have hload : c.store.load d s.masterName = .ok (some a) := by
    rw [h.load, Asset.parse?_render h.fits hfloats]
  obtain ⟨w, sheet, prior, hw, hsheet, ha⟩ := h.exists_sheet
  have hmade : s.assetFrom c.store w (c.workbookPath s) d = .ok a := by
    rw [MasterSchema.assetFrom, hsheet, FolderStore.pathFor_eq_ok h.valid, hload]
    simp only
    rw [ha, s.materializeSheet_assetOf hnodup]
  rw [materializeOne_of_openAt hw]
  exact MasterSchema.materializeFrom_eq_ok_iff.2 ⟨hmade, h.save⟩

theorem IsSavedOn.materializeOne_malformed (h : IsSavedOn c d s a) {x : Double} (hx : x ∈ a.floats)
    (hfinite : x.isFinite = false) :
    materializeOne c s d
      = (.error (.asset (.malformed (c.store.assetPath a.master))), d) := by
  have hload : c.store.load d s.masterName
      = .error (.malformed (c.store.assetPath s.masterName)) := by
    rw [h.load, Asset.parse?_render_eq_none hx hfinite]
  obtain ⟨w, sheet, prior, hw, hsheet, -⟩ := h.exists_sheet
  have hmade : s.assetFrom c.store w (c.workbookPath s) d
      = .error (.asset (.malformed (c.store.assetPath s.masterName))) := by
    rw [MasterSchema.assetFrom, hsheet, FolderStore.pathFor_eq_ok h.valid, hload]
  rw [materializeOne_of_openAt hw, MasterSchema.materializeFrom, hmade, h.master_eq]

variable {schemas : List MasterSchema} {assets : List Asset}

theorem exists_isSavedOn (h : List.Forall₂ (IsSavedOn c d) schemas assets) (ha : a ∈ assets) :
    ∃ s, IsSavedOn c d s a := by
  induction h with
  | nil => cases ha
  | @cons s _ _ _ hsaved _ ih =>
    rcases List.mem_cons.1 ha with rfl | ha
    · exact ⟨s, hsaved⟩
    · exact ih ha

theorem materializeEach_again (h : List.Forall₂ (IsSavedOn c d) schemas assets)
    (hnodup : ∀ s ∈ schemas, s.fieldNames.Nodup)
    (hfloats : ∀ a ∈ assets, ∀ x ∈ a.floats, x.ReadsBack) :
    materializeEach c schemas d = (.ok assets, d) := by
  induction h with
  | nil => exact materializeEach_nil c d
  | cons hsaved _ ih =>
    have hone := hsaved.materializeOne_again (hnodup _ (List.mem_cons_self ..))
      (hfloats _ (List.mem_cons_self ..))
    rw [materializeEach_cons_of_ok hone, ih (fun s hs => hnodup s (List.mem_cons_of_mem _ hs))
      fun a ha => hfloats a (List.mem_cons_of_mem _ ha)]
    rfl

/-- The second run stops at the first asset with a float that is not finite. -/
theorem materializeEach_malformed (h : List.Forall₂ (IsSavedOn c d) schemas assets)
    (hnodup : ∀ s ∈ schemas, s.fieldNames.Nodup)
    (hfloats : ∀ a ∈ assets, ∀ x ∈ a.floats, x.isFinite → x.ReadsBack)
    (hbroken : ∃ a ∈ assets, ¬ a.HasFiniteFloats) :
    ∃ a ∈ assets, ¬ a.HasFiniteFloats ∧ materializeEach c schemas d
      = (.error (.asset (.malformed (c.store.assetPath a.master))), d) := by
  induction h with
  | nil =>
    obtain ⟨a, ha, -⟩ := hbroken
    cases ha
  | @cons s a rest more hsaved _ ih =>
    -- A master with finite floats is passed with the disk unchanged; the first other one ends the run.
    by_cases hfinite : a.HasFiniteFloats
    · have hone := hsaved.materializeOne_again (hnodup s (List.mem_cons_self ..))
        fun x hx => hfloats a (List.mem_cons_self ..) x hx (hfinite x hx)
      have hmore : ∃ a ∈ more, ¬ a.HasFiniteFloats := by
        obtain ⟨b, hb, hinfinite⟩ := hbroken
        rcases List.mem_cons.1 hb with rfl | hb
        · exact absurd hfinite hinfinite
        · exact ⟨b, hb, hinfinite⟩
      obtain ⟨b, hb, hinfinite, hrest⟩ := ih (fun s hs => hnodup s (List.mem_cons_of_mem _ hs))
        (fun a ha => hfloats a (List.mem_cons_of_mem _ ha)) hmore
      refine ⟨b, List.mem_cons_of_mem _ hb, hinfinite, ?_⟩
      rw [materializeEach_cons_of_ok hone, hrest]
      rfl
    · obtain ⟨x, hx, hnot⟩ : ∃ x ∈ a.floats, x.isFinite = false := by
        simpa [Asset.HasFiniteFloats] using hfinite
      exact ⟨a, List.mem_cons_self .., hfinite,
        materializeEach_cons_of_error (hsaved.materializeOne_malformed hx hnot) rest⟩

end SecondRun

/-! ## Projects -/

/-- A run that succeeds over the manifest of a compilation can be repeated exactly if it saved no
float that is not finite. For every asset that it saved, the store gives back that asset if its floats
are finite and refuses the file otherwise; and the next run makes the same report and leaves every file
as it is if all assets have finite floats, and otherwise stops at a file that it cannot read. Finite
floats are assumed to be read back from the literals that the run wrote. -/
theorem materialize_again {c : Config} {d₀ d₁ d d' : Disk} {compiled : CompileReport}
    {reports : List MasterReport} (hcompile : compile c .apply d₀ = (.ok compiled, d₁))
    (hmanifest : d.readText c.manifestPath = d₁.readText c.manifestPath)
    (hworkbooks : Disk.destination c.assetsFolder ≠ Disk.destination c.workbooksFolder)
    (hgenerated : Disk.destination c.assetsFolder ≠ Disk.destination c.generatedFolder)
    (hrun : materialize c d = (.ok reports, d'))
    (hfloats : ∀ a ∈ savedAssets c d, ∀ x ∈ a.floats, x.isFinite → x.ReadsBack) :
    reports = (savedAssets c d).map (Asset.report c.store)
      ∧ (∀ a ∈ savedAssets c d, c.store.load d' a.master
          = if a.HasFiniteFloats then .ok (some a)
            else .error (.malformed (c.store.assetPath a.master)))
      ∧ ((∀ a ∈ savedAssets c d, a.HasFiniteFloats) → materialize c d' = (.ok reports, d'))
      ∧ ((∃ a ∈ savedAssets c d, ¬ a.HasFiniteFloats) →
          ∃ a ∈ savedAssets c d, ¬ a.HasFiniteFloats ∧ materialize c d'
            = (.error (.asset (.malformed (c.store.assetPath a.master))), d')) := by
  obtain ⟨hcompiled, -, htext, -⟩ := compile_eq_ok hcompile
  generalize declaredSchemas c d₀ = schemas at hcompiled htext
  have hload := hcompiled.load_manifest (hmanifest.trans htext)
  have happart := hcompiled.isApart hworkbooks
  obtain ⟨paths, -, hdeclared⟩ := hcompiled.exists_paths
  have hwell := fun s hs => (hdeclared s hs).isWellFormed
  obtain ⟨heach, hreports⟩ := savedAssets_of_materialize hload happart hrun
  have hsaved := isSavedOn_of_materializeEach hcompiled.nodup happart
    (fun s hs => (hwell s hs).isDeclarable) heach
  have hnodup : ∀ s ∈ schemas, s.fieldNames.Nodup := fun s hs => (hwell s hs).nodup_fieldNames
  have hkeeps := keeps_materializeEach c schemas d
  -- The first run wrote assets only, so the second one starts from the same manifest.
  have hload' : Manifest.load d' c.generatedFolder = .ok (Manifest.ofSchemas schemas) := by
    have hmasters : (Manifest.ofSchemas schemas).masters = schemas := rfl
    rw [hmasters] at heach
    rw [heach] at hkeeps
    refine hcompiled.load_manifest (hkeeps.readText ?_ (hmanifest.trans htext))
    rintro l hl ⟨s, -, hfile⟩
    exact Disk.not_inFolder_of_ne isName_manifest (Ne.symm hgenerated) hl hfile.inFolder
  refine ⟨hreports, fun a ha => ?_, fun hfinite => ?_, fun hbroken => ?_⟩
  · obtain ⟨s, hs⟩ := exists_isSavedOn hsaved ha
    exact hs.load_eq_ite (hfloats a ha)
  · have hagain := materializeEach_again hsaved hnodup
      fun a ha x hx => hfloats a ha x hx (hfinite a ha x hx)
    rw [materialize_eq hload' happart]
    simp only [Manifest.ofSchemas] at hagain ⊢
    rw [hagain, hreports]
    rfl
  · obtain ⟨a, ha, hinfinite, hagain⟩ := materializeEach_malformed hsaved hnodup hfloats hbroken
    refine ⟨a, ha, hinfinite, ?_⟩
    rw [materialize_eq hload' happart]
    simp only [Manifest.ofSchemas] at hagain ⊢
    rw [hagain]
    rfl

/-- A master with a weight in single precision, which one of its two records exceeds. -/
def heavyCells : List (Address × StoredValue) := [
  (⟨0, 0⟩, .text "Item"), (⟨1, 0⟩, .text "@"),
  (⟨2, 0⟩, .text "int"), (⟨2, 1⟩, .text "float"),
  (⟨3, 0⟩, .text "id"), (⟨3, 1⟩, .text "weight"),
  (⟨5, 0⟩, .int 1), (⟨5, 1⟩, .float ⟨0x3FF8000000000000⟩),
  (⟨6, 0⟩, .int 2), (⟨6, 1⟩, .float ⟨0x48078287F49C4A1D⟩)]

/-- The schema of that master. -/
def heavySchema : MasterSchema where
  masterName := "Item"
  masterDescription := ""
  keyType := "int"
  keyColumn := 0
  fields := [⟨0, "int", .primitive .i32, "id", ""⟩, ⟨1, "float", .primitive .f32, "weight", ""⟩]
  source := ⟨"book.xlsx", "Sheet"⟩
  anchor := ⟨1, 0⟩
  dataStartRow := 5

/-- The disk after compiling it. -/
def heavyDisk : Disk := (compile .small .apply (.ofCells heavyCells)).2

theorem materialize_again_heavy :
    (materialize .small heavyDisk).1 = .ok [⟨"Item", 2, [], "assets/Item.json"⟩]
      ∧ ∃ a ∈ savedAssets .small heavyDisk, ¬ a.HasFiniteFloats
        ∧ materialize .small (materialize .small heavyDisk).2
          = (.error (.asset (.malformed (Config.small.store.assetPath a.master))),
              (materialize .small heavyDisk).2) := by
  have hcompile : compile .small .apply (.ofCells heavyCells)
      = (.ok ⟨["Item"], ["src/item.rs", "src/masters.json", "src/mod.rs"], 0, []⟩, heavyDisk) :=
    eq_mk_of_fst_eq (by decide +kernel)
  have hworkbooks : Disk.destination Config.small.assetsFolder
      ≠ Disk.destination Config.small.workbooksFolder := by
    decide +kernel
  have hgenerated : Disk.destination Config.small.assetsFolder
      ≠ Disk.destination Config.small.generatedFolder := by
    decide +kernel
  have hschemas : declaredSchemas .small (.ofCells heavyCells) = [heavySchema] := by
    decide +kernel
  obtain ⟨hcompiled, -, htext, -⟩ := compile_eq_ok hcompile
  rw [hschemas] at hcompiled htext
  have hload := hcompiled.load_manifest htext
  have hrun := materialize_eq hload (hcompiled.isApart hworkbooks)
  have hreports : (materialize .small heavyDisk).1 = .ok [⟨"Item", 2, [], "assets/Item.json"⟩] := by
    rw [hrun]
    decide +kernel
  have hfloats : ∀ a ∈ savedAssets .small heavyDisk, ∀ x ∈ a.floats, x.isFinite → x.ReadsBack := by
    rw [savedAssets_eq hload]
    decide +kernel
  have hbroken : ∃ a ∈ savedAssets .small heavyDisk, ¬ a.HasFiniteFloats := by
    rw [savedAssets_eq hload]
    decide +kernel
  have hagain := materialize_again hcompile rfl hworkbooks hgenerated (eq_mk_of_fst_eq hreports)
    hfloats
  exact ⟨hreports, hagain.2.2.2 hbroken⟩

end MasterData
