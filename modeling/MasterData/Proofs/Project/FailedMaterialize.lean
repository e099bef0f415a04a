-- SUMMARY: What a failed run over a manifest leaves behind.
import MasterData.Proofs.Disk.Alike
import MasterData.Proofs.Project.ManifestText
import MasterData.Proofs.Project.Session
import MasterData.Proofs.Project.SourceWorkbooks

/-! # Failed materializing

A run stops at the first entry of its manifest that fails. Each entry before it has its asset, exactly as
a run over those entries alone saves it, and no other file is touched: a step makes the whole asset of its
entry before it saves anything, and saves it at once. Main statement: `failed_materialize_is_atomic`.
-/

namespace MasterData

/-! ## Failing steps -/

/-- Why a session fails at an entry, with what error, and the disk that it leaves. -/
inductive Session.Fails (c : Config) (x : Session) (s : MasterSchema) : ProjectError → Disk → Prop
  | workbook {e} (h : x.workbookOf c s = .error e) : Fails c x s (.workbook e) x.disk
  | missingSheet {w} (hw : x.workbookOf c s = .ok w) (h : s.source.sheet ∉ w.sheetNames) :
    Fails c x s (.missingSheet s.masterName (c.workbookPath s) s.source.sheet) x.disk
  | unreadableSheet {w e} (hw : x.workbookOf c s = .ok w)
      (h : w.readSheet s.source.sheet = .error e) :
    Fails c x s (.workbook (e.inWorkbook (c.workbookPath s))) x.disk
  | movedAnchor {w sheet} (hw : x.workbookOf c s = .ok w)
      (hsheet : w.readSheet s.source.sheet = .ok sheet) (h : sheet.findAnchor? ≠ some s.anchor) :
    Fails c x s (.anchorMoved s.masterName s.source.sheet s.anchor sheet.findAnchor?) x.disk
  | invalidName (h : ¬ isValidAssetName s.masterName) :
    Fails c x s (.asset (.invalidMasterName s.masterName)) x.disk
  | unreadablePrior {e} (h : c.store.load x.disk s.masterName = .error e) :
    Fails c x s (.asset e) x.disk
  | save {a path d'} (ha : a.master = s.masterName)
      (h : c.store.save x.disk a = (.error (.system path), d')) :
    Fails c x s (.asset (.system path)) d'

namespace Session

variable {c : Config} {s : MasterSchema} {x x' y : Session} {w : Workbook} {e : ProjectError}
  {d' : Disk}

theorem fails_of_sheetIn (hw : x.workbookOf c s = .ok w)
    (h : s.sheetIn w (c.workbookPath s) = .error e) : x.Fails c s e x.disk := by
  unfold MasterSchema.sheetIn at h
  split at h
  · rename_i hmissing
    cases h
    exact .missingSheet hw (by simpa using hmissing)
  · split at h
    · rename_i hsheet
      cases h
      exact .unreadableSheet hw hsheet
    · rename_i hsheet
      simp only at h
      split at h
      · cases h
      · rename_i hmoved
        cases h
        exact .movedAnchor hw hsheet hmoved

theorem fails_of_materializeMaster (hw : x.workbookOf c s = .ok w)
    (h : materializeMaster c.store w (c.workbookPath s) s x.disk = (.error e, d')) :
    x.Fails c s e d' := by
  unfold materializeMaster at h
  split at h
  · rename_i hsheet
    cases h
    exact fails_of_sheetIn hw hsheet
  · rename_i hpath
    cases h
    unfold FolderStore.pathFor at hpath
    split at hpath
    · cases hpath
    · rename_i hvalid
      cases hpath
      exact .invalidName hvalid
  · rename_i hload
    cases h
    exact .unreadablePrior hload
  · rename_i hpath _
    have hvalid := (FolderStore.eq_of_pathFor_eq_ok hpath).1
    simp only at h
    split at h
    · rename_i hsave
      cases h
      obtain ⟨path, rfl⟩ :=
        FolderStore.system_of_save_eq_error (a := s.assetOf (s.materializeSheet _ _)) hvalid hsave
      exact .save rfl hsave
    · cases h

theorem fails_of_step (h : x.step c s = (.error e, x')) : x.Fails c s e x'.disk := by
  cases hw : x.workbookOf c s with
  | error e' =>
    rw [step_of_workbookOf_error hw] at h
    cases h
    exact .workbook hw
  | ok w =>
    rw [step_of_workbookOf hw] at h
    obtain ⟨hresult, rfl⟩ := Prod.mk.inj h
    exact fails_of_materializeMaster hw (Prod.ext hresult rfl)

/-- Only where the asset cannot be saved may the disk be another one. -/
theorem Fails.eq_or_save (h : x.Fails c s e d') :
    d' = x.disk ∨ ∃ a path, c.store.save x.disk a = (.error (.system path), d') := by
  cases h with
  | save ha hsave => exact .inr ⟨_, _, hsave⟩
  | _ => exact .inl rfl

/-- An anchor that has moved is reported with the master of the entry. -/
theorem Fails.master_eq {master sheet : String} {expected : Address} {found : Option Address}
    (h : x.Fails c s (.anchorMoved master sheet expected found) d') : master = s.masterName := by
  generalize he : ProjectError.anchorMoved master sheet expected found = e at h
  cases h with
  | movedAnchor => exact (ProjectError.anchorMoved.inj he).1
  | _ => cases he

/-- A step that fails keeps all files. -/
theorem Fails.keeps {S : Location → Prop} (h : x.Fails c s e d') : Disk.Keeps S x.disk d' := by
  rcases h.eq_or_save with rfl | ⟨a, path, hsave⟩
  · exact .refl _
  · exact FolderStore.keeps_of_save_eq_error hsave

/-! ## What steps leave -/

theorem keeps_step (c : Config) (s : MasterSchema) (x : Session) :
    Disk.Keeps (c.store.IsFileOf s.masterName) x.disk (x.step c s).2.disk := by
  rcases x.disk_step c s with hdisk | ⟨w, hdisk⟩
  · rw [hdisk]
    exact .refl _
  · rw [hdisk]
    exact s.keeps_materializeFrom ..

/-- A run touches only the files of its masters. -/
theorem keeps_run (c : Config) (entries : List MasterSchema) (x : Session) :
    Disk.Keeps (c.store.AreFilesOf entries) x.disk (run c entries x).2.disk :=
  run_induction (P := fun y => Disk.Keeps (c.store.AreFilesOf entries) x.disk y.disk) (.refl _)
    fun s hs y hy => hy.trans ((keeps_step c s y).mono fun _ hl => ⟨s, hs, hl⟩)

end Session

/-! ## Runs on alike disks -/

section Alike

variable {S : Location → Prop} {c : Config} {store : FolderStore} {d d' d₁ : Disk}

namespace Disk.Alike

theorem load (h : Alike S d d') {master : String} (hS : ∀ l, store.IsFileOf master l → ¬ S l) :
    store.load d' master = store.load d master := by
  by_cases hvalid : isValidAssetName master
  · rw [FolderStore.load_eq hvalid, FolderStore.load_eq hvalid,
      h.readText fun l hl => hS l ⟨hvalid, hl⟩]
  · rw [FolderStore.load_of_not_isValidAssetName hvalid,
      FolderStore.load_of_not_isValidAssetName hvalid]

theorem save (h : Alike S d d') {a : Asset} (hsave : store.save d a = (.ok (), d₁)) :
    ∃ d₁', store.save d' a = (.ok (), d₁') ∧ Alike S d₁ d₁' := by
  obtain ⟨hvalid, hlength, d₂, hmade, hwrite⟩ := FolderStore.exists_of_save hsave
  obtain ⟨d₂', hmade', h₂⟩ := h.makeFolders hmade
  obtain ⟨d₁', hwrite', h₁⟩ := h₂.write hwrite
  refine ⟨d₁', ?_, h₁⟩
  rw [FolderStore.save, FolderStore.pathFor_eq_ok hvalid]
  simp only [hmade', Nat.not_lt.2 hlength, if_false, hwrite']

theorem materializeMaster (h : Alike S d d') {w : Workbook} {path : String} {s : MasterSchema}
    (hS : ∀ l, store.IsFileOf s.masterName l → ¬ S l) {report : MasterReport}
    (hmaster : materializeMaster store w path s d = (.ok report, d₁)) :
    ∃ d₁', MasterData.materializeMaster store w path s d' = (.ok report, d₁') ∧ Alike S d₁ d₁' := by
  obtain ⟨a, hmade, hsave, hreport⟩ := materializeMaster_eq_ok_iff.1 hmaster
  obtain ⟨d₁', hsave', h₁⟩ := h.save hsave
  have hmade' : s.assetFrom store w path d' = .ok a := by
    rw [← hmade, MasterSchema.assetFrom, MasterSchema.assetFrom, h.load hS]
  exact ⟨d₁', materializeMaster_eq_ok_iff.2 ⟨a, hmade', hsave', hreport⟩, h₁⟩

end Disk.Alike

namespace Session

/-- Sessions with the same open workbook on alike disks. -/
structure Alike (S : Location → Prop) (x y : Session) : Prop where
  opened? : y.opened? = x.opened?
  disk : Disk.Alike S x.disk y.disk

/-- The places that an entry reads or writes are not among some locations. -/
structure IsClearOf (c : Config) (S : Location → Prop) (s : MasterSchema) : Prop where
  asset : ∀ l, c.store.IsFileOf s.masterName l → ¬ S l
  workbook : ∀ l, Disk.destination (c.workbookPath s) = some l → ¬ S l

variable {x x' y : Session} {s : MasterSchema}

theorem Alike.step (h : x.Alike S y) (hs : IsClearOf c S s) {report : MasterReport}
    (hstep : x.step c s = (.ok report, x')) : ∃ y', y.step c s = (.ok report, y') ∧ x'.Alike S y' := by
  obtain ⟨w, hw, hmaster, hopened⟩ := step_eq_ok_iff.1 hstep
  have hw' : y.workbookOf c s = .ok w := by
    rw [← hw, workbookOf, workbookOf, openedAs?, openedAs?, h.opened?,
      Workbook.openAt_congr (h.disk.read hs.workbook)]
  obtain ⟨d', hmaster', hdisk⟩ := h.disk.materializeMaster hs.asset hmaster
  exact ⟨⟨x'.opened?, d'⟩, step_eq_ok_iff.2 ⟨w, hw', hmaster', hopened⟩, rfl, hdisk⟩

theorem Alike.run (h : x.Alike S y) {entries : List MasterSchema}
    (hentries : ∀ s ∈ entries, IsClearOf c S s) {reports : List MasterReport}
    (hrun : run c entries x = (.ok reports, x')) :
    ∃ y', Session.run c entries y = (.ok reports, y') ∧ x'.Alike S y' := by
  induction entries generalizing x y reports with
  | nil =>
    cases hrun
    exact ⟨y, rfl, h⟩
  | cons s rest ih =>
    rw [List.forall_mem_cons] at hentries
    obtain ⟨report, x₁, more, hstep, hrest, rfl⟩ := run_cons_eq_ok_iff.1 hrun
    obtain ⟨y₁, hstep', h₁⟩ := h.step hentries.1 hstep
    obtain ⟨y', hrest', h'⟩ := ih h₁ hentries.2 hrest
    exact ⟨y', run_cons_eq_ok_iff.2 ⟨report, y₁, more, hstep', hrest', rfl⟩, h'⟩

end Session

end Alike

/-! ## What a failed run leaves -/

/-- A run that fails at an entry has materialized the entries before it, and leaves every file as the step
before left it: only files of those entries are created or rewritten, each holds the whole asset of its
master, and they hold the same where the manifest lists those entries alone. -/
theorem failed_materialize_is_atomic {c : Config}
    (hfolders : Disk.destination c.assetsFolder ≠ Disk.destination c.generatedFolder) {d d' : Disk}
    {m : Manifest} (hm : Manifest.load d c.generatedFolder = .ok m) {e : ProjectError}
    (h : materialize c d = (.error e, d')) :
    ∃ before s after reports x, m.masters = before ++ s :: after
      ∧ Session.run c before (.start d) = (.ok reports, x) ∧ x.Fails c s e d'
      ∧ (∀ l, ¬ Disk.Changes x.disk d' l)
      ∧ (∀ l, Disk.Changes d d' l → c.store.AreFilesOf before l)
      ∧ (∀ s' ∈ before, c.store.HoldsAsset d' s'.masterName)
      ∧ ∀ alone m', Disk.Alike (Disk.destination c.manifestPath = some ·) d alone →
          Manifest.load alone c.generatedFolder = .ok m' → m'.masters = before →
          (∀ s' ∈ before, Disk.destination (c.workbookPath s') ≠ Disk.destination c.manifestPath) →
          ∃ alone', materialize c alone = (.ok reports, alone')
            ∧ ∀ l, Disk.InFolder c.assetsFolder l → ¬ Disk.Changes alone' d' l := by
  rw [materialize_eq_run hm] at h
  obtain ⟨hresult, rfl⟩ := Prod.mk.inj h
  obtain ⟨before, s, after, reports, x, hmasters, hbefore, hstep⟩ :=
    Session.exists_of_run_eq_error (Prod.ext hresult rfl)
  have hfails := Session.fails_of_step hstep
  have hlast : Disk.Keeps (fun _ => False) x.disk _ := hfails.keeps
  have hfirst := Session.keeps_run c before (.start d)
  rw [hbefore] at hfirst
  refine ⟨before, s, after, reports, x, hmasters, hbefore, hfails, fun l hl => hlast.of_changes hl,
    fun l hl => (hfirst.trans (hlast.mono fun _ => False.elim)).of_changes hl, fun s' hs' => ?_, ?_⟩
  · obtain ⟨hvalid, a, ha, htext⟩ := (Session.holdsAsset_of_run hbefore).1 s' hs'
    exact ⟨hvalid, a, ha, hlast.readText (fun _ _ => id) htext⟩
  · rintro alone m' halike hm' rfl hworkbooks
    have hassets : ∀ l, Disk.InFolder c.assetsFolder l →
        ¬ Disk.destination c.manifestPath = some l :=
      fun l hin hl => Disk.not_inFolder_of_ne isName_manifest (Ne.symm hfolders) hl hin
    have hclear : ∀ s' ∈ m'.masters,
        Session.IsClearOf c (Disk.destination c.manifestPath = some ·) s' := fun s' hs' =>
      ⟨fun l hl => hassets l hl.inFolder, fun l hl hl' => hworkbooks s' hs' (hl.trans hl'.symm)⟩
    have hstart : (Session.start d).Alike (Disk.destination c.manifestPath = some ·)
        (.start alone) := ⟨rfl, halike⟩
    obtain ⟨y, hy, hxy⟩ := hstart.run hclear hbefore
    refine ⟨y.disk, ?_, fun l hl => ?_⟩
    · rw [materialize_eq_run hm', hy]
    · rintro ⟨content, hcontent⟩
      rw [hxy.disk.same (hassets l hl)] at hcontent
      exact hcontent (hlast.file id)

/-- The schema of a master of the given name with a key alone, on a sheet of the same name. -/
def keySchema (name : String) : MasterSchema where
  masterName := name
  masterDescription := ""
  keyType := "int"
  keyColumn := 0
  fields := [⟨0, "int", .primitive .i32, "id", ""⟩]
  source := ⟨"book.xlsx", name⟩
  anchor := ⟨1, 0⟩
  dataStartRow := 5

/-- A workbook with two such masters, the second of which has moved down by a row since its schema was
compiled, and a manifest that lists the masters of the given names. -/
def movedDisk (names : List String) : Disk where
  entries := [(#["data"], .folder),
    (#["data", "book.xlsx"], .file (.spreadsheet ⟨[
      ⟨"Item", some (.around [(⟨0, 0⟩, .text "Item"), (⟨1, 0⟩, .text "@"), (⟨2, 0⟩, .text "int"),
        (⟨3, 0⟩, .text "id"), (⟨5, 0⟩, .int 7)])⟩,
      ⟨"Hero", some (.around [(⟨1, 0⟩, .text "Hero"), (⟨2, 0⟩, .text "@"), (⟨3, 0⟩, .text "int"),
        (⟨4, 0⟩, .text "id")])⟩]⟩)),
    (#["src"], .folder),
    (#["src", "masters.json"], .file (.text (Manifest.ofSchemas (names.map keySchema)).render))]
  nodup := by simp

theorem load_movedDisk (names : List String) :
    Manifest.load (movedDisk names) Config.small.generatedFolder
      = .ok (.ofSchemas (names.map keySchema)) := by
  have htext : (movedDisk names).readText (Path.join Config.small.generatedFolder Manifest.fileName)
      = .ok (Manifest.ofSchemas (names.map keySchema)).render :=
    Disk.readText_eq_ok_iff.2 ⟨#["src", "masters.json"], rfl, rfl⟩
  simp only [Manifest.load, htext]
  refine Manifest.ofText_render ?_ ?_ _
  · simp [keySchema]
  · simp only [keySchema, List.forall_mem_map, List.forall_mem_singleton]
    exact fun _ _ => ⟨nofun, nofun⟩

theorem alike_movedDisk (names names' : List String) :
    Disk.Alike (Disk.destination Config.small.manifestPath = some ·) (movedDisk names)
      (movedDisk names') :=
  .put_file (d := movedDisk names) (l := #["src", "masters.json"]) rfl (by decide +kernel)
    (.text (Manifest.ofSchemas (names'.map keySchema)).render)

theorem failed_materialize_is_atomic_moved :
    ∃ d', materialize .small (movedDisk ["Item", "Hero"])
        = (.error (.anchorMoved "Hero" "Hero" ⟨1, 0⟩ (some ⟨2, 0⟩)), d')
      ∧ Config.small.store.HoldsAsset d' "Item"
      ∧ ∃ reports alone', materialize .small (movedDisk ["Item"]) = (.ok reports, alone')
        ∧ ∀ l, Disk.InFolder Config.small.assetsFolder l → ¬ Disk.Changes alone' d' l := by
  have hfolders : Disk.destination Config.small.assetsFolder
      ≠ Disk.destination Config.small.generatedFolder := by
    decide +kernel
  have hm := load_movedDisk ["Item", "Hero"]
  have herror : (materialize .small (movedDisk ["Item", "Hero"])).1
      = .error (.anchorMoved "Hero" "Hero" ⟨1, 0⟩ (some ⟨2, 0⟩)) := by
    rw [materialize_eq_run hm]
    decide +kernel
  have hrun := eq_mk_of_fst_eq herror
  obtain ⟨before, s, after, reports, x, hmasters, -, hfails, -, -, hholds, halone⟩ :=
    failed_materialize_is_atomic hfolders hm hrun
  -- The entry that fails is the second one.
  obtain rfl : before = [keySchema "Item"] := by
    match before, hmasters with
    | [], hmasters =>
      obtain ⟨rfl, -⟩ := List.cons.inj hmasters
      exact absurd hfails.master_eq (by decide)
    | [_], hmasters => rw [(List.cons.inj hmasters).1]
    | _ :: _ :: _, hmasters => simp [Manifest.ofSchemas] at hmasters
  have hworkbooks : ∀ s' ∈ [keySchema "Item"], Disk.destination (Config.small.workbookPath s')
      ≠ Disk.destination Config.small.manifestPath := by
    decide +kernel
  exact ⟨_, hrun, hholds _ (List.mem_singleton_self _), reports,
    halone _ _ (alike_movedDisk _ _) (load_movedDisk ["Item"]) rfl hworkbooks⟩

end MasterData
