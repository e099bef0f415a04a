-- SUMMARY: Materializing a project is materializing its masters one by one.
import MasterData.Proofs.Project.Compile
import MasterData.Proofs.Project.Session
import MasterData.Proofs.Record.Materialize
import MasterData.Proofs.Store.Folder
import MasterData.Proofs.Workbook.Opening

/-! # One master after the other

The masters of a project are materialized in groups, each from a workbook that is opened once. Saving
an asset does not touch the workbooks, so opening the workbook anew for each master makes no
difference: a run is a sequence of steps, each of which makes the asset of one master and saves it.
Main statement: `materialize_eq`.
-/

namespace MasterData

/-- What materializing reports about an asset that it saved. -/
def Asset.report (store : FolderStore) (a : Asset) : MasterReport where
  master := a.master
  records := a.records.length
  collisions := (MasterIndex.build a.master a.records).collisions
  asset := store.assetPath a.master

/-- The workbook of a master is not a file of the folder of the assets. -/
def Config.IsApart (c : Config) (s : MasterSchema) : Prop :=
  ∀ l, Disk.destination (c.workbookPath s) = some l → ¬ Disk.InFolder c.assetsFolder l

/-! ## One master -/

/-- The asset that a master gets from an opened workbook. -/
def MasterSchema.assetFrom (s : MasterSchema) (store : FolderStore) (w : Workbook) (path : String)
    (d : Disk) : Except ProjectError Asset :=
  match s.sheetIn w path, store.pathFor s.masterName, store.load d s.masterName with
  | .error e, _, _ => .error e
  | .ok _, .error e, _ => .error (.asset e)
  | .ok _, .ok _, .error e => .error (.asset e)
  | .ok sheet, .ok _, .ok prior => .ok (s.assetOf (s.materializeSheet sheet prior))

/-- The disk with an asset saved. -/
def FolderStore.keepAsset (store : FolderStore) (a : Asset) (d : Disk) :
    Except ProjectError Asset × Disk :=
  match store.save d a with
  | (.error e, d) => (.error (.asset e), d)
  | (.ok (), d) => (.ok a, d)

/-- Makes the asset of a master from an opened workbook and saves it. -/
def MasterSchema.materializeFrom (s : MasterSchema) (store : FolderStore) (w : Workbook)
    (path : String) (d : Disk) : Except ProjectError Asset × Disk :=
  match s.assetFrom store w path d with
  | .error e => (.error e, d)
  | .ok a => store.keepAsset a d

theorem materializeMaster_eq (store : FolderStore) (w : Workbook) (path : String) (s : MasterSchema)
    (d : Disk) :
    materializeMaster store w path s d
      = ((s.materializeFrom store w path d).1.map (Asset.report store),
          (s.materializeFrom store w path d).2) := by
  unfold materializeMaster MasterSchema.materializeFrom MasterSchema.assetFrom
  cases s.sheetIn w path with
  | error e => rfl
  | ok sheet =>
    cases hpath : store.pathFor s.masterName with
    | error e => rfl
    | ok assetPath =>
      obtain ⟨-, rfl⟩ := FolderStore.eq_of_pathFor_eq_ok hpath
      cases store.load d s.masterName with
      | error e => rfl
      | ok prior =>
        simp only [FolderStore.keepAsset, MasterSchema.assetOf]
        cases hsave : store.save d ⟨s.masterName, s.fieldNames, s.materializeSheet sheet prior⟩ with
        | mk result d₁ => cases result <;> rfl

/-- A run of a master succeeds where its asset is made and saved. -/
theorem MasterSchema.materializeFrom_eq_ok_iff {s : MasterSchema} {store : FolderStore}
    {w : Workbook} {path : String} {d d' : Disk} {a : Asset} :
    s.materializeFrom store w path d = (.ok a, d')
      ↔ s.assetFrom store w path d = .ok a ∧ store.save d a = (.ok (), d') := by
  unfold materializeFrom FolderStore.keepAsset
  cases s.assetFrom store w path d with
  | error e => simp
  | ok b =>
    simp only [Except.ok.injEq]
    constructor
    · intro h
      split at h
      · cases h
      · rename_i hsave
        cases h
        exact ⟨rfl, hsave⟩
    · rintro ⟨rfl, hsave⟩
      rw [hsave]

theorem materializeMaster_eq_ok_iff {store : FolderStore} {w : Workbook} {path : String}
    {s : MasterSchema} {d d' : Disk} {report : MasterReport} :
    materializeMaster store w path s d = (.ok report, d') ↔
      ∃ a, s.assetFrom store w path d = .ok a ∧ store.save d a = (.ok (), d')
        ∧ a.report store = report := by
  rw [materializeMaster_eq]
  simp only [← and_assoc, ← MasterSchema.materializeFrom_eq_ok_iff]
  rcases s.materializeFrom store w path d with ⟨e | a, d₁⟩
  · simp [Except.map]
  · simp [Except.map, and_comm, and_assoc]

/-- Opens the workbook of a master, makes its asset and saves it. -/
def materializeOne (c : Config) (s : MasterSchema) (d : Disk) : Except ProjectError Asset × Disk :=
  match Workbook.openAt d (c.workbookPath s) with
  | .error e => (.error (.workbook e), d)
  | .ok w => s.materializeFrom c.store w (c.workbookPath s) d

/-- Materializes masters in order, up to the first failure. -/
def materializeEach (c : Config) : List MasterSchema → Disk → Except ProjectError (List Asset) × Disk
  | [], d => (.ok [], d)
  | s :: rest, d =>
    match materializeOne c s d with
    | (.error e, d) => (.error e, d)
    | (.ok a, d) => ((materializeEach c rest d).1.map (a :: ·), (materializeEach c rest d).2)

theorem materializeOne_of_openAt {c : Config} {s : MasterSchema} {d : Disk} {w : Workbook}
    (hw : Workbook.openAt d (c.workbookPath s) = .ok w) :
    materializeOne c s d = s.materializeFrom c.store w (c.workbookPath s) d := by
  unfold materializeOne
  rw [hw]

theorem materializeOne_of_openAt_error {c : Config} {s : MasterSchema} {d : Disk}
    {e : WorkbookError} (hw : Workbook.openAt d (c.workbookPath s) = .error e) :
    materializeOne c s d = (.error (.workbook e), d) := by
  unfold materializeOne
  rw [hw]

theorem materializeEach_nil (c : Config) (d : Disk) : materializeEach c [] d = (.ok [], d) := (rfl)

theorem materializeEach_cons (c : Config) (s : MasterSchema) (rest : List MasterSchema) (d : Disk) :
    materializeEach c (s :: rest) d
      = match materializeOne c s d with
        | (.error e, d) => (.error e, d)
        | (.ok a, d) => ((materializeEach c rest d).1.map (a :: ·), (materializeEach c rest d).2) :=
  (rfl)

theorem materializeEach_cons_of_ok {c : Config} {s : MasterSchema} {d d₁ : Disk} {a : Asset}
    (h : materializeOne c s d = (.ok a, d₁)) (rest : List MasterSchema) :
    materializeEach c (s :: rest) d
      = ((materializeEach c rest d₁).1.map (a :: ·), (materializeEach c rest d₁).2) := by
  rw [materializeEach_cons, h]

theorem materializeEach_cons_of_error {c : Config} {s : MasterSchema} {d d₁ : Disk}
    {e : ProjectError} (h : materializeOne c s d = (.error e, d₁)) (rest : List MasterSchema) :
    materializeEach c (s :: rest) d = (.error e, d₁) := by
  rw [materializeEach_cons, h]

/-- A run that succeeds consists of a first step and a run over the rest, which both succeed. -/
theorem exists_of_materializeEach_cons {c : Config} {s : MasterSchema} {rest : List MasterSchema}
    {d d' : Disk} {assets : List Asset}
    (h : materializeEach c (s :: rest) d = (.ok assets, d')) :
    ∃ a d₁ more, materializeOne c s d = (.ok a, d₁) ∧ materializeEach c rest d₁ = (.ok more, d')
      ∧ assets = a :: more := by
  cases hone : materializeOne c s d with
  | mk result d₁ =>
    cases result with
    | error e =>
      rw [materializeEach_cons_of_error hone] at h
      cases h
    | ok a =>
      rw [materializeEach_cons_of_ok hone] at h
      cases hrest : materializeEach c rest d₁ with
      | mk result d₂ =>
        rw [hrest] at h
        cases result with
        | error e => cases h
        | ok more =>
          cases h
          exact ⟨a, d₁, more, rfl, hrest, rfl⟩

/-! ## What a step keeps -/

/-- The parts of an asset that was made from an opened workbook. -/
theorem MasterSchema.exists_of_assetFrom {s : MasterSchema} {store : FolderStore} {w : Workbook}
    {path : String} {d : Disk} {a : Asset} (h : s.assetFrom store w path d = .ok a) :
    ∃ sheet prior, s.sheetIn w path = .ok sheet ∧ isValidAssetName s.masterName
      ∧ store.load d s.masterName = .ok prior
      ∧ a = s.assetOf (s.materializeSheet sheet prior) := by
  unfold assetFrom at h
  split at h
  · cases h
  · cases h
  · cases h
  · rename_i sheet assetPath prior hsheet hpath hload
    rw [Except.ok.injEq] at h
    exact ⟨sheet, prior, hsheet, (FolderStore.eq_of_pathFor_eq_ok hpath).1, hload, h.symm⟩

theorem MasterSchema.master_of_assetFrom {s : MasterSchema} {store : FolderStore} {w : Workbook}
    {path : String} {d : Disk} {a : Asset} (h : s.assetFrom store w path d = .ok a) :
    a.master = s.masterName := by
  obtain ⟨_, _, -, -, -, rfl⟩ := exists_of_assetFrom h
  rfl

theorem MasterSchema.keeps_materializeFrom (s : MasterSchema) (store : FolderStore) (w : Workbook)
    (path : String) (d : Disk) :
    Disk.Keeps (store.IsFileOf s.masterName) d (s.materializeFrom store w path d).2 := by
  unfold materializeFrom
  split
  · exact .refl d
  · rename_i a ha
    have hsave := store.keeps_save d a
    rw [master_of_assetFrom ha] at hsave
    unfold FolderStore.keepAsset
    split
    · rename_i heq
      exact hsave.of_eq heq
    · rename_i heq
      exact hsave.of_eq heq

theorem keeps_materializeMaster (store : FolderStore) (w : Workbook) (path : String)
    (s : MasterSchema) (d : Disk) :
    Disk.Keeps (store.IsFileOf s.masterName) d (materializeMaster store w path s d).2 := by
  rw [materializeMaster_eq]
  exact s.keeps_materializeFrom store w path d

theorem keeps_materializeOne (c : Config) (s : MasterSchema) (d : Disk) :
    Disk.Keeps (c.store.IsFileOf s.masterName) d (materializeOne c s d).2 := by
  unfold materializeOne
  split
  · exact .refl d
  · exact s.keeps_materializeFrom c.store _ _ d

/-- The locations of the files of masters. -/
def FolderStore.AreFilesOf (store : FolderStore) (schemas : List MasterSchema) (l : Location) :
    Prop :=
  ∃ s ∈ schemas, store.IsFileOf s.masterName l

/-- A run touches only the files of its masters. -/
theorem keeps_materializeEach (c : Config) (schemas : List MasterSchema) (d : Disk) :
    Disk.Keeps (c.store.AreFilesOf schemas) d (materializeEach c schemas d).2 := by
  induction schemas generalizing d with
  | nil => exact .refl d
  | cons s rest ih =>
    have hone : Disk.Keeps (c.store.AreFilesOf (s :: rest)) d (materializeOne c s d).2 :=
      (keeps_materializeOne c s d).mono fun l hl => ⟨s, List.mem_cons_self .., hl⟩
    cases hresult : materializeOne c s d with
    | mk result d₁ =>
      rw [hresult] at hone
      cases result with
      | error e =>
        rw [materializeEach_cons_of_error hresult]
        exact hone
      | ok a =>
        rw [materializeEach_cons_of_ok hresult]
        refine hone.trans ((ih d₁).mono fun l hl => ?_)
        obtain ⟨s', hs', hl⟩ := hl
        exact ⟨s', List.mem_cons_of_mem _ hs', hl⟩

/-! ## Opening workbooks -/

theorem Config.IsApart.openAt {c : Config} {s : MasterSchema} (hs : c.IsApart s)
    (s' : MasterSchema) {d : Disk} {w : Workbook}
    (hw : Workbook.openAt d (c.workbookPath s) = .ok w) :
    Workbook.openAt (materializeOne c s' d).2 (c.workbookPath s) = .ok w :=
  (keeps_materializeOne c s' d).openAt (fun l hl hfile => hs l hl hfile.inFolder) hw

/-! ## Sessions -/

namespace Session

variable {c : Config} {x x' : Session} {s : MasterSchema}

/-- A step leaves the disk, or materializes its master from the workbook that it has. -/
theorem disk_step (c : Config) (s : MasterSchema) (x : Session) :
    (x.step c s).2.disk = x.disk
      ∨ ∃ w, (x.step c s).2.disk = (s.materializeFrom c.store w (c.workbookPath s) x.disk).2 := by
  cases hw : x.workbookOf c s with
  | error e => exact .inl (by rw [step_of_workbookOf_error hw])
  | ok w => exact .inr ⟨w, by rw [step_of_workbookOf hw, materializeMaster_eq]⟩

/-- The workbook that is open is still the one that the disk has. -/
def IsCurrent (c : Config) (x : Session) : Prop :=
  ∀ name w, x.opened? = some (name, w) →
    Workbook.openAt x.disk (Path.join c.workbooksFolder name) = .ok w

theorem IsCurrent.workbookOf (hx : x.IsCurrent c) (s : MasterSchema) :
    x.workbookOf c s = Workbook.openAt x.disk (c.workbookPath s) := by
  unfold Session.workbookOf
  cases hopened : x.openedAs? s.source.workbook with
  | none => rfl
  | some w => exact (hx _ w (opened?_of_openedAs? hopened)).symm

/-- A step makes the asset of its master as if it opened the workbook anew. -/
theorem IsCurrent.step_eq (hx : x.IsCurrent c) (s : MasterSchema) :
    ((x.step c s).1, (x.step c s).2.disk)
      = ((materializeOne c s x.disk).1.map (Asset.report c.store), (materializeOne c s x.disk).2) := by
  have hopens := hx.workbookOf s
  cases hw : Workbook.openAt x.disk (c.workbookPath s) with
  | error e =>
    rw [step_of_workbookOf_error (hopens.trans hw), materializeOne_of_openAt_error hw]
    rfl
  | ok w => rw [step_of_workbookOf (hopens.trans hw), materializeOne_of_openAt hw, materializeMaster_eq]

/-- A step does not touch the workbook that it leaves open. -/
theorem IsCurrent.step (hx : x.IsCurrent c) (hs : c.IsApart s) {report : MasterReport}
    (hstep : x.step c s = (.ok report, x')) : x'.IsCurrent c := by
  obtain ⟨w, hw, hmaster, hopened⟩ := step_eq_ok_iff.1 hstep
  rw [hx.workbookOf] at hw
  have hkeeps := (keeps_materializeMaster ..).of_eq hmaster
  rintro name w' hname
  obtain ⟨rfl, rfl⟩ := Prod.mk.inj (Option.some.inj (hopened.symm.trans hname))
  exact hkeeps.openAt (fun l hl hfile => hs l hl hfile.inFolder) hw

/-- A run is a sequence of steps, each of which makes the asset of one master and saves it. -/
theorem IsCurrent.run_eq {entries : List MasterSchema} (hx : x.IsCurrent c)
    (happart : ∀ s ∈ entries, c.IsApart s) :
    ((run c entries x).1, (run c entries x).2.disk)
      = ((materializeEach c entries x.disk).1.map (·.map (Asset.report c.store)),
          (materializeEach c entries x.disk).2) := by
  induction entries generalizing x with
  | nil => rfl
  | cons s rest ih =>
    rw [List.forall_mem_cons] at happart
    have hsame := hx.step_eq s
    cases hstep : x.step c s with
    | mk result x₁ =>
      cases hone : materializeOne c s x.disk with
      | mk made d₁ =>
        rw [hstep, hone] at hsame
        obtain ⟨hresult, hdisk⟩ := Prod.mk.inj hsame
        simp only at hresult hdisk
        cases made with
        | error e =>
          subst hresult hdisk
          rw [run_cons_of_error hstep, materializeEach_cons_of_error hone]
          rfl
        | ok a =>
          subst hresult hdisk
          rw [run_cons_of_ok hstep, materializeEach_cons_of_ok hone]
          have hrest := ih (hx.step happart.1 hstep) happart.2
          obtain ⟨hreports, hdisks⟩ := Prod.mk.inj hrest
          rw [hreports, hdisks]
          cases (materializeEach c rest x₁.disk).1 <;> rfl

end Session

/-- The masters of a manifest are materialized one by one. -/
theorem materialize_eq {c : Config} {d : Disk} {m : Manifest}
    (hmanifest : Manifest.load d c.generatedFolder = .ok m) (happart : ∀ s ∈ m.masters, c.IsApart s) :
    materialize c d
      = ((materializeEach c m.masters d).1.map (·.map (Asset.report c.store)),
          (materializeEach c m.masters d).2) := by
  have hstart : (Session.start d).IsCurrent c := fun _ _ hopened => by cases hopened
  rw [materialize_eq_run hmanifest]
  exact hstart.run_eq happart

theorem eq_mk_of_fst_eq {α β : Type} {p : α × β} {a : α} (h : p.1 = a) : p = (a, p.2) := by
  rw [← h]

/-- The assets that a run saves when it succeeds. -/
def savedAssets (c : Config) (d : Disk) : List Asset :=
  match Manifest.load d c.generatedFolder with
  | .error _ => []
  | .ok m => ((materializeEach c m.masters d).1.toOption).getD []

theorem savedAssets_eq {c : Config} {d : Disk} {m : Manifest}
    (hmanifest : Manifest.load d c.generatedFolder = .ok m) :
    savedAssets c d = ((materializeEach c m.masters d).1.toOption).getD [] := by
  unfold savedAssets
  rw [hmanifest]

/-- A run that succeeds saves one asset for each report. -/
theorem savedAssets_of_materialize {c : Config} {d d' : Disk} {m : Manifest}
    {reports : List MasterReport} (hmanifest : Manifest.load d c.generatedFolder = .ok m)
    (happart : ∀ s ∈ m.masters, c.IsApart s) (h : materialize c d = (.ok reports, d')) :
    materializeEach c m.masters d = (.ok (savedAssets c d), d')
      ∧ reports = (savedAssets c d).map (Asset.report c.store) := by
  rw [materialize_eq hmanifest happart] at h
  cases heach : materializeEach c m.masters d with
  | mk result d₁ =>
    rw [heach] at h
    cases result with
    | error e => cases h
    | ok assets =>
      simp only [Except.map, Prod.mk.injEq, Except.ok.injEq] at h
      have hsaved : savedAssets c d = assets := by
        rw [savedAssets_eq hmanifest, heach]
        rfl
      rw [hsaved, h.2]
      exact ⟨rfl, h.1.symm⟩

/-! ## Compiled projects -/

/-- The masters of a compiled project get their assets in a folder of their own, so saving them
touches no workbook. -/
theorem IsCompiled.isApart {c : Config} {d : Disk} {schemas : List MasterSchema}
    (h : IsCompiled c d schemas)
    (hworkbooks : Disk.destination c.assetsFolder ≠ Disk.destination c.workbooksFolder) :
    ∀ s ∈ schemas, c.IsApart s := by
  intro s hs l hl
  obtain ⟨paths, -, hdeclared⟩ := h.exists_paths
  obtain ⟨path, -, w, _, hw, hsource, -⟩ := (hdeclared s hs).exists_sheet
  have hname := Workbook.isName_of_openAt hw
  rw [← hsource] at hname
  exact Disk.not_inFolder_of_ne hname (Ne.symm hworkbooks) hl

/-- Wherever the text of the manifest is still read, the compiled masters are materialized one by
one. -/
theorem IsCompiled.materialize_eq {c : Config} {d d' : Disk} {schemas : List MasterSchema}
    (h : IsCompiled c d schemas)
    (hworkbooks : Disk.destination c.assetsFolder ≠ Disk.destination c.workbooksFolder)
    (htext : d'.readText c.manifestPath = .ok (Manifest.ofSchemas schemas).render) :
    materialize c d'
      = ((materializeEach c schemas d').1.map (·.map (Asset.report c.store)),
          (materializeEach c schemas d').2) :=
  MasterData.materialize_eq (h.load_manifest htext) (h.isApart hworkbooks)

/-- A project with folders of its own for workbooks, generated source and assets. -/
def Config.small : Config where
  workbooks := "data"
  generatedSource := "src"
  assets := "assets"
  runtimeCrate := "runtime"
  types := ⟨.empty, .empty⟩
  baseDir := ""

end MasterData
