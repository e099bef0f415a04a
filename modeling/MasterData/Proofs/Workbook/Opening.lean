-- SUMMARY: Which workbooks a folder lists, and what opening and scanning them gives.
import MasterData.Proofs.Disk.Listing
import MasterData.Proofs.Workbook.Document
import MasterData.Project.Survey

/-! # Listed, opened and scanned workbooks

A listed workbook is named by the path under which it was opened, and an opened one by the last step of
its path. A workbook whose file is kept opens as before, and a scan visits only sheets that are read
again under their own names.
-/

namespace MasterData

/-! ## Opening -/

/-- A workbook whose file is kept opens as before. -/
theorem Disk.Keeps.openAt {S : Location → Prop} {d d' : Disk} {path : String} {w : Workbook}
    (h : Disk.Keeps S d d') (hpath : ∀ l, Disk.destination path = some l → ¬ S l)
    (hw : Workbook.openAt d path = .ok w) : Workbook.openAt d' path = .ok w := by
  unfold Workbook.openAt at hw ⊢
  simp only at hw ⊢
  split at hw
  · cases hw
  · split at hw
    · rename_i content hcontent
      rw [h.read hpath hcontent]
      exact hw
    · cases hw
  · split at hw
    · rename_i sheets hcontent
      rw [h.read hpath hcontent]
      exact hw
    · cases hw

/-- Opening a workbook depends on its file alone. -/
theorem Workbook.openAt_congr {d d' : Disk} {path : String} (h : d'.read path = d.read path) :
    openAt d' path = openAt d path := by
  unfold openAt
  simp only [h]

/-- An opened workbook has a file name. -/
theorem Workbook.fileName?_of_openAt {d : Disk} {path : String} {w : Workbook}
    (hw : openAt d path = .ok w) : Path.fileName? path = some (workbookName path) := by
  cases hname : Path.fileName? path with
  | none =>
    have hformat : WorkbookFormat.ofPath? path = none := by
      simp [WorkbookFormat.ofPath?, Path.extension?, hname]
    unfold openAt at hw
    rw [hformat] at hw
    cases hw
  | some name => simp [workbookName, hname]

theorem Workbook.isName_of_openAt {d : Disk} {path : String} {w : Workbook}
    (hw : openAt d path = .ok w) : Path.IsName (workbookName path) :=
  Path.isName_of_fileName? (fileName?_of_openAt hw)

/-! ## Listing -/

/-- A disk as systems have them: no name of an entry holds a slash. -/
def Disk.WellNamed (d : Disk) : Prop :=
  ∀ e ∈ d.entries, ∀ name, e.1.back? = some name → '/' ∉ name.toList

theorem Disk.WellNamed.hasNamedFiles {d : Disk} (hd : d.WellNamed) (folder : String) :
    d.HasNamedFiles folder :=
  Disk.hasNamedFiles_of_named hd folder

/-- The disk with a single workbook, which has one sheet with the given cells. -/
def Disk.ofCells (cells : List (Address × StoredValue)) : Disk where
  entries := [(#["data"], .folder),
    (#["data", "book.xlsx"], .file (.spreadsheet ⟨[⟨"Sheet", some (.around cells)⟩]⟩))]
  nodup := by simp

theorem Disk.wellNamed_ofCells (cells : List (Address × StoredValue)) :
    (Disk.ofCells cells).WellNamed := by
  simp [Disk.WellNamed, Disk.ofCells]

namespace Workbook

/-- The listed paths are those of the workbooks in a folder that is found. -/
theorem exists_of_listIn {d : Disk} {folder : String} {paths : List String}
    (h : listIn d folder = .ok paths) :
    ∃ f entries, d.find folder = .ok (f, .folder) ∧ (entries.map (·.1)).Nodup
      ∧ (∀ name content, (name, .file content) ∈ entries
        ↔ d.entry? (f.push name) = some (.file content))
      ∧ paths = (Disk.selectFiles isWorkbookName entries).map (Path.join folder) := by
  unfold listIn at h
  split at h
  · rename_i entries hentries
    rw [Except.ok.injEq] at h
    obtain ⟨f, hf⟩ := Disk.exists_find_of_list hentries
    obtain ⟨entries', hentries', hnodup, hfiles⟩ := Disk.exists_list hf
    obtain rfl := Except.ok.inj (hentries.symm.trans hentries')
    exact ⟨f, entries, hf, hnodup, hfiles, h.symm⟩
  · cases h

theorem isName_of_isWorkbookName {name : String} (hslash : '/' ∉ name.toList)
    (h : isWorkbookName name) : Path.IsName name := by
  -- A name with an extension has a file name, which is the name itself as it holds no slash.
  simp only [isWorkbookName, Bool.and_eq_true, WorkbookFormat.ofPath?, Path.extension?] at h
  cases hfile : Path.fileName? name with
  | none => simp [hfile] at h
  | some file =>
    have hname := Path.isName_of_fileName? hfile
    rw [Path.eq_of_fileName? hslash hfile] at hname
    exact hname

/-- The listed paths lead to workbooks directly inside the folder, each named by its file. -/
theorem exists_of_mem_listIn {d : Disk} {folder path : String} (hd : d.HasNamedFiles folder)
    {paths : List String} (h : listIn d folder = .ok paths) (hpath : path ∈ paths) :
    Path.IsName (workbookName path) ∧ isWorkbookName (workbookName path)
      ∧ path = Path.join folder (workbookName path) := by
  obtain ⟨f, entries, hf, -, hfiles, rfl⟩ := exists_of_listIn h
  obtain ⟨name, hname, rfl⟩ := List.mem_map.1 hpath
  obtain ⟨hworkbook, content, hmem⟩ := Disk.mem_selectFiles.1 hname
  have hdestination := Disk.destination_of_find hf
  have hslash := hd f name content hdestination ((hfiles name content).1 hmem)
  have hstep := isName_of_isWorkbookName hslash hworkbook
  have hfile : workbookName (Path.join folder name) = name := by
    rw [workbookName, Path.fileName?_join hstep, Option.getD_some]
  rw [hfile]
  exact ⟨hstep, hworkbook, rfl⟩

end Workbook

/-- A folder whose workbooks are kept lists the same. -/
theorem Disk.Keeps.listIn {S : Location → Prop} {d d' : Disk} {folder : String}
    {paths : List String} (h : Disk.Keeps S d d')
    (hS : ∀ f name, Disk.destination folder = some f → Workbook.isWorkbookName name →
      ¬ S (f.push name))
    (hpaths : Workbook.listIn d folder = .ok paths) : Workbook.listIn d' folder = .ok paths := by
  obtain ⟨f, entries, hf, hnodup, hfiles, rfl⟩ := Workbook.exists_of_listIn hpaths
  obtain ⟨entries', hlist', hnodup', hfiles'⟩ := Disk.exists_list (h.find hf)
  have hdestination := Disk.destination_of_find hf
  have hsame : Disk.selectFiles Workbook.isWorkbookName entries'
      = Disk.selectFiles Workbook.isWorkbookName entries := by
    refine Disk.selectFiles_congr hnodup' hnodup fun name => and_congr_right fun hname =>
      exists_congr fun content => ?_
    rw [hfiles, hfiles', h.file (hS f name hdestination hname)]
  rw [← hsame]
  unfold Workbook.listIn
  rw [hlist']
  rfl

namespace Workbook

/-! ## Sheets -/

/-- A sheet is read under its own name. -/
theorem name_of_readSheet {w : Workbook} {name : String} {sheet : Sheet}
    (h : w.readSheet name = .ok sheet) : sheet.name = name := by
  unfold readSheet at h
  split at h
  · split at h
    · rename_i hsheet
      rw [Except.ok.injEq] at h
      exact h ▸ Document.name_of_sheet? hsheet
    · cases h
  · split at h
    · split at h
      · rw [Except.ok.injEq] at h
        exact h ▸ rfl
      · cases h
    · cases h

end Workbook

/-! ## Scanning -/

/-- An anchored sheet of a workbook among those at some paths. -/
structure ScanHit.IsIn (d : Disk) (paths : List String) (hit : ScanHit) : Prop where
  mem_paths : hit.workbook ∈ paths
  exists_workbook : ∃ w, Workbook.openAt d hit.workbook = .ok w ∧ hit.sheet.name ∈ w.sheetNames
    ∧ w.readSheet hit.sheet.name = .ok hit.sheet
  findAnchor? : hit.sheet.findAnchor? = some hit.anchor

/-! ## Scans on other disks -/

/-- A scan whose workbooks are kept finds the same. -/
theorem Disk.Keeps.scanWorkbooks {S : Location → Prop} {d d' : Disk} {σ : Type}
    {visit : ScanHit → σ → Except ProjectError Unit × σ} {paths : List String} {state state' : σ}
    (h : Disk.Keeps S d d')
    (hpaths : ∀ path ∈ paths, ∀ l, Disk.destination path = some l → ¬ S l)
    (hscan : MasterData.scanWorkbooks d visit paths state = (.ok (), state')) :
    MasterData.scanWorkbooks d' visit paths state = (.ok (), state') := by
  induction paths generalizing state with
  | nil => exact hscan
  | cons path rest ih =>
    unfold MasterData.scanWorkbooks at hscan ⊢
    split at hscan
    · cases hscan
    · rename_i w hw
      rw [h.openAt (hpaths path (List.mem_cons_self ..)) hw]
      simp only at hscan ⊢
      split at hscan
      · cases hscan
      · exact ih (fun p hp => hpaths p (List.mem_cons_of_mem _ hp)) hscan

end MasterData
