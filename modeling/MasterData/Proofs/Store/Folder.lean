-- SUMMARY: What saving an asset into a folder does to the files of the disk.
import MasterData.Proofs.Disk.Frame
import MasterData.Store.Folder

/-! # Saving into a folder

Saving an asset touches the file of its master and no other. Once saved, its text is in that file, and
as long as it stays there and no folder disappears, saving the same asset again does nothing.
-/

namespace MasterData.FolderStore

variable {s : FolderStore} {S : Location → Prop}

/-! ## Files of assets -/

/-- The name of the file of a master. -/
def assetFileName (master : String) : String := master ++ ".json"

/-- The path of the file of a master. -/
def assetPath (s : FolderStore) (master : String) : String :=
  Path.join s.root (assetFileName master)

theorem pathFor_eq_ok {master : String} (h : isValidAssetName master) :
    s.pathFor master = .ok (s.assetPath master) := by
  simp [pathFor, h, assetPath, assetFileName]

theorem eq_of_pathFor_eq_ok {master path : String} (h : s.pathFor master = .ok path) :
    isValidAssetName master ∧ path = s.assetPath master := by
  unfold pathFor at h
  split at h
  · cases h
    exact ⟨‹_›, rfl⟩
  · cases h

/-- A name that cannot name an asset is refused before the disk is looked at. -/
theorem load_of_not_isValidAssetName {master : String} (h : ¬ isValidAssetName master)
    (s : FolderStore) (d : Disk) : s.load d master = .error (.invalidMasterName master) := by
  rw [load, pathFor, if_neg h]
  rfl

theorem save_of_not_isValidAssetName {a : Asset} (h : ¬ isValidAssetName a.master) (s : FolderStore)
    (d : Disk) : s.save d a = (.error (.invalidMasterName a.master), d) := by
  rw [save, pathFor, if_neg h]

theorem isName_assetFileName {master : String} (h : isValidAssetName master) :
    Path.IsName (assetFileName master) := by
  have hslash : '/' ∉ (assetFileName master).toList := by
    simp only [isValidAssetName, Bool.and_eq_true, List.all_eq_true, decide_eq_true_eq] at h
    simp only [assetFileName, String.toList_append, List.mem_append, not_or]
    exact ⟨fun hmem => by simpa using h.2 '/' hmem, by decide⟩
  refine Path.isName_of_lt_length hslash ?_
  have hending : ".json".toList.length = 5 := rfl
  rw [assetFileName, String.toList_append, List.length_append]
  omega

theorem assetFileName_inj {m m' : String} (h : assetFileName m = assetFileName m') : m = m' := by
  simpa [assetFileName] using h

/-- The location of the file of a master. -/
def IsFileOf (s : FolderStore) (master : String) (l : Location) : Prop :=
  isValidAssetName master ∧ Disk.destination (s.assetPath master) = some l

theorem IsFileOf.inFolder {master : String} {l : Location} (h : s.IsFileOf master l) :
    Disk.InFolder s.root l :=
  ⟨_, isName_assetFileName h.1, h.2⟩

/-- No two masters share a file. -/
theorem IsFileOf.master_eq {m m' : String} {l : Location} (h : s.IsFileOf m l)
    (h' : s.IsFileOf m' l) : m = m' :=
  assetFileName_inj (Disk.name_eq_of_destination_join (isName_assetFileName h.1)
    (isName_assetFileName h'.1) h.2 h'.2)

/-! ## Loading -/

theorem load_eq {master : String} (h : isValidAssetName master) (d : Disk) :
    s.load d master
      = match d.readText (s.assetPath master) with
        | .ok text =>
          match Asset.parse? text with
          | some asset => .ok (some asset)
          | none => .error (.malformed (s.assetPath master))
        | .error .notFound => .ok none
        | .error .refused => .error (.system (s.assetPath master)) := by
  rw [load, pathFor_eq_ok h]
  simp only [Except.bind, bind]
  split
  · split <;> simp_all [pure, Except.pure, throw, throwThe, MonadExceptOf.throw]
  · simp_all [pure, Except.pure]
  · simp_all [throw, throwThe, MonadExceptOf.throw]

theorem load_of_readText {d : Disk} {master text : String} (h : isValidAssetName master)
    (htext : d.readText (s.assetPath master) = .ok text) :
    s.load d master
      = match Asset.parse? text with
        | some asset => .ok (some asset)
        | none => .error (.malformed (s.assetPath master)) := by
  rw [load_eq h, htext]

theorem isValidAssetName_of_load {d : Disk} {master : String} {prior : Option Asset}
    (h : s.load d master = .ok prior) : isValidAssetName master := by
  cases hpath : s.pathFor master with
  | error e => simp [load, hpath, bind, Except.bind] at h
  | ok path => exact (eq_of_pathFor_eq_ok hpath).1

/-- What is loaded was read from a text. -/
theorem exists_parse?_of_load {d : Disk} {master : String} {a : Asset}
    (h : s.load d master = .ok (some a)) : ∃ text, Asset.parse? text = some a := by
  rw [load_eq (isValidAssetName_of_load h)] at h
  split at h
  · rename_i text _
    split at h
    · rename_i asset hparse
      simp only [Except.ok.injEq, Option.some.injEq] at h
      exact ⟨text, h ▸ hparse⟩
    · cases h
  · cases h
  · cases h

/-- The file of a master, if there is one, holds an asset. -/
def IsLoadable (s : FolderStore) (d : Disk) (master : String) : Prop :=
  ∀ l content, s.IsFileOf master l → d.entry? l = some (.file content) →
    ∃ text asset, content = .text text ∧ Asset.parse? text = some asset

theorem isLoadable_of_missing {d : Disk} {master : String}
    (h : (Disk.destination (s.assetPath master)).bind d.entry? = none) : s.IsLoadable d master := by
  rintro l content ⟨-, hl⟩ hcontent
  rw [hl, Option.bind_some, hcontent] at h
  cases h

theorem IsLoadable.of_keeps {d d' : Disk} {master : String} (h : s.IsLoadable d master)
    (hkeeps : Disk.Keeps S d d') (hS : ∀ l, s.IsFileOf master l → ¬ S l) :
    s.IsLoadable d' master :=
  fun l content hl hcontent => h l content hl ((hkeeps.file (hS l hl)).1 hcontent)

/-- A loadable master is loaded unless the system refuses to read its file. -/
theorem IsLoadable.load {d : Disk} {master : String} (hvalid : isValidAssetName master)
    (h : s.IsLoadable d master) :
    (∃ prior, s.load d master = .ok prior) ∨ ∃ path, s.load d master = .error (.system path) := by
  rw [load_eq hvalid]
  split
  · rename_i text htext
    obtain ⟨l, hl, hentry⟩ := Disk.exists_of_read (Disk.read_of_readText htext)
    obtain ⟨text', asset, heq, hparse⟩ :=
      h l _ ⟨hvalid, Disk.destination_of_locate hl⟩ hentry
    cases heq
    exact .inl ⟨_, by rw [hparse]⟩
  · exact .inl ⟨none, rfl⟩
  · exact .inr ⟨_, rfl⟩

/-! ## Saving -/

/-- Saving keeps all files but that of the master, also where it fails. -/
theorem keeps_save (s : FolderStore) (d : Disk) (a : Asset) :
    Disk.Keeps (s.IsFileOf a.master) d (s.save d a).2 := by
  unfold save
  cases hpath : s.pathFor a.master with
  | error e => exact .refl d
  | ok path =>
    obtain ⟨hvalid, rfl⟩ := eq_of_pathFor_eq_ok hpath
    have hmade := Disk.keeps_makeFolders (S := s.IsFileOf a.master) d s.root
    simp only
    split
    · rename_i heq
      exact hmade.of_eq heq
    · rename_i d₁ heq
      rw [heq] at hmade
      split
      · exact hmade
      · split
        · rename_i d₂ hwrite
          exact hmade.trans (Disk.keeps_write hwrite fun l hl => ⟨hvalid, hl⟩)
        · exact hmade

/-- A save that fails keeps all files. -/
theorem keeps_of_save_eq_error {d d' : Disk} {a : Asset} {e : AssetError}
    (h : s.save d a = (.error e, d')) : Disk.Keeps S d d' := by
  have hmade := Disk.keeps_makeFolders (S := S) d s.root
  unfold save at h
  split at h
  · cases h
    exact .refl d
  · split at h
    · rename_i heq
      cases h
      exact hmade.of_eq heq
    · rename_i heq
      have hkeeps := hmade.of_eq heq
      split at h
      · cases h
        exact hkeeps
      · split at h
        · cases h
        · cases h
          exact hkeeps

/-- The steps of a save that succeeded. -/
theorem exists_of_save {d d' : Disk} {a : Asset} (h : s.save d a = (.ok (), d')) :
    isValidAssetName a.master ∧ s.root.utf8ByteSize ≤ longestFolderPath
      ∧ ∃ d₁, d.makeFolders s.root = (.ok (), d₁)
        ∧ d₁.write (s.assetPath a.master) (.text a.render) = .ok d' := by
  unfold save at h
  split at h
  · cases h
  · rename_i path hpath
    obtain ⟨hvalid, rfl⟩ := eq_of_pathFor_eq_ok hpath
    split at h
    · cases h
    · rename_i d₁ hmade
      split at h
      · cases h
      · rename_i hlength
        split at h
        · rename_i d₂ hwrite
          cases h
          exact ⟨hvalid, Nat.le_of_not_lt hlength, d₁, hmade, hwrite⟩
        · cases h

theorem readText_of_save {d d' : Disk} {a : Asset} (h : s.save d a = (.ok (), d')) :
    d'.readText (s.assetPath a.master) = .ok a.render := by
  obtain ⟨-, -, d₁, -, hwrite⟩ := exists_of_save h
  exact Disk.readText_of_read (Disk.read_of_write hwrite)

/-- An asset whose text is still there is saved again without a change. -/
theorem save_again {d d' d'' : Disk} {a : Asset} (h : s.save d a = (.ok (), d'))
    (hkeeps : Disk.Keeps S d' d'')
    (htext : d''.readText (s.assetPath a.master) = .ok a.render) :
    s.save d'' a = (.ok (), d'') := by
  obtain ⟨hvalid, hlength, d₁, hmade, hwrite⟩ := exists_of_save h
  -- The folders were made before the file was written, and writing took none of them away.
  have hwritten : Disk.Keeps (fun _ => True) d₁ d' := Disk.keeps_write hwrite fun _ _ => trivial
  have hfolders : d''.makeFolders s.root = (.ok (), d'') :=
    Disk.makeFolders_again hmade (hwritten.trans (hkeeps.mono fun _ _ => trivial))
  have hfile : d''.write (s.assetPath a.master) (.text a.render) = .ok d'' :=
    Disk.write_of_read (Disk.read_of_readText htext)
  rw [save, pathFor_eq_ok hvalid]
  simp only [hfolders, Nat.not_lt.2 hlength, if_false, hfile]

/-- A save fails only where the system refuses. -/
theorem system_of_save_eq_error {d d' : Disk} {a : Asset} {e : AssetError}
    (hvalid : isValidAssetName a.master) (h : s.save d a = (.error e, d')) :
    ∃ path, e = .system path := by
  rw [save, pathFor_eq_ok hvalid] at h
  simp only at h
  split at h
  · cases h
    exact ⟨_, rfl⟩
  · split at h
    · cases h
      exact ⟨_, rfl⟩
    · split at h
      · cases h
      · cases h
        exact ⟨_, rfl⟩

end MasterData.FolderStore
