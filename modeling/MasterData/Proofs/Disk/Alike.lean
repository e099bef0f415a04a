-- SUMMARY: Operations on disks that differ in what some files hold.
import MasterData.Proofs.Disk.Frame

/-! # Alike disks

Two disks are alike outside of a set of locations if they differ at most in what the files at those
locations hold. No operation on another file can tell them apart: it succeeds on both or on none, reads
the same, and leaves disks that are alike again.
-/

namespace MasterData.Disk

/-- Two disks with the same folders and files, and the same content of each file outside of a set of
locations. -/
structure Alike (S : Location → Prop) (d d' : Disk) : Prop where
  folder : ∀ {l}, d'.entry? l = some .folder ↔ d.entry? l = some .folder
  missing : ∀ {l}, d'.entry? l = none ↔ d.entry? l = none
  same : ∀ {l}, ¬ S l → d'.entry? l = d.entry? l

namespace Alike

variable {S : Location → Prop} {d d' d₁ : Disk} {path : String}

theorem put (h : Alike S d d') (l : Location) (e : Entry) : Alike S (d.put l e) (d'.put l e) where
  folder {l'} := by
    rw [entry?_put, entry?_put]
    split_ifs
    · rfl
    · rfl
    · exact h.folder
  missing {l'} := by
    rw [entry?_put, entry?_put]
    split_ifs
    · rfl
    · rfl
    · exact h.missing
  same {l'} hl' := by rw [entry?_put, entry?_put, h.same hl']

/-- A disk is alike the one in which a file was overwritten. -/
theorem put_file {l : Location} {content : Content} (hl : d.entry? l = some (.file content))
    (hS : S l) (content' : Content) : Alike S d (d.put l (.file content')) := by
  have hentry : Disk.entry? (d.put l (.file content')) l = some (.file content') :=
    entry?_put_self (by simp [hl]) _
  refine ⟨fun {l'} => ?_, fun {l'} => ?_, fun {l'} hl' => ?_⟩
  · by_cases heq : l' = l
    · simp [heq, hentry, hl]
    · rw [entry?_put_of_ne heq]
  · by_cases heq : l' = l
    · simp [heq, hentry, hl]
    · rw [entry?_put_of_ne heq]
  · have hne : l' ≠ l := by
      rintro rfl
      exact hl' hS
    exact entry?_put_of_ne hne _ _

/-! ## Paths -/

/-- Only folders are passed on the way, so paths lead to the same place. -/
theorem walk (h : Alike S d d') (here : Location) (segments : List String) :
    d'.walk here segments = d.walk here segments := by
  induction segments generalizing here with
  | nil => rfl
  | cons segment rest ih =>
    cases hhere : d.entry? here with
    | none => rw [Disk.walk, Disk.walk, hhere, h.missing.2 hhere]
    | some e =>
      cases e with
      | folder =>
        rw [Disk.walk, Disk.walk, hhere, h.folder.2 hhere]
        simp only [ih]
      | file content =>
        cases hhere' : d'.entry? here with
        | none => simp [h.missing.1 hhere'] at hhere
        | some e' =>
          cases e' with
          | folder => simp [h.folder.1 hhere'] at hhere
          | file content' => rw [Disk.walk, Disk.walk, hhere, hhere']

theorem locate (h : Alike S d d') (path : String) : d'.locate path = d.locate path := by
  unfold Disk.locate
  rw [h.walk]

theorem find (h : Alike S d d') (hpath : ∀ l, destination path = some l → ¬ S l) :
    d'.find path = d.find path := by
  unfold Disk.find
  rw [h.locate path]
  cases hl : d.locate path with
  | error e => rfl
  | ok l => simp only [h.same (hpath l (destination_of_locate hl))]

theorem read (h : Alike S d d') (hpath : ∀ l, destination path = some l → ¬ S l) :
    d'.read path = d.read path := by
  rw [Disk.read, Disk.read, h.find hpath]

theorem readText (h : Alike S d d') (hpath : ∀ l, destination path = some l → ¬ S l) :
    d'.readText path = d.readText path := by
  rw [Disk.readText, Disk.readText, h.read hpath]

/-! ## Writing -/

theorem write (h : Alike S d d') {content : Content} (hwrite : d.write path content = .ok d₁) :
    ∃ d₁', d'.write path content = .ok d₁' ∧ Alike S d₁ d₁' := by
  obtain ⟨l, hl, hfolder, rfl⟩ := exists_of_write hwrite
  refine ⟨d'.put l (.file content), ?_, h.put l _⟩
  have hfolder' : d'.entry? l ≠ some .folder := fun hentry => hfolder (h.folder.1 hentry)
  simp [Disk.write, h.locate path, hl]

theorem makeFoldersFrom (h : Alike S d d') {here : Location} {segments : List String}
    (hmade : d.makeFoldersFrom here segments = (.ok (), d₁)) :
    ∃ d₁', d'.makeFoldersFrom here segments = (.ok (), d₁') ∧ Alike S d₁ d₁' := by
  induction segments generalizing d d' here with
  | nil =>
    cases hmade
    exact ⟨d', rfl, h⟩
  | cons segment rest ih =>
    unfold Disk.makeFoldersFrom at hmade ⊢
    split_ifs at hmade ⊢
    · exact ih h hmade
    · cases hmade
    · exact ih h hmade
    · exact ih h hmade
    · cases hmade
    · simp only at hmade ⊢
      split at hmade
      · rename_i hfolder
        rw [h.folder.2 hfolder]
        exact ih h hmade
      · cases hmade
      · rename_i hnone
        rw [h.missing.2 hnone]
        exact ih (h.put _ .folder) hmade

theorem makeFolders (h : Alike S d d') (hmade : d.makeFolders path = (.ok (), d₁)) :
    ∃ d₁', d'.makeFolders path = (.ok (), d₁') ∧ Alike S d₁ d₁' := by
  unfold Disk.makeFolders at hmade ⊢
  split_ifs at hmade ⊢
  · cases hmade
  · simp only at hmade ⊢
    split at hmade
    · rename_i d₂ houter
      obtain ⟨d₂', houter', h₂⟩ := h.makeFoldersFrom houter
      rw [houter']
      simp only
      split at hmade
      · rename_i l hfind
        cases hmade
        obtain ⟨hl, hentry⟩ := find_eq_ok_iff.1 hfind
        have hfind' : d₂'.find path = .ok (l, .folder) :=
          find_eq_ok_iff.2 ⟨(h₂.locate path).trans hl, h₂.folder.2 hentry⟩
        rw [hfind']
        exact ⟨d₂', rfl, h₂⟩
      · cases hmade
      · cases hmade
    · rename_i hfailed
      exact absurd hmade (hfailed d₁)
  · exact h.makeFoldersFrom hmade

end Alike

end MasterData.Disk
