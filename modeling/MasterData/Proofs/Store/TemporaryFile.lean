-- SUMMARY: Saving through a temporary file is saving at once.
import MasterData.Proofs.Store.Folder

/-! # Saving through a temporary file

The system writes an asset into a new file beside its place and then moves that file over the one that is
there. Since the new file is gone once it was moved, and is taken away where it cannot be moved, all that
remains is the write of the asset itself. Main statement: `FolderStore.saveThrough_eq_save`.
-/

namespace MasterData

namespace Disk

variable {d d' : Disk} {l : Location} {path : String}

/-- The disk with a file moved to another place, over the file that is there. -/
def moveFile (d : Disk) (source target : String) : Except Denial Disk :=
  match d.find source with
  | .error e => .error e
  | .ok (_, .folder) => .error .refused
  | .ok (l, .file content) => (d.keep (· ≠ l)).write target content

/-- A new entry that is taken away again leaves the disk as it was. -/
theorem keep_put_new (h : d.entry? l = none) (e : Entry) : (d.put l e).keep (· ≠ l) = d := by
  have habsent : d.entries.lookup l = none := by
    unfold entry? at h
    split at h
    · cases h
    · exact h
  refine ext ?_
  unfold keep put
  simp only
  generalize d.entries = entries at habsent
  induction entries with
  | nil => simp [putIn]
  | cons p entries ih =>
    obtain ⟨l', e'⟩ := p
    by_cases hl : l' = l
    · subst hl
      simp at habsent
    · rw [List.lookup_cons, beq_eq_false_iff_ne.2 (Ne.symm hl)] at habsent
      simpa [putIn, hl] using ih habsent

end Disk

namespace FolderStore

/-- Saves an asset by way of a new file beside its place. Where that file cannot be moved, it is taken
away again. -/
def saveThrough (s : FolderStore) (temporary : String) (d : Disk) (a : Asset) :
    Except AssetError Unit × Disk :=
  let beside := Path.join s.root temporary
  match s.pathFor a.master with
  | .error e => (.error e, d)
  | .ok path =>
    match d.makeFolders s.root with
    | (.error _, d) => (.error (.system s.root), d)
    | (.ok (), d) =>
      match d.write beside (.text a.render) with
      | .error _ => (.error (.system s.root), d)
      | .ok written =>
        match written.moveFile beside path with
        | .ok d => (.ok (), d)
        | .error _ => (.error (.system path), (written.removeFile beside).toOption.getD written)

/-- Once the folder is there, a file of that name can be made in it, and there is none yet. -/
structure HasRoomFor (s : FolderStore) (temporary : String) (d : Disk) : Prop where
  root_le : s.root.utf8ByteSize ≤ longestFolderPath
  place : ∀ d₁, d.makeFolders s.root = (.ok (), d₁) →
    ∃ l, d₁.locate (Path.join s.root temporary) = .ok l ∧ d₁.entry? l = none

/-- Saving through a temporary file is saving at once: nothing is left of the temporary file, and what
happens to the file of the asset is that it is rewritten, or nothing. -/
theorem saveThrough_eq_save {s : FolderStore} {temporary : String} {d : Disk}
    (h : s.HasRoomFor temporary d) (a : Asset) : s.saveThrough temporary d a = s.save d a := by
  unfold saveThrough save
  cases s.pathFor a.master with
  | error e => rfl
  | ok path =>
    rcases hmade : d.makeFolders s.root with ⟨_ | _, d₁⟩
    · rfl
    · obtain ⟨l, hl, hnew⟩ := h.place d₁ hmade
      have hfile : d₁.entry? l ≠ some .folder := by simp [hnew]
      -- Written beside its place, the asset is found there, and it alone was added.
      have hwritten : d₁.write (Path.join s.root temporary) (.text a.render)
          = .ok (d₁.put l (.file (.text a.render))) := by
        simp only [Disk.write, hl, hnew]
      have hput : Disk.Keeps (· = l) d₁ (d₁.put l (.file (.text a.render))) :=
        Disk.keeps_put_file (S := (· = l)) hfile rfl _
      have hfound : (d₁.put l (.file (.text a.render))).find (Path.join s.root temporary)
          = .ok (l, .file (.text a.render)) :=
        Disk.find_eq_ok_iff.2 ⟨hput.locate hl, Disk.entry?_put_self hfile _⟩
      have hback := Disk.keep_put_new hnew (.file (.text a.render))
      simp only [hwritten, Disk.moveFile, Disk.removeFile, hfound, hback, Nat.not_lt.2 h.root_le,
        if_false]
      cases d₁.write path (.text a.render) <;> rfl

end FolderStore

end MasterData
