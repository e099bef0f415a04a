-- SUMMARY: Disks with the same entries in whatever order.
import MasterData.Proofs.Disk.Alike
import MasterData.Proofs.Disk.Listing

/-! # Same disks

A disk keeps its entries in the order in which the system enumerates them. Two disks with the same
entry at each location differ in that order alone. Every operation gives the same answer on both and
leaves disks that are the same again; only a listing shows the order, and what is selected from it by
name does not. Main statements: `Same.makeFolders` and `Same.selectFiles`.
-/

namespace MasterData.Disk

/-- Two disks with the same entry at each location, in whatever order. -/
def Same (d d' : Disk) : Prop :=
  ∀ l, d'.entry? l = d.entry? l

/-- Disks whose entries are a rearrangement of each other are the same. -/
theorem same_of_perm {d d' : Disk} (h : d.entries.Perm d'.entries) : d.Same d' := by
  intro l
  cases hbase : isBase l with
  | true => simp [ entry?, hbase]
  | false =>
    have hiff (e : Entry) : d'.entry? l = some e ↔ d.entry? l = some e := by
      constructor
      · exact fun he => entry?_of_mem_entries (h.mem_iff.2 (mem_entries_of_entry he hbase)) hbase
      · exact fun he => entry?_of_mem_entries (h.mem_iff.1 (mem_entries_of_entry he hbase)) hbase
    exact Option.ext hiff

/-- The disk with its entries from the last to the first. -/
def turned (d : Disk) : Disk where
  entries := d.entries.reverse
  nodup := by
    rw [List.map_reverse]
    exact List.nodup_reverse.2 d.nodup

/-- Two runs that give the same result and leave the same disk. -/
def Agree {α : Type} (run run' : α × Disk) : Prop :=
  run.1 = run'.1 ∧ run.2.Same run'.2

theorem Agree.cases {α : Type} {run run' : α × Disk} (h : Agree run run') :
    ∃ result d d', run = (result, d) ∧ run' = (result, d') ∧ d.Same d' :=
  ⟨run.1, run.2, run'.2, rfl, Prod.ext h.1.symm rfl, h.2⟩

namespace Same

variable {d d' : Disk}

theorem refl (d : Disk) : d.Same d := fun _ => rfl

theorem put (h : d.Same d') (l : Location) (e : Entry) : Disk.Same (d.put l e) (d'.put l e) := by
  intro l'
  rw [entry?_put, entry?_put, h]

theorem keep (h : d.Same d') (p : Location → Bool) : Disk.Same (d.keep p) (d'.keep p) := by
  intro l
  rw [entry?_keep, entry?_keep, h]

/-- The same disks are alike everywhere. -/
theorem alike (h : d.Same d') : Alike (fun _ => False) d d' where
  folder {l} := by rw [h]
  missing {l} := by rw [h]
  same {l} _ := h l

/-! ## Reading -/

theorem find (h : d.Same d') (path : String) : d'.find path = d.find path :=
  h.alike.find fun _ _ => not_false

theorem read (h : d.Same d') (path : String) : d'.read path = d.read path :=
  h.alike.read fun _ _ => not_false

theorem readText (h : d.Same d') (path : String) : d'.readText path = d.readText path :=
  h.alike.readText fun _ _ => not_false

theorem doesExist (h : d.Same d') (path : String) : d'.doesExist path = d.doesExist path := by
  rw [Disk.doesExist, Disk.doesExist, h.find]

/-! ## Writing -/

theorem write (h : d.Same d') (path : String) (content : Content) :
    (∃ e, d.write path content = .error e ∧ d'.write path content = .error e)
      ∨ ∃ d₁ d₁', d.write path content = .ok d₁ ∧ d'.write path content = .ok d₁' ∧ d₁.Same d₁' := by
  unfold Disk.write
  rw [h.alike.locate]
  cases d.locate path with
  | error e => exact .inl ⟨e, rfl, rfl⟩
  | ok l =>
    simp only [h l]
    cases hentry : d.entry? l with
    | none => exact .inr ⟨_, _, rfl, rfl, h.put l _⟩
    | some e =>
      cases e with
      | folder => exact .inl ⟨_, rfl, rfl⟩
      | file old => exact .inr ⟨_, _, rfl, rfl, h.put l _⟩

theorem removeFile (h : d.Same d') (path : String) :
    (∃ e, d.removeFile path = .error e ∧ d'.removeFile path = .error e)
      ∨ ∃ d₁ d₁', d.removeFile path = .ok d₁ ∧ d'.removeFile path = .ok d₁' ∧ d₁.Same d₁' := by
  unfold Disk.removeFile
  rw [h.find]
  cases d.find path with
  | error e => exact .inl ⟨e, rfl, rfl⟩
  | ok found =>
    obtain ⟨l, e⟩ := found
    cases e with
    | folder => exact .inl ⟨_, rfl, rfl⟩
    | file old => exact .inr ⟨_, _, rfl, rfl, h.keep _⟩

/-! ## Making folders -/

theorem makeFoldersFrom (h : d.Same d') (here : Location) (segments : List String) :
    Agree (d.makeFoldersFrom here segments) (d'.makeFoldersFrom here segments) := by
  induction segments generalizing d d' here with
  | nil => exact ⟨rfl, h⟩
  | cons segment rest ih =>
    unfold Disk.makeFoldersFrom
    split_ifs
    · exact ih h here
    · exact ⟨rfl, h⟩
    · exact ih h _
    · exact ih h _
    · exact ⟨rfl, h⟩
    · simp only [h (here.push segment)]
      cases d.entry? (here.push segment) with
      | none => exact ih (h.put _ .folder) _
      | some e =>
        cases e with
        | folder => exact ih h _
        | file content => exact ⟨rfl, h⟩

theorem makeFolders (h : d.Same d') (path : String) :
    Agree (d.makeFolders path) (d'.makeFolders path) := by
  unfold Disk.makeFolders
  split_ifs
  · exact ⟨rfl, h⟩
  · simp only
    obtain ⟨result, d₁, d₁', hrun, hrun', h₁⟩ :=
      (h.makeFoldersFrom (start ((Path.parent? path).getD ""))
        (Path.segments ((Path.parent? path).getD ""))).cases
    rw [hrun, hrun']
    cases result with
    | error e => exact ⟨rfl, h₁⟩
    | ok u =>
      simp only [h₁.find]
      split <;> exact ⟨rfl, h₁⟩
  · exact h.makeFoldersFrom _ _

/-! ## Listing -/

/-- Whatever order a folder is listed in, the same names are selected from it. -/
theorem selectFiles (h : d.Same d') {p p' : String → Bool} (hp : ∀ name, p' name = p name)
    (folder : String) :
    (∃ e, d.list folder = .error e ∧ d'.list folder = .error e)
      ∨ ∃ entries entries', d.list folder = .ok entries ∧ d'.list folder = .ok entries'
        ∧ Disk.selectFiles p' entries' = Disk.selectFiles p entries := by
  obtain rfl : p' = p := funext hp
  have hfind := h.find folder
  cases hfound : d.find folder with
  | error e =>
    rw [hfound] at hfind
    exact .inl ⟨e, by rw [Disk.list, hfound], by rw [Disk.list, hfind]⟩
  | ok found =>
    obtain ⟨f, _ | content⟩ := found
    · obtain ⟨entries, hlist, hnodup, hfiles⟩ := exists_list hfound
      obtain ⟨entries', hlist', hnodup', hfiles'⟩ := exists_list (hfind.trans hfound)
      refine .inr ⟨entries, entries', hlist, hlist', ?_⟩
      refine selectFiles_congr hnodup' hnodup fun name => and_congr_right fun _ =>
        exists_congr fun content => ?_
      rw [hfiles, hfiles', h]
    · rw [hfound] at hfind
      exact .inl ⟨.refused, by rw [Disk.list, hfound], by rw [Disk.list, hfind]⟩

end Same

end MasterData.Disk
