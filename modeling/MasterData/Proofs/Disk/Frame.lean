-- SUMMARY: What the operations on a disk leave as it was.
import MasterData.Proofs.Disk.Destination

/-! # Frames

No operation on files takes away a folder or makes one of a file, and each touches no file but the one
at the destination of its path. `Disk.Keeps` states this for a set of locations, so that runs of many
operations compose. Folders that were made once are found by every later run, and a file that is
written again as it is stays the same.
-/

namespace MasterData.Disk

/-! ## Entries -/

theorem lookup_putIn (l l' : Location) (e : Entry) (entries : List (Location × Entry)) :
    (putIn l e entries).lookup l' = if l' = l then some e else entries.lookup l' := by
  induction entries with
  | nil =>
    by_cases h : l' = l
    · simp [putIn, h]
    · simp [putIn, List.lookup_cons, h, beq_eq_false_iff_ne.2 h]
  | cons p entries ih =>
    obtain ⟨l₁, e₁⟩ := p
    by_cases h₁ : l₁ = l
    · subst h₁
      by_cases h : l' = l₁
      · simp [putIn, h]
      · simp [putIn, List.lookup_cons, h, beq_eq_false_iff_ne.2 h]
    · by_cases h : l' = l₁
      · subst h
        simp [putIn, h₁]
      · simp [putIn, List.lookup_cons, h₁, beq_eq_false_iff_ne.2 h, ih]

theorem entry?_put (d : Disk) (l l' : Location) (e : Entry) :
    Disk.entry? (d.put l e) l'
      = if isBase l' then some .folder else if l' = l then some e else d.entry? l' := by
  unfold entry? put
  split
  · rfl
  · exact lookup_putIn ..

theorem entry?_put_of_ne {l l' : Location} (h : l' ≠ l) (d : Disk) (e : Entry) :
    Disk.entry? (d.put l e) l' = d.entry? l' := by
  rw [entry?_put, if_neg h]
  split
  · rename_i hbase
    simp [ entry?, hbase]
  · rfl

theorem not_isBase_of_entry?_ne {d : Disk} {l : Location} (h : d.entry? l ≠ some .folder) :
    isBase l = false := by
  unfold entry? at h
  split at h
  · exact absurd rfl h
  · rename_i hbase
    simpa using hbase

theorem entry?_put_self {d : Disk} {l : Location} (h : d.entry? l ≠ some .folder) (e : Entry) :
    Disk.entry? (d.put l e) l = some e := by
  simp [entry?_put, not_isBase_of_entry?_ne h]

theorem putIn_eq_self {l : Location} {e : Entry} {entries : List (Location × Entry)}
    (h : entries.lookup l = some e) : putIn l e entries = entries := by
  induction entries with
  | nil => cases h
  | cons p entries ih =>
    obtain ⟨l', e'⟩ := p
    by_cases hl : l' = l
    · subst hl
      simp only [List.lookup_cons, BEq.rfl, Option.some.injEq] at h
      simp [putIn, h]
    · rw [List.lookup_cons, beq_eq_false_iff_ne.2 (Ne.symm hl)] at h
      simp [putIn, hl, ih h]

/-- Putting an entry where it already is changes nothing. -/
theorem put_eq_self {d : Disk} {l : Location} {c : Content} (h : d.entry? l = some (.file c)) :
    d.put l (.file c) = d := by
  have hbase : isBase l = false := not_isBase_of_entry?_ne (d := d) (by simp [h])
  rw [ entry?, if_neg (by simp [hbase])] at h
  exact ext (putIn_eq_self h)

theorem lookup_filter (p : Location → Bool) (l : Location) (entries : List (Location × Entry)) :
    (entries.filter fun (l', _) => p l').lookup l = if p l then entries.lookup l else none := by
  induction entries with
  | nil => simp
  | cons q entries ih =>
    obtain ⟨l', e⟩ := q
    by_cases hl : l = l'
    · subst hl
      by_cases hp : p l
      · simp [hp]
      · simp [hp, ih]
    · have hne := beq_eq_false_iff_ne.2 hl
      by_cases hp : p l'
      · simp [hp, List.lookup_cons, hne, ih]
      · simp [hp, List.lookup_cons, hne, ih]

theorem entry?_keep (d : Disk) (p : Location → Bool) (l : Location) :
    Disk.entry? (d.keep p) l
      = if isBase l then some .folder else if p l then d.entry? l else none := by
  by_cases h : isBase l
  · simp [ entry?, h]
  · simp only [ entry?, keep, h, Bool.false_eq_true, if_false]
    exact lookup_filter p l d.entries

/-! ## Keeping -/

/-- Every folder of the first disk is one of the second, and both hold the same files outside of a
set of locations. -/
structure Keeps (S : Location → Prop) (d d' : Disk) : Prop where
  folder : ∀ {l}, d.entry? l = some .folder → d'.entry? l = some .folder
  file : ∀ {l c}, ¬ S l → ( d'.entry? l = some (.file c) ↔ d.entry? l = some (.file c))

namespace Keeps

variable {S S' : Location → Prop} {d d' d'' : Disk}

theorem refl (d : Disk) : Keeps S d d := ⟨id, fun _ => .rfl⟩

theorem trans (h : Keeps S d d') (h' : Keeps S d' d'') : Keeps S d d'' where
  folder hl := h'.folder (h.folder hl)
  file hl := (h'.file hl).trans (h.file hl)

/-- The disk after a run is the second part of what the run gives. -/
theorem of_eq {α : Type} {run : α × Disk} {result : α} (h : Keeps S d run.2)
    (heq : run = (result, d')) : Keeps S d d' := by
  rw [heq] at h
  exact h

theorem mono (h : Keeps S d d') (hS : ∀ l, S l → S' l) : Keeps S' d d' where
  folder := h.folder
  file hl := h.file fun hs => hl (hS _ hs)

theorem walk (h : Keeps S d d') {here l : Location} {segments : List String}
    (hl : d.walk here segments = .ok l) : d'.walk here segments = .ok l := by
  induction segments generalizing here with
  | nil => exact hl
  | cons segment rest ih =>
    obtain ⟨hfolder, next, hnext, hrest⟩ := walk_cons_eq_ok_iff.1 hl
    exact walk_cons_eq_ok_iff.2 ⟨h.folder hfolder, next, hnext, ih hrest⟩

theorem locate (h : Keeps S d d') {path : String} {l : Location} (hl : d.locate path = .ok l) :
    d'.locate path = .ok l := by
  unfold Disk.locate at hl ⊢
  split at hl
  · cases hl
  · rename_i hne
    rw [if_neg hne]
    split at hl
    · cases hl
    · rename_i hpath
      rw [if_neg hpath]
      exact h.walk hl

/-- Where only folders are missing, a path leads to the same place or to none. -/
theorem walk_before (h : Keeps (fun _ => False) d d') {here l : Location} {segments : List String}
    (hl : d'.walk here segments = .ok l) :
    d.walk here segments = .ok l ∨ d.walk here segments = .error .notFound := by
  induction segments generalizing here with
  | nil => exact .inl hl
  | cons segment rest ih =>
    obtain ⟨hfolder, next, hnext, hrest⟩ := walk_cons_eq_ok_iff.1 hl
    cases hhere : d.entry? here with
    | none => exact .inr (by rw [Disk.walk, hhere])
    | some e =>
      cases e with
      | folder =>
        rw [walk_of_step? hhere hnext]
        exact ih hrest
      | file content =>
        rw [(h.file id).2 hhere] at hfolder
        cases hfolder

theorem locate_before (h : Keeps (fun _ => False) d d') {path : String} {l : Location}
    (hl : d'.locate path = .ok l) : d.locate path = .ok l ∨ d.locate path = .error .notFound := by
  unfold Disk.locate at hl ⊢
  split_ifs at hl ⊢
  exact h.walk_before hl

end Keeps

/-! ## Reading -/

theorem find_eq_ok_iff {d : Disk} {path : String} {l : Location} {e : Entry} :
    d.find path = .ok (l, e) ↔ d.locate path = .ok l ∧ d.entry? l = some e := by
  unfold find
  cases d.locate path with
  | error e => simp
  | ok l' =>
    simp only [Except.ok.injEq]
    split
    · rename_i e' he'
      simp only [Except.ok.injEq, Prod.mk.injEq]
      constructor
      · rintro ⟨rfl, rfl⟩
        exact ⟨rfl, he'⟩
      · rintro ⟨rfl, he⟩
        rw [he', Option.some.injEq] at he
        exact ⟨rfl, he⟩
    · rename_i hnone
      simp only [reduceCtorEq, false_iff, not_and]
      rintro rfl
      simp [hnone]

theorem destination_of_find {d : Disk} {path : String} {l : Location} {e : Entry}
    (h : d.find path = .ok (l, e)) : destination path = some l :=
  destination_of_locate (find_eq_ok_iff.1 h).1

/-- A name in a folder that is found leads one step down. -/
theorem destination_join_of_find {d : Disk} {folder name : String} {l : Location} {e : Entry}
    (hname : Path.IsName name) (h : d.find folder = .ok (l, e)) :
    destination (Path.join folder name) = some (l.push name) := by
  rw [destination_join _ hname, destination_of_find h]
  rfl

theorem exists_of_read {d : Disk} {path : String} {c : Content} (h : d.read path = .ok c) :
    ∃ l, d.locate path = .ok l ∧ d.entry? l = some (.file c) := by
  unfold read at h
  split at h
  · rename_i l content hfind
    cases h
    exact ⟨l, find_eq_ok_iff.1 hfind⟩
  · cases h
  · cases h

theorem read_eq {d : Disk} {path : String} {l : Location} {c : Content}
    (hl : d.locate path = .ok l) (hc : d.entry? l = some (.file c)) : d.read path = .ok c := by
  simp [read, find, hl, hc]

theorem read_of_readText {d : Disk} {path text : String} (h : d.readText path = .ok text) :
    d.read path = .ok (.text text) := by
  unfold readText at h
  cases hread : d.read path with
  | error e => simp [hread] at h
  | ok c => cases c <;> simp_all [Content.text?]

theorem readText_of_read {d : Disk} {path text : String} (h : d.read path = .ok (.text text)) :
    d.readText path = .ok text := by
  simp [readText, h, Content.text?]

namespace Keeps

variable {S : Location → Prop} {d d' : Disk} {path : String}

/-- A folder that was found is found where folders are kept. -/
theorem find (h : Keeps S d d') {l : Location} (hf : d.find path = .ok (l, .folder)) :
    d'.find path = .ok (l, .folder) := by
  obtain ⟨hl, hentry⟩ := find_eq_ok_iff.1 hf
  exact find_eq_ok_iff.2 ⟨h.locate hl, h.folder hentry⟩

/-- A file that is kept is read as before. -/
theorem read (h : Keeps S d d') (hpath : ∀ l, destination path = some l → ¬ S l) {c : Content}
    (hc : d.read path = .ok c) : d'.read path = .ok c := by
  obtain ⟨l, hl, hc⟩ := exists_of_read hc
  exact read_eq (h.locate hl) ((h.file (hpath l (destination_of_locate hl))).2 hc)

theorem readText (h : Keeps S d d') (hpath : ∀ l, destination path = some l → ¬ S l)
    {text : String} (htext : d.readText path = .ok text) : d'.readText path = .ok text :=
  readText_of_read (h.read hpath (read_of_readText htext))

end Keeps

/-! ## Writing -/

theorem exists_of_write {d d' : Disk} {path : String} {c : Content}
    (h : d.write path c = .ok d') :
    ∃ l, d.locate path = .ok l ∧ d.entry? l ≠ some .folder ∧ d' = d.put l (.file c) := by
  unfold write at h
  split at h
  · cases h
  · rename_i l hl
    split at h
    · cases h
    · rename_i hfolder
      cases h
      exact ⟨l, hl, hfolder, rfl⟩

variable {S : Location → Prop}

theorem keeps_put_file {d : Disk} {l : Location} (hfolder : d.entry? l ≠ some .folder) (hl : S l)
    (c : Content) : Keeps S d (d.put l (.file c)) where
  folder {l'} hl' := by
    have hne : l' ≠ l := by
      rintro rfl
      exact hfolder hl'
    rw [entry?_put_of_ne hne, hl']
  file {l' c'} hl' := by
    have hne : l' ≠ l := by
      rintro rfl
      exact hl' hl
    rw [entry?_put_of_ne hne]

/-- A file that alone was changed or removed is put back. -/
theorem Keeps.put_back {d d' : Disk} {l : Location} {c : Content} (h : Keeps (· = l) d d')
    (hl : d.entry? l = some (.file c)) (hfile : d'.entry? l ≠ some .folder) :
    Keeps (fun _ => False) d (d'.put l (.file c)) := by
  have hput := keeps_put_file (S := (· = l)) hfile rfl c
  refine ⟨fun hfolder => hput.folder (h.folder hfolder), fun {l'} c' _ => ?_⟩
  by_cases heq : l' = l
  · subst heq
    rw [entry?_put_self hfile, hl]
  · exact (hput.file heq).trans (h.file heq)

theorem keeps_write {d d' : Disk} {path : String} {c : Content} (h : d.write path c = .ok d')
    (hpath : ∀ l, destination path = some l → S l) : Keeps S d d' := by
  obtain ⟨l, hl, hfolder, rfl⟩ := exists_of_write h
  exact keeps_put_file hfolder (hpath l (destination_of_locate hl)) c

theorem read_of_write {d d' : Disk} {path : String} {c : Content} (h : d.write path c = .ok d') :
    d'.read path = .ok c := by
  obtain ⟨l, hl, hfolder, rfl⟩ := exists_of_write h
  have hkeeps : Keeps (fun _ => True) d (d.put l (.file c)) := keeps_put_file hfolder trivial c
  exact read_eq (hkeeps.locate hl) (entry?_put_self hfolder _)

/-- A file that is written again as it is leaves the disk as it was. -/
theorem write_of_read {d : Disk} {path : String} {c : Content} (h : d.read path = .ok c) :
    d.write path c = .ok d := by
  obtain ⟨l, hl, hc⟩ := exists_of_read h
  simp [write, hl, hc, put_eq_self hc]

theorem keeps_keep_file {d : Disk} {l : Location} (hfolder : d.entry? l ≠ some .folder)
    (hl : S l) : Keeps S d (d.keep (· ≠ l)) where
  folder {l'} hl' := by
    have hne : l' ≠ l := by
      rintro rfl
      exact hfolder hl'
    simp [entry?_keep, hne, hl']
  file {l' c} hl' := by
    have hne : l' ≠ l := by
      rintro rfl
      exact hl' hl
    simp only [entry?_keep, hne, ne_eq, not_false_eq_true, decide_true, if_true]
    split
    · rename_i hbase
      simp [ entry?, hbase]
    · rfl

theorem exists_of_removeFile {d d' : Disk} {path : String} (h : d.removeFile path = .ok d') :
    ∃ l c, d.locate path = .ok l ∧ d.entry? l = some (.file c) ∧ d' = d.keep (· ≠ l) := by
  unfold removeFile at h
  split at h
  · rename_i l c hfind
    cases h
    obtain ⟨hl, hentry⟩ := find_eq_ok_iff.1 hfind
    exact ⟨l, c, hl, hentry, rfl⟩
  · cases h
  · cases h

theorem keeps_removeFile {d d' : Disk} {path : String} (h : d.removeFile path = .ok d')
    (hpath : ∀ l, destination path = some l → S l) : Keeps S d d' := by
  obtain ⟨l, c, hl, hentry, rfl⟩ := exists_of_removeFile h
  exact keeps_keep_file (by simp [hentry]) (hpath l (destination_of_locate hl))

/-! ## Making folders -/

theorem keeps_put_folder {d : Disk} {l : Location} (h : d.entry? l = none) :
    Keeps S d (d.put l .folder) where
  folder {l'} hl' := by
    have hne : l' ≠ l := by
      rintro rfl
      simp [h] at hl'
    rw [entry?_put_of_ne hne, hl']
  file {l' c} _ := by
    by_cases heq : l' = l
    · rw [heq, entry?_put_self (by simp [h]), h]
      simp
    · rw [entry?_put_of_ne heq]

/-- Making folders keeps every file, also where it stops halfway. -/
theorem keeps_makeFoldersFrom (d : Disk) (here : Location) (segments : List String) :
    Keeps S d (d.makeFoldersFrom here segments).2 := by
  induction segments generalizing d here with
  | nil => exact .refl d
  | cons segment rest ih =>
    unfold makeFoldersFrom
    split
    · exact ih d here
    · split
      · split
        · exact .refl d
        · exact ih d _
      · split
        · exact .refl d
        · simp only
          split
          · exact ih d _
          · exact .refl d
          · rename_i hnone
            exact (keeps_put_folder hnone).trans (ih _ _)

theorem keeps_makeFolders (d : Disk) (path : String) : Keeps S d (d.makeFolders path).2 := by
  unfold makeFolders
  split
  · exact .refl d
  · split
    · have hkeeps := keeps_makeFoldersFrom (S := S) d (start ((Path.parent? path).getD ""))
        (Path.segments ((Path.parent? path).getD ""))
      simp only
      split
      · rename_i heq
        rw [heq] at hkeeps
        split <;> exact hkeeps
      · exact hkeeps
    · exact keeps_makeFoldersFrom d _ _

/-- Folders that were made once are there for all disks that keep them. -/
theorem makeFoldersFrom_again {d d' d'' : Disk} {here : Location} {segments : List String}
    (h : d.makeFoldersFrom here segments = (.ok (), d')) (hkeeps : Keeps S d' d'') :
    d''.makeFoldersFrom here segments = (.ok (), d'') := by
  induction segments generalizing d here with
  | nil => rfl
  | cons segment rest ih =>
    unfold makeFoldersFrom at h ⊢
    split at h
    · rename_i hidle
      rw [if_pos hidle]
      exact ih h
    · rename_i hidle
      rw [if_neg hidle]
      split at h
      · rename_i hup
        rw [if_pos hup]
        split at h
        · cases h
        · rename_i hbase
          rw [if_neg hbase]
          exact ih h
      · rename_i hup
        rw [if_neg hup]
        split at h
        · cases h
        · rename_i hlength
          rw [if_neg hlength]
          -- Found or made, the folder is there in `d'`, as the rest of the run kept it.
          have hthere (d₁ : Disk) (hfolder : d₁.entry? (here.push segment) = some .folder)
              (h : d₁.makeFoldersFrom (here.push segment) rest = (.ok (), d')) :
              d''.entry? (here.push segment) = some .folder := by
            have hmade := keeps_makeFoldersFrom (S := S) d₁ (here.push segment) rest
            rw [h] at hmade
            exact hkeeps.folder (hmade.folder hfolder)
          simp only at h ⊢
          split at h
          · rename_i hfolder
            rw [hthere d hfolder h]
            exact ih h
          · cases h
          · rename_i hnone
            rw [hthere _ (entry?_put_self (by simp [hnone]) _) h]
            exact ih h

theorem makeFolders_again {d d' d'' : Disk} {path : String}
    (h : d.makeFolders path = (.ok (), d')) (hkeeps : Keeps S d' d'') :
    d''.makeFolders path = (.ok (), d'') := by
  unfold makeFolders at h ⊢
  split at h
  · cases h
  · rename_i hpath
    rw [if_neg hpath]
    split at h
    · rename_i hdot
      rw [if_pos hdot]
      simp only at h ⊢
      split at h
      · rename_i d₁ hmade
        split at h
        · rename_i l hfind
          cases h
          rw [makeFoldersFrom_again hmade hkeeps]
          simp only [hkeeps.find hfind]
        · cases h
        · cases h
      · rename_i hfailed
        rw [h] at hfailed
        exact absurd rfl (hfailed d')
    · rename_i hdot
      rw [if_neg hdot]
      exact makeFoldersFrom_again h hkeeps

end MasterData.Disk
