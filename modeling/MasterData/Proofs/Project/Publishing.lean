-- SUMMARY: What publishing files does, as a whole.
import MasterData.Proofs.Disk.Listing
import MasterData.Proofs.Project.Compile

/-! # Publishing as a whole

Publishing a list of files makes an account that depends only on the texts that stand at their places
before, and every file of the list is there at the end, as no two have one place. Main statements:
`addAll_apply_cases`, `readText_of_addAll` and `addAll_of_current`.
-/

namespace MasterData

/-! ## Places of files -/

/-- The text that is read under a name in a folder, if one is. -/
def Disk.currentText (d : Disk) (folder name : String) : Option String :=
  (d.readText (Path.join folder name)).toOption

theorem Disk.currentText_eq_some_iff {d : Disk} {folder name text : String} :
    d.currentText folder name = some text ↔ d.readText (Path.join folder name) = .ok text := by
  unfold currentText
  cases d.readText (Path.join folder name) <;> simp [Except.toOption]

/-- The location of a file that has one of some names in a folder. -/
def Disk.IsPlace (folder : String) (names : List String) (l : Location) : Prop :=
  ∃ name ∈ names, Disk.destination (Path.join folder name) = some l

/-- Files with names of their own, each with its text. -/
structure AreOutputs (files : List (String × String)) : Prop where
  isName : ∀ file ∈ files, Path.IsName file.1
  nodup : (files.map (·.1)).Nodup

theorem AreOutputs.tail {file : String × String} {files : List (String × String)}
    (h : AreOutputs (file :: files)) : AreOutputs files :=
  ⟨fun f hf => h.isName f (List.mem_cons_of_mem _ hf), (List.nodup_cons.1 h.nodup).2⟩

theorem AreOutputs.left {before after : List (String × String)} (h : AreOutputs (before ++ after)) :
    AreOutputs before where
  isName file hfile := h.isName file (List.mem_append_left _ hfile)
  nodup := by
    have hnodup := h.nodup
    rw [List.map_append] at hnodup
    exact (List.nodup_append.1 hnodup).1

namespace Disk

variable {d d' : Disk} {folder name : String} {names : List String}

/-- A name that is not among those of some files is not at their places. -/
theorem not_isPlace (hname : Path.IsName name) (hnames : ∀ n ∈ names, Path.IsName n)
    (hnot : name ∉ names) {l : Location} (hl : destination (Path.join folder name) = some l) :
    ¬ IsPlace folder names l := by
  rintro ⟨name', hmem, hl'⟩
  rw [name_eq_of_destination_join hname (hnames name' hmem) hl hl'] at hnot
  exact hnot hmem

theorem IsPlace.inFolder (hnames : ∀ n ∈ names, Path.IsName n) {l : Location}
    (h : IsPlace folder names l) : InFolder folder l := by
  obtain ⟨name, hmem, hl⟩ := h
  exact ⟨name, hnames name hmem, hl⟩

/-- Files with names of their own keep the names of files without slashes. -/
theorem HasNamedFiles.of_keeps_isPlace (hd : d.HasNamedFiles folder)
    (hnames : ∀ n ∈ names, Path.IsName n) (h : Keeps (IsPlace folder names) d d') :
    d'.HasNamedFiles folder := by
  refine hd.of_keeps h fun f name hf hplace => ?_
  obtain ⟨name', hmem, hl⟩ := hplace
  rw [destination_join _ (hnames name' hmem), hf, Option.map_some, Option.some.injEq,
    Array.push_eq_push] at hl
  rw [← hl.1]
  exact (hnames name' hmem).no_slash

theorem InFolder.destination_eq {l : Location} (h : InFolder folder l) :
    destination folder = some l.pop := by
  obtain ⟨name, hname, hl⟩ := h
  rw [destination_join _ hname, Option.map_eq_some_iff] at hl
  obtain ⟨f, hf, rfl⟩ := hl
  rw [hf, Array.pop_push]

/-- On a tree whose folder is reached, files at other places do not change what is read under a name:
what is read later was there before, in a folder that was found before. -/
theorem currentText_of_keeps (hd : d.IsTree) (hreach : d.Reaches folder) (hfolder : folder ≠ "")
    (hnames : ∀ n ∈ names, Path.IsName n) (h : Keeps (IsPlace folder names) d d')
    (hname : Path.IsName name) (hnot : name ∉ names) :
    d'.currentText folder name = d.currentText folder name := by
  have hplace {l : Location} (hl : destination (Path.join folder name) = some l) :
      ¬ IsPlace folder names l := not_isPlace hname hnames hnot hl
  refine Option.ext fun text => ?_
  rw [currentText_eq_some_iff, currentText_eq_some_iff]
  constructor
  · intro hread
    obtain ⟨l, hl, hentry⟩ := readText_eq_ok_iff.1 hread
    obtain ⟨hpath, hlength, f, hfind, rfl⟩ := (locate_join_eq_ok_iff hname hfolder).1 hl
    have hentry' := (h.file (hplace (destination_of_locate hl))).1 hentry
    have hparent := hd.entry?_pop hentry'
    rw [Array.pop_push] at hparent
    have hfound := hreach f (destination_of_find hfind) hparent
    exact readText_eq_ok_iff.2
      ⟨_, (locate_join_eq_ok_iff hname hfolder).2 ⟨hpath, hlength, f, hfound, rfl⟩, hentry'⟩
  · intro hread
    exact h.readText (fun _ hl => hplace hl) hread

end Disk

/-! ## The account -/

namespace Published

variable {folder : String} {p p' : Published} {d d' : Disk} {files : List (String × String)}

/-- The account with one more file, given the text that stands in its place. -/
def note (p : Published) (folder name text : String) (current : Option String) : Published :=
  let names := name :: p.names
  if current = some text then { p with names, unchanged := p.unchanged + 1 }
  else { p with names, changed := p.changed ++ [Path.join folder name] }

/-- The account with more files, given the texts that stand in their places. -/
def noteAll (folder : String) (current : String → Option String) :
    List (String × String) → Published → Published
  | [], p => p
  | (name, text) :: rest, p => noteAll folder current rest (p.note folder name text (current name))

theorem names_note (p : Published) (folder name text : String) (current : Option String) :
    (p.note folder name text current).names = name :: p.names := by
  unfold note
  split <;> rfl

theorem names_noteAll (folder : String) (current : String → Option String)
    (files : List (String × String)) (p : Published) :
    (noteAll folder current files p).names = (files.map (·.1)).reverse ++ p.names := by
  induction files generalizing p with
  | nil => rfl
  | cons file rest ih => simp [noteAll, ih, names_note]

theorem add_check (p : Published) (folder name text : String) (d : Disk) :
    p.add .check folder name text d
      = (.ok (p.note folder name text (d.currentText folder name)), d) := by
  unfold add note Disk.currentText
  simp only
  split <;> rfl

theorem addAll_check (folder : String) (files : List (String × String)) (p : Published) (d : Disk) :
    addAll .check folder files p d = (.ok (noteAll folder (d.currentText folder) files p), d) := by
  induction files generalizing p with
  | nil => rfl
  | cons file rest ih =>
    rw [addAll_cons, add_check]
    exact ih _

theorem exists_of_writeText {path text : String} {e : ProjectError}
    (h : writeText d path text = (.error e, d')) : ∃ path, e = .system path := by
  unfold writeText at h
  simp only at h
  split at h
  · cases h
    exact ⟨_, rfl⟩
  · split at h
    · cases h
    · cases h
      exact ⟨_, rfl⟩

/-- Publishing a file makes the account that comparing it makes, unless the system refuses. -/
theorem add_apply_cases (p : Published) (folder name text : String) (d : Disk) :
    (∃ d', p.add .apply folder name text d
        = (.ok (p.note folder name text (d.currentText folder name)), d'))
      ∨ ∃ path d', p.add .apply folder name text d = (.error (.system path), d') := by
  unfold add note Disk.currentText
  simp only
  split
  · exact .inl ⟨d, rfl⟩
  · split
    · rename_i d' hwritten
      exact .inl ⟨d', rfl⟩
    · rename_i e d' hwritten
      obtain ⟨path, rfl⟩ := exists_of_writeText hwritten
      exact .inr ⟨path, d', rfl⟩

theorem system_of_addAll {e : ProjectError}
    (h : addAll .apply folder files p d = (.error e, d')) : ∃ path, e = .system path := by
  induction files generalizing p d with
  | nil => cases h
  | cons file rest ih =>
    rw [addAll_cons] at h
    rcases add_apply_cases p folder file.1 file.2 d with ⟨d₁, hadd⟩ | ⟨path, d₁, hadd⟩
    · rw [hadd] at h
      exact ih h
    · rw [hadd] at h
      cases h
      exact ⟨path, rfl⟩

/-- Publishing files makes the account that comparing them with the disk of before makes, unless the
system refuses: no file that was written stands in the place of one that is still to come. -/
theorem addAll_apply_cases {original : Disk} (hd : original.IsTree)
    (hreach : original.Reaches folder) (hfolder : folder ≠ "") (written : List String)
    (hwritten : ∀ n ∈ written, Path.IsName n)
    (hkeeps : Disk.Keeps (Disk.IsPlace folder written) original d) (hfiles : AreOutputs files)
    (hnew : ∀ file ∈ files, file.1 ∉ written) (p : Published) :
    (∃ d', addAll .apply folder files p d
        = (.ok (noteAll folder (original.currentText folder) files p), d'))
      ∨ ∃ path d', addAll .apply folder files p d = (.error (.system path), d') := by
  induction files generalizing p d written with
  | nil => exact .inl ⟨d, rfl⟩
  | cons file rest ih =>
    obtain ⟨name, text⟩ := file
    have hname : Path.IsName name := hfiles.isName _ (List.mem_cons_self ..)
    have hcurrent : d.currentText folder name = original.currentText folder name :=
      Disk.currentText_of_keeps hd hreach hfolder hwritten hkeeps hname
        (hnew _ (List.mem_cons_self ..))
    have hadded := keeps_add (S := Disk.IsPlace folder (name :: written)) .apply folder name text p d
      fun l hl => ⟨name, List.mem_cons_self .., hl⟩
    rw [addAll_cons]
    rcases add_apply_cases p folder name text d with ⟨d₁, hadd⟩ | ⟨path, d₁, hadd⟩
    · rw [hadd] at hadded ⊢
      rw [hcurrent]
      refine ih (name :: written) ?_ ?_ hfiles.tail ?_ _
      · simpa [hname] using hwritten
      · refine Disk.Keeps.trans (hkeeps.mono fun l hl => ?_) hadded
        obtain ⟨n, hn, hl⟩ := hl
        exact ⟨n, List.mem_cons_of_mem _ hn, hl⟩
      · intro file hfile hmem
        rcases List.mem_cons.1 hmem with heq | hmem
        · have hnodup := (List.nodup_cons.1 hfiles.nodup).1
          exact hnodup (List.mem_map.2 ⟨file, hfile, heq⟩)
        · exact hnew file (List.mem_cons_of_mem _ hfile) hmem
    · rw [hadd]
      exact .inr ⟨path, d₁, rfl⟩

/-! ## Published files -/

theorem keeps_addAll_isPlace (mode : WriteMode) (folder : String) (files : List (String × String))
    (p : Published) (d : Disk) :
    Disk.Keeps (Disk.IsPlace folder (files.map (·.1))) d (addAll mode folder files p d).2 :=
  keeps_addAll mode folder files
    (fun file hfile _ hl => ⟨file.1, List.mem_map_of_mem hfile, hl⟩) p d

theorem names_of_addAll (h : addAll .apply folder files p d = (.ok p', d')) :
    p'.names = (files.map (·.1)).reverse ++ p.names := by
  induction files generalizing p d with
  | nil =>
    cases h
    rfl
  | cons file rest ih =>
    rw [addAll_cons] at h
    rcases add_apply_cases p folder file.1 file.2 d with ⟨d₁, hadd⟩ | ⟨path, d₁, hadd⟩
    · rw [hadd] at h
      simp [ih h, names_note]
    · rw [hadd] at h
      cases h

/-- Every file of a run is there at its end: no later file takes its place. -/
theorem readText_of_addAll (hfiles : AreOutputs files)
    (h : addAll .apply folder files p d = (.ok p', d')) :
    ∀ file ∈ files, d'.readText (Path.join folder file.1) = .ok file.2 := by
  induction files generalizing p d with
  | nil => simp
  | cons file rest ih =>
    rw [addAll_cons] at h
    split at h
    · rename_i p₁ d₁ hadd
      intro f hf
      rcases List.mem_cons.1 hf with rfl | hf
      · have hkeeps := keeps_addAll_isPlace .apply folder rest p₁ d₁
        rw [h] at hkeeps
        refine hkeeps.readText (fun l hl => ?_) (readText_of_add hadd)
        have hnames : ∀ n ∈ rest.map (·.1), Path.IsName n := by
          simpa using fun n text hmem => hfiles.tail.isName (n, text) hmem
        exact Disk.not_isPlace (hfiles.isName _ (List.mem_cons_self ..)) hnames
          (List.nodup_cons.1 hfiles.nodup).1 hl
      · exact ih hfiles.tail h f hf
    · cases h

/-- A file that is there is published without a change, in both modes. -/
theorem add_of_current {name text : String} (mode : WriteMode) (p : Published)
    (h : d.readText (Path.join folder name) = .ok text) :
    p.add mode folder name text d = (.ok ⟨name :: p.names, p.changed, p.unchanged + 1⟩, d) := by
  have hcurrent : (d.readText (Path.join folder name)).toOption = some text := by
    rw [h]
    rfl
  rw [add, if_pos hcurrent]

theorem addAll_of_current (mode : WriteMode) (p : Published)
    (h : ∀ file ∈ files, d.readText (Path.join folder file.1) = .ok file.2) :
    addAll mode folder files p d
      = (.ok ⟨(files.map (·.1)).reverse ++ p.names, p.changed, p.unchanged + files.length⟩, d) := by
  induction files generalizing p with
  | nil => rfl
  | cons file rest ih =>
    rw [addAll_cons, add_of_current mode p (h file (List.mem_cons_self ..))]
    simp only
    rw [ih _ fun f hf => h f (List.mem_cons_of_mem _ hf)]
    simp only [List.map_cons, List.reverse_cons, List.append_assoc, List.singleton_append,
      List.length_cons]
    congr 3
    omega

/-- A file that can be located is written if it does not have its text. -/
theorem add_of_locate {name text : String} (p : Published) (hname : Path.IsName name)
    (hfolder : folder ≠ "") {l : Location} (hl : d.locate (Path.join folder name) = .ok l)
    (hfile : d.entry? l ≠ some .folder) (h : d.readText (Path.join folder name) ≠ .ok text) :
    p.add .apply folder name text d
      = (.ok ⟨name :: p.names, p.changed ++ [Path.join folder name], p.unchanged⟩,
          d.put l (.file (.text text))) := by
  have hcurrent : (d.readText (Path.join folder name)).toOption ≠ some text :=
    fun heq => h (Disk.currentText_eq_some_iff.1 heq)
  have hwrite : d.write (Path.join folder name) (.text text)
      = .ok (d.put l (.file (.text text))) := by
    unfold Disk.write
    rw [hl]
    simp only
  have hwritten : writeText d (Path.join folder name) text
      = (.ok (), d.put l (.file (.text text))) := by
    unfold writeText
    simp only
    rw [Disk.makeFolders_parent hname hfolder hl]
    simp only [hwrite]
  rw [add, if_neg hcurrent]
  simp only [hwritten]

theorem addAll_append (mode : WriteMode) (folder : String) (before after : List (String × String))
    (p : Published) (d : Disk) :
    addAll mode folder (before ++ after) p d
      = match addAll mode folder before p d with
        | (.error e, d) => (.error e, d)
        | (.ok p, d) => addAll mode folder after p d := by
  induction before generalizing p d with
  | nil => rfl
  | cons file rest ih =>
    rw [List.cons_append, addAll_cons, addAll_cons]
    cases hadd : p.add mode folder file.1 file.2 d with
    | mk result d₁ =>
      cases result with
      | error e => rfl
      | ok p₁ => exact ih p₁ d₁

end Published

end MasterData
