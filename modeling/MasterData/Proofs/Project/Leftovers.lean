-- SUMMARY: Which generated files in a folder are left over, and what pruning them does.
import MasterData.Proofs.Project.Publishing

/-! # Leftovers

The leftovers that are found in a folder are the names there that are read as generated source and that
the account does not know, in order. Pruning removes them and nothing else. Main statements:
`exists_of_leftovers` and `hasMarked_iff_of_removeFiles`.
-/

namespace MasterData

/-- The name of a file in a folder that is read as generated source. -/
def Disk.HasMarked (d : Disk) (folder name : String) : Prop :=
  Path.IsName name ∧ Path.extensionOf? name = some Published.sourceExtension
    ∧ ∃ text, d.readText (Path.join folder name) = .ok text ∧ Code.isGenerated text

/-- Changes outside of a folder keep what is marked in it. -/
theorem Disk.Keeps.hasMarked_iff {S : Location → Prop} {d d' : Disk} {folder : String} {f : Location}
    (h : Disk.Keeps S d d') (hf : d.find folder = .ok (f, .folder))
    (hS : ∀ l, S l → ¬ Disk.InFolder folder l) (name : String) :
    d'.HasMarked folder name ↔ d.HasMarked folder name := by
  unfold Disk.HasMarked
  refine and_congr_right fun hname => and_congr_right fun _ => exists_congr fun text =>
    and_congr_left fun _ => ?_
  have hplace := Disk.destination_join_of_find hname hf
  rw [Disk.readText_join_eq_ok_iff hname hf, Disk.readText_join_eq_ok_iff hname (h.find hf),
    h.file fun hin => hS _ hin ⟨name, hname, hplace⟩]

namespace Published

variable {folder : String} {p p' : Published} {d d' : Disk} {files : List (String × String)}
  {paths : List String}

theorem isName_of_extensionOf? {name : String} (hslash : '/' ∉ name.toList)
    (h : Path.extensionOf? name = some sourceExtension) : Path.IsName name := by
  refine Path.isName_of_lt_length hslash ?_
  have hlength := (suffix_of_extensionOf? h).length_le
  have : sourceEnding.length = 3 := rfl
  omega

theorem isLeftover_iff {name : String} (hslash : '/' ∉ name.toList) :
    p.isLeftover folder d name ↔ d.HasMarked folder name ∧ name ∉ p.names := by
  simp only [isLeftover, Bool.and_eq_true, decide_eq_true_eq, Bool.not_eq_true',
    List.contains_eq_mem, decide_eq_false_iff_not, Option.any_eq_true]
  constructor
  · rintro ⟨⟨hextension, hnot⟩, text, htext, hmark⟩
    exact ⟨⟨isName_of_extensionOf? hslash hextension, hextension, text,
      Disk.currentText_eq_some_iff.1 htext, hmark⟩, hnot⟩
  · rintro ⟨⟨-, hextension, text, htext, hmark⟩, hnot⟩
    exact ⟨⟨hextension, hnot⟩, text, Disk.currentText_eq_some_iff.2 htext, hmark⟩

/-- The leftovers in a folder are the marked names that the account does not know, in order. -/
theorem exists_of_leftovers (hd : d.HasNamedFiles folder) (hfolder : folder ≠ "")
    (h : p.leftovers folder d = .ok paths) :
    ∃ names : List String, paths = names.map (Path.join folder) ∧ names.Pairwise (· < ·)
      ∧ ∀ name, name ∈ names ↔ d.HasMarked folder name ∧ name ∉ p.names := by
  have hfind {name : String} (hmarked : d.HasMarked folder name) :
      ∃ f c, d.find folder = .ok (f, .folder) ∧ d.entry? (f.push name) = some (.file c) := by
    obtain ⟨hname, -, text, htext, -⟩ := hmarked
    obtain ⟨l, hl, hentry⟩ := Disk.readText_eq_ok_iff.1 htext
    obtain ⟨-, -, f, hf, rfl⟩ := (Disk.locate_join_eq_ok_iff hname hfolder).1 hl
    exact ⟨f, _, hf, hentry⟩
  unfold leftovers at h
  split at h
  · -- A folder that does not exist holds no marked file either.
    rename_i hmissing
    rw [Except.ok.injEq] at h
    subst h
    refine ⟨[], rfl, .nil, fun name => ⟨fun hmem => absurd hmem List.not_mem_nil, ?_⟩⟩
    rintro ⟨hmarked, -⟩
    obtain ⟨f, c, hf, -⟩ := hfind hmarked
    simp [Disk.doesExist, hf] at hmissing
  · split at h
    · cases h
    · rename_i entries hlist
      rw [Except.ok.injEq] at h
      subst h
      obtain ⟨f, hf⟩ := Disk.exists_find_of_list hlist
      obtain ⟨entries', hlist', hnodup, hfiles⟩ := Disk.exists_list hf
      obtain rfl := Except.ok.inj (hlist.symm.trans hlist')
      refine ⟨_, rfl, Disk.pairwise_selectFiles (p.isLeftover folder d) hnodup, fun name => ?_⟩
      rw [leftoverNames]
      refine Disk.mem_selectFiles.trans ?_
      constructor
      · rintro ⟨hleft, c, hmem⟩
        have hslash := hd f name c (Disk.destination_of_find hf) ((hfiles name c).1 hmem)
        exact (isLeftover_iff hslash).1 hleft
      · rintro ⟨hmarked, hnot⟩
        obtain ⟨f', c, hf', hentry⟩ := hfind hmarked
        obtain ⟨rfl, -⟩ := Prod.mk.inj (Except.ok.inj (hf.symm.trans hf'))
        exact ⟨(isLeftover_iff hmarked.1.no_slash).2 ⟨hmarked, hnot⟩, c, (hfiles name c).2 hentry⟩

/-- Accounts that know the same names find the same leftovers where the same names are marked. -/
theorem leftovers_congr {paths' : List String} (hd : d.HasNamedFiles folder)
    (hd' : d'.HasNamedFiles folder) (hfolder : folder ≠ "") (h : p.leftovers folder d = .ok paths)
    (h' : p'.leftovers folder d' = .ok paths')
    (hmarked : ∀ name, (d.HasMarked folder name ∧ name ∉ p.names)
      ↔ d'.HasMarked folder name ∧ name ∉ p'.names) : paths = paths' := by
  obtain ⟨names, rfl, hsorted, hmem⟩ := exists_of_leftovers hd hfolder h
  obtain ⟨names', rfl, hsorted', hmem'⟩ := exists_of_leftovers hd' hfolder h'
  rw [hsorted.eq_of_mem_iff hsorted' fun name => by rw [hmem, hmem', hmarked]]

theorem leftovers_eq_ok {f : Location} (h : d.find folder = .ok (f, .folder)) :
    ∃ paths, p.leftovers folder d = .ok paths := by
  obtain ⟨entries, hlist, -⟩ := Disk.exists_list h
  have hexists : d.doesExist folder = true := by simp [Disk.doesExist, h]
  exact ⟨_, by rw [leftovers, hexists, hlist]; rfl⟩

theorem system_of_leftovers {e : ProjectError} (h : p.leftovers folder d = .error e) :
    e = .system folder ∧ ∃ l c, d.find folder = .ok (l, .file c) := by
  unfold leftovers at h
  split at h
  · cases h
  · rename_i hexists
    split at h
    · rename_i hlist
      cases h
      refine ⟨rfl, ?_⟩
      unfold Disk.list at hlist
      split at hlist
      · cases hlist
      · exact ⟨_, _, by assumption⟩
      · rename_i hfind
        simp [Disk.doesExist, hfind] at hexists
    · cases h

/-! ## Pruning -/

theorem prune_check (folder : String) (p : Published) (d : Disk) :
    p.prune .check folder d = (p.leftovers folder d, d) := by
  unfold prune
  cases p.leftovers folder d <;> rfl

/-- Pruning gives the leftovers and removes them, unless the system refuses. -/
theorem prune_apply_cases (folder : String) (p : Published) (d : Disk) :
    (∃ paths d', p.leftovers folder d = .ok paths ∧ removeFiles paths d = (.ok (), d')
        ∧ p.prune .apply folder d = (.ok paths, d'))
      ∨ ∃ path d', p.prune .apply folder d = (.error (.system path), d') := by
  unfold prune
  cases hleft : p.leftovers folder d with
  | error e =>
    obtain ⟨rfl, -⟩ := system_of_leftovers hleft
    exact .inr ⟨folder, d, rfl⟩
  | ok paths =>
    have hfails : ∀ (paths : List String) (d d' : Disk) e, removeFiles paths d = (.error e, d') →
        ∃ path, e = .system path := by
      intro paths
      induction paths with
      | nil => exact fun d d' e h => by cases h
      | cons path rest ih =>
        intro d d' e h
        rw [removeFiles_cons] at h
        split at h
        · exact ih _ _ _ h
        · cases h
          exact ⟨path, rfl⟩
    cases hremoved : removeFiles paths d with
    | mk result d' =>
      cases result with
      | error e =>
        obtain ⟨path, rfl⟩ := hfails _ _ _ _ hremoved
        exact .inr ⟨path, d', by simp [hremoved]⟩
      | ok u => exact .inl ⟨paths, d', rfl, hremoved, by simp [hremoved]⟩

theorem prune_of_no_leftovers (mode : WriteMode) (h : p.leftovers folder d = .ok []) :
    p.prune mode folder d = (.ok [], d) := by
  unfold prune
  rw [h]
  cases mode <;> rfl

theorem keeps_removeFiles_isPlace {names : List String}
    (h : removeFiles (names.map (Path.join folder)) d = (.ok (), d')) :
    Disk.Keeps (Disk.IsPlace folder names) d d' := by
  have hplaces : ∀ path ∈ names.map (Path.join folder), ∀ l, Disk.destination path = some l →
      Disk.IsPlace folder names l := by
    intro path hpath l hl
    obtain ⟨name, hname, rfl⟩ := List.mem_map.1 hpath
    exact ⟨name, hname, hl⟩
  exact (keeps_removeFiles hplaces).of_eq h

/-- A file that is removed is gone, and nothing else comes in its place. -/
theorem entry?_of_removeFiles (h : removeFiles paths d = (.ok (), d')) {l : Location}
    (hl : d.entry? l = none ∨ ∃ path ∈ paths, Disk.destination path = some l) :
    d'.entry? l = none := by
  induction paths generalizing d with
  | nil =>
    cases h
    simpa using hl
  | cons path rest ih =>
    rw [removeFiles_cons] at h
    split at h
    · rename_i d₁ hremoved
      obtain ⟨l', c, hlocate, hentry, rfl⟩ := Disk.exists_of_removeFile hremoved
      have hl' := Disk.destination_of_locate hlocate
      have hbase : Disk.isBase l' = false :=
        Disk.not_isBase_of_entry?_ne (d := d) (by simp [hentry])
      refine ih h ?_
      rw [Disk.entry?_keep]
      rcases hl with hnone | ⟨path', hmem, hpath'⟩
      · have : Disk.isBase l = false := Disk.not_isBase_of_entry?_ne (d := d) (by simp [hnone])
        simp [this, hnone]
      · rcases List.mem_cons.1 hmem with rfl | hmem
        · obtain rfl := Option.some.inj (hpath'.symm.trans hl')
          simp [hbase]
        · exact .inr ⟨path', hmem, hpath'⟩
    · cases h

/-- Behind the removal of some names, a name is marked if it was before and is not one of them. -/
theorem hasMarked_iff_of_removeFiles {names : List String} {f : Location}
    (hnames : ∀ n ∈ names, Path.IsName n)
    (hf : d.find folder = .ok (f, .folder))
    (h : removeFiles (names.map (Path.join folder)) d = (.ok (), d')) (name : String) :
    d'.HasMarked folder name ↔ d.HasMarked folder name ∧ name ∉ names := by
  have hkeeps := keeps_removeFiles_isPlace h
  have hplace (hname : Path.IsName name) := Disk.destination_join_of_find hname hf
  have hread (hname : Path.IsName name) (text : String) :
      d'.readText (Path.join folder name) = .ok text
        ↔ d.readText (Path.join folder name) = .ok text ∧ name ∉ names := by
    rw [Disk.readText_join_eq_ok_iff hname hf, Disk.readText_join_eq_ok_iff hname (hkeeps.find hf)]
    by_cases hmem : name ∈ names
    · have hgone := entry?_of_removeFiles h (l := f.push name)
        (.inr ⟨_, List.mem_map_of_mem hmem, hplace hname⟩)
      simp [hgone, hmem]
    · rw [hkeeps.file (Disk.not_isPlace hname hnames hmem (hplace hname))]
      simp [hmem]
  unfold Disk.HasMarked
  constructor
  · rintro ⟨hname, hextension, text, htext, hmark⟩
    obtain ⟨htext, hnot⟩ := (hread hname text).1 htext
    exact ⟨⟨hname, hextension, text, htext, hmark⟩, hnot⟩
  · rintro ⟨⟨hname, hextension, text, htext, hmark⟩, hnot⟩
    exact ⟨hname, hextension, text, (hread hname text).2 ⟨htext, hnot⟩, hmark⟩

end Published

end MasterData
