-- SUMMARY: Names in a folder: where they lead and which of them a listing gives.
import Mathlib.Data.List.Sort
import MasterData.Proofs.Disk.Frame

/-! # Names in folders

A name in a folder leads somewhere exactly if the folder is found, and then one step down from it. The
files that a listing of the folder gives are the files there. On a disk that is a tree, as systems keep
them, whatever is below a folder that is not there is not there either. Main statements:
`locate_join_eq_ok_iff`, `mem_selectFiles`, `selectFiles_congr` and `IsTree.reaches`.
-/

namespace MasterData.Disk

variable {d d' : Disk} {folder name : String} {f l : Location}

/-! ## Locating -/

theorem walk_append {here : Location} (before after : List String) :
    d.walk here (before ++ after) = .ok l
      ↔ ∃ middle, d.walk here before = .ok middle ∧ d.walk middle after = .ok l := by
  induction before generalizing here with
  | nil => simp [walk]
  | cons segment rest ih =>
    simp only [List.cons_append, walk_cons_eq_ok_iff, ih]
    constructor
    · rintro ⟨hfolder, next, hnext, middle, hrest, hafter⟩
      exact ⟨middle, ⟨hfolder, next, hnext, hrest⟩, hafter⟩
    · rintro ⟨middle, ⟨hfolder, next, hnext, hrest⟩, hafter⟩
      exact ⟨hfolder, next, hnext, middle, hrest, hafter⟩

theorem walk_name_eq_ok_iff {here : Location} (hname : Path.IsName name) :
    d.walk here [name] = .ok l
      ↔ d.entry? here = some .folder ∧ name.utf8ByteSize ≤ longestName ∧ l = here.push name := by
  rw [walk_cons_eq_ok_iff, step?]
  simp only [hname.not_idle, hname.ne_up, Bool.false_eq_true, if_false, walk]
  by_cases hlength : longestName < name.utf8ByteSize
  · simp [hlength, Nat.not_le.2 hlength]
  · simp [hlength, Nat.le_of_not_lt hlength, eq_comm]

theorem walk_empty_eq_ok_iff {here : Location} :
    d.walk here [""] = .ok l ↔ d.entry? here = some .folder ∧ l = here := by
  rw [walk_cons_eq_ok_iff]
  constructor
  · rintro ⟨hfolder, next, hnext, hrest⟩
    cases hnext
    cases hrest
    exact ⟨hfolder, rfl⟩
  · rintro ⟨hfolder, rfl⟩
    exact ⟨hfolder, l, rfl, rfl⟩

theorem eq_of_walk_idle {here : Location} {idle : List String}
    (hidle : ∀ segment ∈ idle, Path.isIdle segment) (h : d.walk here idle = .ok l) : l = here := by
  induction idle with
  | nil =>
    cases h
    rfl
  | cons segment rest ih =>
    obtain ⟨-, next, hnext, hrest⟩ := walk_cons_eq_ok_iff.1 h
    rw [step?, if_pos (hidle segment (List.mem_cons_self ..)), Option.some.injEq] at hnext
    subst hnext
    exact ih (fun s hs => hidle s (List.mem_cons_of_mem _ hs)) hrest

theorem locate_eq_ok_iff {path : String} :
    d.locate path = .ok l
      ↔ path ≠ "" ∧ isPath path ∧ d.walk (start path) (Path.segments path) = .ok l := by
  unfold locate
  split
  · simp_all
  · split <;> simp_all

theorem isPath_of_append {path tail : String} (h : isPath (path ++ tail)) : isPath path := by
  simp only [isPath, Bool.and_eq_true, Bool.not_eq_true', decide_eq_true_eq, String.toList_append,
    List.contains_eq_mem, List.mem_append, decide_eq_false_iff_not, not_or,
    String.utf8ByteSize_append] at h ⊢
  exact ⟨h.1.1, by omega⟩

theorem isPath_of_join (hslash : '/' ∉ name.toList) (hfolder : folder ≠ "")
    (h : isPath (Path.join folder name)) : isPath folder := by
  rw [Path.join, Path.not_isAbsolute_of_no_slash hslash] at h
  simp only [Bool.false_eq_true, hfolder, or_self, if_false] at h
  split at h
  · exact isPath_of_append h
  · rw [String.append_assoc] at h
    exact isPath_of_append h

/-- A name in a folder leads one step down from the folder, provided that this is found. -/
theorem locate_join_eq_ok_iff (hname : Path.IsName name) (hfolder : folder ≠ "") :
    d.locate (Path.join folder name) = .ok l
      ↔ isPath (Path.join folder name) ∧ name.utf8ByteSize ≤ longestName
        ∧ ∃ f, d.find folder = .ok (f, .folder) ∧ l = f.push name := by
  obtain ⟨before, -, hjoined, hbefore⟩ := Path.segments_join hname.no_slash hfolder
  -- The folder is found where its segments lead to, with or without a slash behind them.
  have hfind (f : Location) (hpath : isPath folder) :
      d.find folder = .ok (f, .folder)
        ↔ d.walk (start folder) before = .ok f ∧ d.entry? f = some .folder := by
    rw [find_eq_ok_iff, locate_eq_ok_iff]
    rcases hbefore with hbefore | hbefore
    · simp [hfolder, hpath, hbefore]
    · simp only [ne_eq, hfolder, not_false_eq_true, hpath, hbefore, walk_append,
        walk_empty_eq_ok_iff, true_and]
      constructor
      · rintro ⟨⟨middle, hmiddle, hentry, rfl⟩, -⟩
        exact ⟨hmiddle, hentry⟩
      · rintro ⟨hwalk, hentry⟩
        exact ⟨⟨f, hwalk, hentry, rfl⟩, hentry⟩
  have hne : Path.join folder name ≠ "" := by
    intro heq
    have hfile : Path.fileName? (Path.join folder name) = some name := Path.fileName?_join hname
    rw [heq] at hfile
    cases hfile
  rw [locate_eq_ok_iff, start_join hname.no_slash hfolder, hjoined, walk_append]
  constructor
  · rintro ⟨-, hpath, f, hwalk, hstep⟩
    obtain ⟨hentry, hlength, rfl⟩ := (walk_name_eq_ok_iff hname).1 hstep
    have hpath' := isPath_of_join hname.no_slash hfolder hpath
    exact ⟨hpath, hlength, f, (hfind f hpath').2 ⟨hwalk, hentry⟩, rfl⟩
  · rintro ⟨hpath, hlength, f, hf, rfl⟩
    have hpath' := isPath_of_join hname.no_slash hfolder hpath
    obtain ⟨hwalk, hentry⟩ := (hfind f hpath').1 hf
    exact ⟨hne, hpath, f, hwalk, (walk_name_eq_ok_iff hname).2 ⟨hentry, hlength, rfl⟩⟩

/-! ## Reading -/

theorem read_eq_ok_iff {path : String} {c : Content} :
    d.read path = .ok c ↔ ∃ l, d.locate path = .ok l ∧ d.entry? l = some (.file c) :=
  ⟨exists_of_read, fun ⟨_, hl, hc⟩ => read_eq hl hc⟩

theorem readText_eq_ok_iff {path text : String} :
    d.readText path = .ok text
      ↔ ∃ l, d.locate path = .ok l ∧ d.entry? l = some (.file (.text text)) := by
  rw [← read_eq_ok_iff]
  exact ⟨read_of_readText, readText_of_read⟩

/-- What is read under a name in a folder that is found. -/
theorem readText_join_eq_ok_iff (hname : Path.IsName name) (hf : d.find folder = .ok (f, .folder))
    {text : String} :
    d.readText (Path.join folder name) = .ok text
      ↔ isPath (Path.join folder name) ∧ name.utf8ByteSize ≤ longestName
        ∧ d.entry? (f.push name) = some (.file (.text text)) := by
  have hfolder : folder ≠ "" := (locate_eq_ok_iff.1 (find_eq_ok_iff.1 hf).1).1
  rw [readText_eq_ok_iff]
  constructor
  · rintro ⟨l, hl, hentry⟩
    obtain ⟨hpath, hlength, f', hf', rfl⟩ := (locate_join_eq_ok_iff hname hfolder).1 hl
    obtain ⟨rfl, -⟩ := Prod.mk.inj (Except.ok.inj (hf.symm.trans hf'))
    exact ⟨hpath, hlength, hentry⟩
  · rintro ⟨hpath, hlength, hentry⟩
    exact ⟨_, (locate_join_eq_ok_iff hname hfolder).2 ⟨hpath, hlength, f, hf, rfl⟩, hentry⟩

/-- The file at a path holds a text, whether or not the way to it can be followed. -/
def HoldsText (d : Disk) (path text : String) : Prop :=
  isPath path ∧ ∃ l, destination path = some l ∧ d.entry? l = some (.file (.text text))

/-! ## Listing -/

theorem childName?_eq_some_iff : childName? f l = some name ↔ l = f.push name ∧ isBase l = false := by
  unfold childName?
  constructor
  · intro h
    split at h
    · rename_i last hlast
      obtain ⟨here, rfl⟩ := Array.back?_eq_some_iff.1 hlast
      split at h
      · rename_i hchild
        rw [Option.some.injEq] at h
        rw [← hchild.1, ← h, Array.pop_push]
        exact ⟨rfl, by simpa using hchild.2⟩
      · cases h
    · cases h
  · rintro ⟨rfl, hbase⟩
    simp [hbase]

theorem mem_entries_of_entry {e : Entry} (h : d.entry? l = some e) (hbase : isBase l = false) :
    (l, e) ∈ d.entries := by
  rw [ entry?, if_neg (by simp [hbase])] at h
  obtain ⟨before, after, hsplit, -⟩ := List.lookup_eq_some_iff.1 h
  simp [hsplit]

theorem entry?_of_mem_entries {e : Entry} (h : (l, e) ∈ d.entries) (hbase : isBase l = false) :
    d.entry? l = some e := by
  rw [ entry?, if_neg (by simp [hbase])]
  obtain ⟨before, after, hsplit⟩ := List.append_of_mem h
  refine List.lookup_eq_some_iff.2 ⟨before, after, hsplit, fun p hp => ?_⟩
  -- Otherwise the location would stand twice in the entries.
  have hnodup := d.nodup
  rw [hsplit, List.map_append, List.nodup_append] at hnodup
  exact bne_iff_ne.2 (hnodup.2.2 p.1 (List.mem_map_of_mem hp) l (by simp)).symm

/-- The names of the files among the entries of a folder that pass a test, in increasing order. -/
def selectFiles (p : String → Bool) (entries : List (String × Entry)) : List String :=
  let names := entries.filterMap fun (name, e) =>
    match e with
    | .file _ => if p name then some name else none
    | .folder => none
  names.mergeSort fun a b => decide (a ≤ b)

theorem mem_selectFiles {p : String → Bool} {entries : List (String × Entry)} :
    name ∈ selectFiles p entries ↔ p name ∧ ∃ c, (name, .file c) ∈ entries := by
  rw [selectFiles, List.mem_mergeSort, List.mem_filterMap]
  constructor
  · rintro ⟨⟨name', e⟩, hmem, h⟩
    cases e with
    | folder => cases h
    | file c =>
      simp only at h
      split at h
      · rename_i hp
        rw [Option.some.injEq] at h
        subst h
        exact ⟨hp, c, hmem⟩
      · cases h
  · rintro ⟨hp, c, hmem⟩
    exact ⟨_, hmem, by simp [hp]⟩

theorem exists_find_of_list {entries : List (String × Entry)} (h : d.list folder = .ok entries) :
    ∃ f, d.find folder = .ok (f, .folder) := by
  unfold list at h
  split at h
  · exact ⟨_, by assumption⟩
  · cases h
  · cases h

/-- The listing of a folder that is found. -/
theorem exists_list (h : d.find folder = .ok (f, .folder)) :
    ∃ entries, d.list folder = .ok entries ∧ (entries.map (·.1)).Nodup
      ∧ ∀ name c, (name, .file c) ∈ entries ↔ d.entry? (f.push name) = some (.file c) := by
  unfold list
  rw [h]
  refine ⟨_, rfl, ?_, fun name c => ?_⟩
  · have hnames : (d.entries.filterMap fun p => (childName? f p.1).map (·, p.2)).map (·.1)
        = (d.entries.map (·.1)).filterMap (childName? f) := by
      rw [List.map_filterMap, List.filterMap_map]
      congr 1
      funext p
      simp [Function.comp_def]
    change ((d.entries.filterMap fun p => (childName? f p.1).map (·, p.2)).map (·.1)).Nodup
    rw [hnames]
    refine List.Pairwise.filterMap _ (fun l l' hne name hl name' hl' heq => hne ?_) d.nodup
    rw [(childName?_eq_some_iff.1 hl).1, (childName?_eq_some_iff.1 hl').1, heq]
  · rw [List.mem_filterMap]
    constructor
    · rintro ⟨⟨l, e⟩, hmem, hchild⟩
      obtain ⟨name', hname', heq⟩ := Option.map_eq_some_iff.1 hchild
      cases heq
      obtain ⟨rfl, hbase⟩ := childName?_eq_some_iff.1 hname'
      exact entry?_of_mem_entries hmem hbase
    · intro hentry
      have hbase : isBase (f.push name) = false :=
        not_isBase_of_entry?_ne (d := d) (by simp [hentry])
      refine ⟨_, mem_entries_of_entry hentry hbase, ?_⟩
      simp [childName?_eq_some_iff.2 ⟨rfl, hbase⟩]

theorem pairwise_selectFiles (p : String → Bool) {entries : List (String × Entry)}
    (h : (entries.map (·.1)).Nodup) : (selectFiles p entries).Pairwise (· < ·) := by
  have hnodup : (selectFiles p entries).Nodup := by
    refine (List.mergeSort_perm ..).nodup_iff.2 ?_
    refine List.Pairwise.filterMap _ (fun a b hne name ha name' hb heq => hne ?_)
      (List.pairwise_map.1 h)
    have hname (q : String × Entry) (n : String)
        (hq : (match q.2 with
          | .file _ => if p q.1 then some q.1 else none
          | .folder => none) = some n) : q.1 = n := by
      obtain ⟨m, e⟩ := q
      cases e with
      | folder => cases hq
      | file c =>
        simp only at hq
        split at hq
        · exact Option.some.inj hq
        · cases hq
    rw [hname a name ha, hname b name' hb, heq]
  have hsorted : (selectFiles p entries).Pairwise fun a b => decide (a ≤ b) :=
    List.pairwise_mergeSort (by simpa using fun a b c => String.le_trans)
      (by simpa using String.le_total) _
  refine hsorted.imp₂ (fun a b hle hne => ?_) hnodup
  exact Std.lt_of_le_of_ne (of_decide_eq_true hle) hne

/-- Folders with the same files, as far as they pass the tests, give the same selection. -/
theorem selectFiles_congr {p p' : String → Bool} {entries entries' : List (String × Entry)}
    (h : (entries.map (·.1)).Nodup) (h' : (entries'.map (·.1)).Nodup)
    (hmem : ∀ name, (p name ∧ ∃ c, (name, .file c) ∈ entries)
      ↔ p' name ∧ ∃ c, (name, .file c) ∈ entries') :
    selectFiles p entries = selectFiles p' entries' := by
  refine (pairwise_selectFiles p h).eq_of_mem_iff (pairwise_selectFiles p' h') fun name => ?_
  rw [mem_selectFiles, mem_selectFiles]
  exact hmem name

/-! ## Trees -/

/-- A disk as systems keep them: every entry is in a folder, under a name that holds no slash and is not
too long. -/
structure IsTree (d : Disk) : Prop where
  named : ∀ e ∈ d.entries, ∀ name, e.1.back? = some name →
    '/' ∉ name.toList ∧ name.utf8ByteSize ≤ longestName
  parent : ∀ e ∈ d.entries, d.entry? e.1.pop = some .folder

theorem IsTree.entry?_pop (hd : d.IsTree) {e : Entry} (h : d.entry? l = some e) :
    d.entry? l.pop = some .folder := by
  cases hbase : isBase l with
  | false => exact hd.parent _ (mem_entries_of_entry h hbase)
  | true =>
    simp only [isBase, Bool.or_eq_true, decide_eq_true_eq] at hbase
    rcases hbase with rfl | rfl <;> rfl

/-- The folder that a path leads to is found by the path if it is there. -/
def Reaches (d : Disk) (folder : String) : Prop :=
  ∀ f, destination folder = some f → d.entry? f = some .folder → d.find folder = .ok (f, .folder)

theorem IsTree.walk_of_destinationFrom (hd : d.IsTree) {here : Location} {segments : List String}
    (hup : ".." ∉ segments) (hl : destinationFrom here segments = some l)
    (hfolder : d.entry? l = some .folder) :
    d.entry? here = some .folder ∧ d.walk here segments = .ok l := by
  induction segments generalizing here with
  | nil =>
    cases hl
    exact ⟨hfolder, rfl⟩
  | cons segment rest ih =>
    have hsegment : segment ≠ ".." := fun heq => hup (by simp [heq])
    have ih {next : Location} (h : destinationFrom next rest = some l) :=
      ih (fun hmem => hup (List.mem_cons_of_mem _ hmem)) h
    rw [destinationFrom] at hl
    split at hl
    · rename_i hidle
      obtain ⟨hhere, hwalk⟩ := ih hl
      exact ⟨hhere, walk_cons_eq_ok_iff.2 ⟨hhere, here, by simp [step?, hidle], hwalk⟩⟩
    · rename_i hidle
      obtain ⟨hnext, hwalk⟩ := ih hl
      have hhere := hd.entry?_pop hnext
      rw [Array.pop_push] at hhere
      have hlength : ¬ longestName < segment.utf8ByteSize := by
        rw [Nat.not_lt]
        cases hbase : isBase (here.push segment) with
        | false =>
          exact (hd.named _ (mem_entries_of_entry hnext hbase) segment (Array.back?_push ..)).2
        | true =>
          have hslash : some segment = some "/" := by
            simp only [isBase, Bool.or_eq_true, decide_eq_true_eq] at hbase
            rcases hbase with hbase | hbase
            · exact absurd hbase (by simp)
            · simpa using congrArg Array.back? hbase
          rw [Option.some.inj hslash]
          decide
      exact ⟨hhere, walk_cons_eq_ok_iff.2
        ⟨hhere, here.push segment, by simp [step?, hidle, hsegment, hlength], hwalk⟩⟩

/-- On a tree every path that does not go up reaches its folder. -/
theorem IsTree.reaches (hd : d.IsTree) (hne : folder ≠ "") (hpath : isPath folder)
    (hup : ".." ∉ Path.segments folder) : d.Reaches folder := by
  intro f hf hfolder
  have hwalk := (hd.walk_of_destinationFrom hup hf hfolder).2
  exact find_eq_ok_iff.2 ⟨locate_eq_ok_iff.2 ⟨hne, hpath, hwalk⟩, hfolder⟩

/-! ## Named files -/

/-- The names of the files in a folder hold no slash. -/
def HasNamedFiles (d : Disk) (folder : String) : Prop :=
  ∀ f name c, destination folder = some f → d.entry? (f.push name) = some (.file c) →
    '/' ∉ name.toList

theorem hasNamedFiles_of_named
    (h : ∀ e ∈ d.entries, ∀ name, e.1.back? = some name → '/' ∉ name.toList) (folder : String) :
    d.HasNamedFiles folder := by
  intro f name c _ hentry
  have hbase : isBase (f.push name) = false := not_isBase_of_entry?_ne (d := d) (by simp [hentry])
  exact h _ (mem_entries_of_entry hentry hbase) name (Array.back?_push ..)

theorem IsTree.hasNamedFiles (hd : d.IsTree) (folder : String) : d.HasNamedFiles folder :=
  hasNamedFiles_of_named (fun e he name hname => (hd.named e he name hname).1) folder

theorem HasNamedFiles.of_keeps {S : Location → Prop} (hd : d.HasNamedFiles folder)
    (h : Keeps S d d')
    (hS : ∀ f name, destination folder = some f → S (f.push name) → '/' ∉ name.toList) :
    d'.HasNamedFiles folder := by
  intro f name c hf hentry
  by_cases hin : S (f.push name)
  · exact hS f name hf hin
  · exact hd f name c hf ((h.file hin).1 hentry)

/-! ## Folders that are there -/

theorem entry?_of_walk {here : Location} {segments : List String}
    (h : d.walk here segments = .ok l) (hl : d.entry? l = some .folder) :
    d.entry? here = some .folder := by
  cases segments with
  | nil =>
    cases h
    exact hl
  | cons segment rest => exact (walk_cons_eq_ok_iff.1 h).1

/-- Making folders that are there does nothing. -/
theorem makeFoldersFrom_of_walk {here : Location} {segments : List String}
    (h : d.walk here segments = .ok l) (hl : d.entry? l = some .folder) :
    d.makeFoldersFrom here segments = (.ok (), d) := by
  induction segments generalizing here with
  | nil => rfl
  | cons segment rest ih =>
    obtain ⟨-, next, hnext, hrest⟩ := walk_cons_eq_ok_iff.1 h
    have hfolder := entry?_of_walk hrest hl
    unfold step? at hnext
    unfold makeFoldersFrom
    split_ifs at hnext ⊢ <;> cases hnext
    · exact ih hrest
    · exact ih hrest
    · exact ih hrest
    · simp only [hfolder]
      exact ih hrest

theorem makeFolders_of_walk {path : String} (hpath : isPath path)
    (hdot : Path.endsInDot path = false) (h : d.walk (start path) (Path.segments path) = .ok l)
    (hl : d.entry? l = some .folder) : d.makeFolders path = (.ok (), d) := by
  unfold makeFolders
  simp only [hpath, hdot, Bool.not_true, Bool.false_eq_true, if_false]
  exact makeFoldersFrom_of_walk h hl

/-- The working folder is there. -/
theorem makeFolders_dot : d.makeFolders "." = (.ok (), d) := by
  have hfind : d.find "." = .ok (#[], .folder) := by
    refine find_eq_ok_iff.2 ⟨locate_eq_ok_iff.2 ⟨by decide, by decide, ?_⟩, rfl⟩
    exact walk_cons_eq_ok_iff.2 ⟨rfl, #[], rfl, rfl⟩
  have hmade : d.makeFoldersFrom (start "") (Path.segments "") = (.ok (), d) :=
    makeFoldersFrom_of_walk (l := #[]) (walk_cons_eq_ok_iff.2 ⟨rfl, #[], rfl, rfl⟩) rfl
  have hpath : isPath "." := by decide
  have hdot : Path.endsInDot "." := by decide
  have hparent : (Path.parent? ".").getD "" = "" := by decide
  unfold makeFolders
  simp only [hpath, hdot, hparent, hmade, hfind, Bool.not_true, Bool.false_eq_true, if_false, if_true]

/-- The folder of a file that can be located is there. -/
theorem makeFolders_parent (hname : Path.IsName name) (hfolder : folder ≠ "")
    (h : d.locate (Path.join folder name) = .ok l) :
    d.makeFolders ((Path.parent? (Path.join folder name)).getD "") = (.ok (), d) := by
  obtain ⟨first, kept, idle, parent, tail, hsegments, hidle, hkept, hparent, hpath, hne, hpieces⟩ :=
    Path.exists_parent?_join hname hfolder
  obtain ⟨-, hisPath, hwalk⟩ := locate_eq_ok_iff.1 h
  have hparentPath : isPath parent := by
    rw [hpath] at hisPath
    exact isPath_of_append hisPath
  have hstart : start (Path.join folder name) = start parent := by
    obtain ⟨c, cs, hcs⟩ := List.exists_cons_of_ne_nil (mt String.toList_eq_nil_iff.1 hne)
    rw [hpath, start, start, Path.isAbsolute, Path.isAbsolute, String.toList_append, hcs]
    rfl
  rw [hparent, Option.getD_some]
  rcases hpieces with hpieces | ⟨rfl, -, -⟩
  · -- The folder that the name is in is where the segments of the parent lead to.
    obtain ⟨f, hkeptWalk, hf⟩ : ∃ f, d.walk (start parent) (first :: kept) = .ok f
        ∧ d.entry? f = some .folder := by
      rw [hsegments, hstart, ← List.cons_append] at hwalk
      obtain ⟨g, hbefore, hlast⟩ := (walk_append _ _).1 hwalk
      obtain ⟨f, hfirst, hrest⟩ := (walk_append _ _).1 hbefore
      obtain rfl := eq_of_walk_idle hidle hrest
      exact ⟨g, hfirst, ((walk_name_eq_ok_iff hname).1 hlast).1⟩
    rw [← hpieces] at hkeptWalk
    by_cases hdot : Path.endsInDot parent
    · rw [Path.eq_dot_of_endsInDot hpieces hkept hdot]
      exact makeFolders_dot
    · exact makeFolders_of_walk hparentPath (by simpa using hdot) hkeptWalk hf
  · exact makeFolders_of_walk (l := #["/"]) hparentPath (by decide) rfl rfl

end MasterData.Disk
