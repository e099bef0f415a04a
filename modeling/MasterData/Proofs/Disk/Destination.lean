-- SUMMARY: Where paths lead, whatever is on the disk.
import Mathlib.Tactic.SplitIfs
import MasterData.Disk.Basic
import MasterData.Proofs.Path

/-! # Destinations

The destination of a path is read off its segments alone. A disk may refuse to follow the path, but
where it follows it, it gets there; so two paths with different destinations never reach one file.
-/

namespace MasterData.Disk

/-! ## Definition -/

/-- Where further segments lead to from a location, as if all folders were there; none above the
working folder. -/
def destinationFrom : Location → List String → Option Location
  | here, [] => some here
  | here, segment :: rest =>
    if Path.isIdle segment then destinationFrom here rest
    else if segment = ".." then
      if here = #[] then none
      else destinationFrom (if here = #["/"] then here else here.pop) rest
    else destinationFrom (here.push segment) rest

/-- Where a path leads to. -/
def destination (path : String) : Option Location :=
  destinationFrom (start path) (Path.segments path)

theorem destinationFrom_append (here : Location) (before after : List String) :
    destinationFrom here (before ++ after)
      = (destinationFrom here before).bind (destinationFrom · after) := by
  induction before generalizing here with
  | nil => rfl
  | cons segment rest ih =>
    simp only [List.cons_append, destinationFrom]
    split
    · exact ih here
    · split
      · split
        · rfl
        · exact ih _
      · exact ih _

theorem destinationFrom_name {name : String} (h : Path.IsName name) (here : Location) :
    destinationFrom here [name] = some (here.push name) := by
  simp [destinationFrom, h.not_idle, h.ne_up]

/-! ## Following a path -/

/-- Where a single segment leads to; none above the working folder and for a name that is too long. -/
def step? (here : Location) (segment : String) : Option Location :=
  if Path.isIdle segment then some here
  else if segment = ".." then
    if here = #[] then none else some (if here = #["/"] then here else here.pop)
  else if longestName < segment.utf8ByteSize then none
  else some (here.push segment)

/-- A disk is followed from folders only, one segment at a time. -/
theorem walk_cons_eq_ok_iff {d : Disk} {here l : Location} {segment : String} {rest : List String} :
    d.walk here (segment :: rest) = .ok l
      ↔ d.entry? here = some .folder
        ∧ ∃ next, step? here segment = some next ∧ d.walk next rest = .ok l := by
  rw [walk]
  cases hentry : d.entry? here with
  | none => simp
  | some e =>
    cases e with
    | file c => simp
    | folder =>
      unfold step?
      split_ifs <;> simp

/-- A step from a folder leads on to the rest of the path. -/
theorem walk_of_step? {d : Disk} {here next : Location} {segment : String} {rest : List String}
    (hfolder : d.entry? here = some .folder) (hnext : step? here segment = some next) :
    d.walk here (segment :: rest) = d.walk next rest := by
  rw [walk, hfolder]
  unfold step? at hnext
  split_ifs at hnext ⊢ <;> simp_all

theorem destinationFrom_of_step? {here next : Location} {segment : String}
    (h : step? here segment = some next) (rest : List String) :
    destinationFrom here (segment :: rest) = destinationFrom next rest := by
  unfold step? at h
  rw [destinationFrom]
  split_ifs at h ⊢ <;> cases h <;> rfl

theorem destinationFrom_of_walk {d : Disk} {here l : Location} {segments : List String}
    (h : d.walk here segments = .ok l) : destinationFrom here segments = some l := by
  induction segments generalizing here with
  | nil =>
    cases h
    rfl
  | cons segment rest ih =>
    obtain ⟨-, next, hnext, hrest⟩ := walk_cons_eq_ok_iff.1 h
    rw [destinationFrom_of_step? hnext]
    exact ih hrest

theorem walk_of_locate {d : Disk} {path : String} {l : Location} (h : d.locate path = .ok l) :
    d.walk (start path) (Path.segments path) = .ok l := by
  unfold locate at h
  split at h
  · cases h
  · split at h
    · cases h
    · exact h

theorem destination_of_locate {d : Disk} {path : String} {l : Location}
    (h : d.locate path = .ok l) : destination path = some l :=
  destinationFrom_of_walk (walk_of_locate h)

/-! ## Names in folders -/

theorem start_join {folder name : String} (h : '/' ∉ name.toList) (hfolder : folder ≠ "") :
    start (Path.join folder name) = start folder := by
  rw [start, start, Path.isAbsolute_join h hfolder]

/-- A name joined to a folder leads one step down from where the folder leads to. -/
theorem destination_join (folder : String) {name : String} (h : Path.IsName name) :
    destination (Path.join folder name) = (destination folder).map (·.push name) := by
  by_cases hfolder : folder = ""
  · subst hfolder
    rw [Path.join_empty, destination, start, Path.not_isAbsolute_of_no_slash h.no_slash,
      Path.segments_of_no_slash h.no_slash]
    exact destinationFrom_name h #[]
  · obtain ⟨before, -, hjoined, hbefore⟩ := Path.segments_join h.no_slash hfolder
    have hdestination : destination folder = destinationFrom (start folder) before := by
      rcases hbefore with hbefore | hbefore
      · rw [destination, hbefore]
      · rw [destination, hbefore, destinationFrom_append]
        cases destinationFrom (start folder) before <;> rfl
    rw [destination, start_join h.no_slash hfolder, hjoined, destinationFrom_append, hdestination]
    cases destinationFrom (start folder) before with
    | none => rfl
    | some here => exact destinationFrom_name h here

/-- The location of a file directly inside the folder that a path leads to. -/
def InFolder (folder : String) (l : Location) : Prop :=
  ∃ name, Path.IsName name ∧ destination (Path.join folder name) = some l

/-- Folders with different destinations have no file in common. -/
theorem not_inFolder_of_ne {folder folder' name : String} (hname : Path.IsName name)
    (h : destination folder ≠ destination folder') {l : Location}
    (hl : destination (Path.join folder name) = some l) : ¬ InFolder folder' l := by
  rintro ⟨name', hname', hl'⟩
  rw [destination_join _ hname, Option.map_eq_some_iff] at hl
  rw [destination_join _ hname', Option.map_eq_some_iff] at hl'
  obtain ⟨f, hf, rfl⟩ := hl
  obtain ⟨f', hf', heq⟩ := hl'
  rw [Array.push_eq_push] at heq
  exact h (by rw [hf, hf', heq.2])

/-- Files with one location have one name. -/
theorem name_eq_of_destination_join {folder folder' name name' : String}
    (hname : Path.IsName name) (hname' : Path.IsName name') {l : Location}
    (hl : destination (Path.join folder name) = some l)
    (hl' : destination (Path.join folder' name') = some l) : name = name' := by
  rw [destination_join _ hname, Option.map_eq_some_iff] at hl
  rw [destination_join _ hname', Option.map_eq_some_iff] at hl'
  obtain ⟨f, -, rfl⟩ := hl
  obtain ⟨f', -, heq⟩ := hl'
  rw [Array.push_eq_push] at heq
  exact heq.1.symm

/-! ## Endings -/

/-- The location has a last name, which ends with the given characters. -/
def EndsWith (tail : List Char) (l : Location) : Prop :=
  ∃ name, l.back? = some name ∧ tail <:+ name.toList

/-- The ending of a path is that of its destination, provided it is the ending of a step down. -/
theorem endsWith_destination {path : String} {tail : List Char} {l : Location}
    (hpath : tail <:+ path.toList) (hslash : '/' ∉ tail) (hlength : 2 < tail.length)
    (hl : destination path = some l) : EndsWith tail l := by
  obtain ⟨cs, hcs⟩ := hpath
  obtain ⟨before, piece, hsplit⟩ := Path.exists_splitSlashes_append cs hslash
  obtain ⟨name, hname⟩ : ∃ name : String, name.toList = piece ++ tail :=
    ⟨String.ofList (piece ++ tail), String.toList_ofList⟩
  have hsegments : Path.segments path = before.map String.ofList ++ [name] := by
    rw [Path.segments, ← hcs, hsplit, List.map_append, List.map_cons, List.map_nil, ← hname,
      String.ofList_toList]
  have hstep : Path.IsName name := by
    have hmem : name ∈ Path.segments path := by simp [hsegments]
    refine Path.isName_of_lt_length (Path.no_slash_of_mem_segments hmem) ?_
    rw [hname, List.length_append]
    omega
  rw [destination, hsegments, destinationFrom_append, Option.bind_eq_some_iff] at hl
  obtain ⟨here, -, hl⟩ := hl
  rw [destinationFrom_name hstep, Option.some.injEq] at hl
  subst hl
  exact ⟨name, Array.back?_push .., piece, hname.symm⟩

theorem not_endsWith_of_name {folder name : String} {tail : List Char} (hname : Path.IsName name)
    (h : ¬ tail <:+ name.toList) {l : Location}
    (hl : destination (Path.join folder name) = some l) : ¬ EndsWith tail l := by
  rintro ⟨last, hlast, hends⟩
  rw [destination_join _ hname, Option.map_eq_some_iff] at hl
  obtain ⟨f, -, rfl⟩ := hl
  rw [Array.back?_push, Option.some.injEq] at hlast
  exact h (hlast ▸ hends)

end MasterData.Disk
