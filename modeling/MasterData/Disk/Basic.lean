-- SUMMARY: Files and folders as a value.
import MasterData.Disk.Content
import MasterData.Path

/-! # Disks

A disk is a finite tree of folders and files, kept as the list of its entries in the order in which
the system enumerates them. Paths start at the working folder or, with a slash, at the root; what
lies above the working folder is not on the disk. Every operation either fails or gives its answer;
only making folders can fail halfway.
-/

namespace MasterData

/-- The names that lead to an entry, from the working folder down; those of an absolute path start
with a slash. -/
abbrev Location := Array String

/-- A folder or a file. -/
inductive Entry where
  | folder
  | file (content : Content)
  deriving DecidableEq

/-- Why a file operation fails. -/
inductive Denial where
  | notFound
  /-- A file in place of a folder or a folder in place of a file, content that is no text, or a name
  that the system does not allow. -/
  | refused
  deriving DecidableEq

/-- The entries of a disk, each location once. -/
structure Disk where
  entries : List (Location × Entry)
  nodup : (entries.map (·.1)).Nodup

namespace Disk

@[ext] theorem ext {d₁ d₂ : Disk} (h : d₁.entries = d₂.entries) : d₁ = d₂ := by
  cases d₁
  cases d₂
  simp_all

def empty : Disk := ⟨[], by simp⟩

instance : Inhabited Disk := ⟨empty⟩

/-! ## Entries -/

/-- The folders that every disk has: the working folder and the root. -/
def isBase (l : Location) : Bool :=
  l = #[] || l = #["/"]

/-- The entry at a location. -/
def entry? (d : Disk) (l : Location) : Option Entry :=
  if isBase l then some .folder else d.entries.lookup l

/-- The entries with one at a location, in place of the one there or at the end. -/
def putIn (l : Location) (e : Entry) : List (Location × Entry) → List (Location × Entry)
  | [] => [(l, e)]
  | (l', e') :: rest => if l' = l then (l, e) :: rest else (l', e') :: putIn l e rest

theorem map_fst_putIn (l : Location) (e : Entry) (entries : List (Location × Entry)) :
    (putIn l e entries).map (·.1)
      = if l ∈ entries.map (·.1) then entries.map (·.1) else entries.map (·.1) ++ [l] := by
  induction entries with
  | nil => simp [putIn]
  | cons p entries ih =>
    obtain ⟨l', e'⟩ := p
    by_cases h : l' = l
    · simp [putIn, h]
    · have h' : ¬ l = l' := fun eq => h eq.symm
      simp only [putIn, if_neg h, List.map_cons, ih, List.mem_cons, h', false_or]
      split <;> simp_all

/-- The disk with an entry at a location. -/
def put (d : Disk) (l : Location) (e : Entry) : Disk where
  entries := putIn l e d.entries
  nodup := by
    rw [map_fst_putIn]
    split
    · exact d.nodup
    · rename_i h
      refine List.nodup_append.2 ⟨d.nodup, by simp, ?_⟩
      rintro a ha b hb rfl
      rw [List.mem_singleton] at hb
      exact h (hb ▸ ha)

/-- The disk without the entries whose location fails a test. -/
def keep (d : Disk) (p : Location → Bool) : Disk where
  entries := d.entries.filter fun (l, _) => p l
  nodup := (List.filter_sublist.map _).nodup d.nodup

/-! ## Locating -/

/-- The longest name of an entry, in bytes. -/
def longestName : Nat := 255

/-- The longest path, in bytes. -/
def longestPath : Nat := 4095

/-- Whether the system takes a text as a path. -/
def isPath (path : String) : Bool :=
  !path.toList.contains '\x00' && path.utf8ByteSize ≤ longestPath

/-- The location that further segments of a path lead to from a location. Every segment but the last
must lead to a folder, and so must the last one if nothing but a slash or a dot follows it. -/
def walk (d : Disk) : Location → List String → Except Denial Location
  | here, [] => .ok here
  | here, segment :: rest =>
    match d.entry? here with
    | none => .error .notFound
    | some (.file _) => .error .refused
    | some .folder =>
      if Path.isIdle segment then d.walk here rest
      else if segment = ".." then
        if here = #[] then .error .notFound
        else d.walk (if here = #["/"] then here else here.pop) rest
      else if longestName < segment.utf8ByteSize then .error .refused
      else d.walk (here.push segment) rest

/-- Where the segments of a path start. -/
def start (path : String) : Location :=
  if Path.isAbsolute path then #["/"] else #[]

/-- The location that a path leads to, whether or not there is an entry. -/
def locate (d : Disk) (path : String) : Except Denial Location :=
  if path = "" then .error .notFound
  else if !isPath path then .error .refused
  else d.walk (start path) (Path.segments path)

/-- The location and the entry that a path leads to. -/
def find (d : Disk) (path : String) : Except Denial (Location × Entry) :=
  match d.locate path with
  | .error e => .error e
  | .ok l =>
    match d.entry? l with
    | some e => .ok (l, e)
    | none => .error .notFound

def doesExist (d : Disk) (path : String) : Bool :=
  match d.find path with
  | .ok _ => true
  | .error _ => false

/-! ## Reading -/

/-- The content of a file. -/
def read (d : Disk) (path : String) : Except Denial Content :=
  match d.find path with
  | .ok (_, .file content) => .ok content
  | .ok (_, .folder) => .error .refused
  | .error e => .error e

/-- The text of a file. -/
def readText (d : Disk) (path : String) : Except Denial String :=
  match d.read path with
  | .ok content =>
    match content.text? with
    | some s => .ok s
    | none => .error .refused
  | .error e => .error e

/-- The name of an entry directly inside a folder. -/
def childName? (folder l : Location) : Option String :=
  match l.back? with
  | some name => if l.pop = folder ∧ !isBase l then some name else none
  | none => none

/-- The names of what is directly inside a folder, as the system enumerates it. -/
def list (d : Disk) (path : String) : Except Denial (List (String × Entry)) :=
  match d.find path with
  | .ok (folder, .folder) =>
    .ok (d.entries.filterMap fun (l, e) => (childName? folder l).map (·, e))
  | .ok (_, .file _) => .error .refused
  | .error e => .error e

/-! ## Writing -/

/-- The disk with a file of that content; its folder must exist. -/
def write (d : Disk) (path : String) (content : Content) : Except Denial Disk :=
  match d.locate path with
  | .error e => .error e
  | .ok l =>
    match d.entry? l with
    | some .folder => .error .refused
    | _ => .ok (d.put l (.file content))

/-- The disk without a file. -/
def removeFile (d : Disk) (path : String) : Except Denial Disk :=
  match d.find path with
  | .ok (l, .file _) => .ok (d.keep (· ≠ l))
  | .ok (_, .folder) => .error .refused
  | .error e => .error e

/-- The disk without a file, or without a folder and all that is in it. -/
def remove (d : Disk) (path : String) : Except Denial Disk :=
  match d.find path with
  | .ok (l, _) => .ok (d.keep fun l' => !l.isPrefixOf l')
  | .error e => .error e

/-- Makes the folders that further segments of a path name, as far as they are missing. -/
def makeFoldersFrom (d : Disk) : Location → List String → Except Denial Unit × Disk
  | _, [] => (.ok (), d)
  | here, segment :: rest =>
    if Path.isIdle segment then d.makeFoldersFrom here rest
    else if segment = ".." then
      if here = #[] then (.error .refused, d)
      else d.makeFoldersFrom (if here = #["/"] then here else here.pop) rest
    else if longestName < segment.utf8ByteSize then (.error .refused, d)
    else
      let l := here.push segment
      match d.entry? l with
      | some .folder => d.makeFoldersFrom l rest
      | some (.file _) => (.error .refused, d)
      | none => (d.put l .folder).makeFoldersFrom l rest

/-- Makes all folders of a path. A dot at its end makes none: what it stands in must exist once the
folders around that are made. -/
def makeFolders (d : Disk) (path : String) : Except Denial Unit × Disk :=
  if !isPath path then (.error .refused, d)
  else if Path.endsInDot path then
    let outer := (Path.parent? path).getD ""
    match d.makeFoldersFrom (start outer) (Path.segments outer) with
    | (.ok (), d) =>
      match d.find path with
      | .ok (_, .folder) => (.ok (), d)
      | .ok (_, .file _) => (.error .refused, d)
      | .error e => (.error e, d)
    | failed => failed
  else d.makeFoldersFrom (start path) (Path.segments path)

/-! ## Overview -/

/-- The path of a location. -/
def pathOf (l : Location) : String :=
  match l.toList with
  | "/" :: rest => "/" ++ "/".intercalate rest
  | l => "/".intercalate l

/-- The paths of all files and, with a slash behind, of all folders with nothing in them. -/
def tree (d : Disk) : List String :=
  let shown := d.entries.filterMap fun (l, e) =>
    match e with
    | .file _ => some (pathOf l)
    | .folder =>
      if d.entries.any fun (l', _) => l' ≠ l && l.isPrefixOf l' then none
      else some (pathOf l ++ "/")
  shown.mergeSort fun a b => decide (a ≤ b)

end Disk

end MasterData
