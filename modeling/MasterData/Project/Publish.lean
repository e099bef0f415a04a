-- SUMMARY: Generated files put into their folder.
import MasterData.Code.Layout
import MasterData.Project.Error

/-! # Publishing generated files

A file is written only if its folder does not already hold it with that text. Publishing can also
just tell what it would write: the account of both ways is the same. Files with the mark of generated
code that the account does not know are left over from masters that are gone.
-/

namespace MasterData

/-- Whether files are written or only compared. -/
inductive WriteMode where
  | apply
  | check
  deriving DecidableEq

/-- The account of the files of a run. -/
structure Published where
  /-- The names of all files of the run. -/
  names : List String
  /-- The paths of the files that were, or would be, written. -/
  changed : List String
  unchanged : Nat
  deriving DecidableEq

namespace Published

def empty : Published := ⟨[], [], 0⟩

/-- The disk with a text at a path, in folders made for it. -/
def writeText (d : Disk) (path text : String) : Except ProjectError Unit × Disk :=
  let parent := (Path.parent? path).getD ""
  match d.makeFolders parent with
  | (.error _, d) => (.error (.system parent), d)
  | (.ok (), d) =>
    match d.write path (.text text) with
    | .ok d => (.ok (), d)
    | .error _ => (.error (.system path), d)

/-- Publishes a text under a name in a folder. -/
def add (mode : WriteMode) (folder name text : String) (p : Published) (d : Disk) :
    Except ProjectError Published × Disk :=
  let path := Path.join folder name
  let names := name :: p.names
  if (d.readText path).toOption = some text then
    (.ok { p with names, unchanged := p.unchanged + 1 }, d)
  else
    let account := { p with names, changed := p.changed ++ [path] }
    match mode with
    | .check => (.ok account, d)
    | .apply =>
      match writeText d path text with
      | (.ok (), d) => (.ok account, d)
      | (.error e, d) => (.error e, d)

/-- Publishes texts under their names, one after the other up to the first failure. -/
def addAll (mode : WriteMode) (folder : String) :
    List (String × String) → Published → Disk → Except ProjectError Published × Disk
  | [], p, d => (.ok p, d)
  | (name, text) :: rest, p, d =>
    match p.add mode folder name text d with
    | (.ok p, d) => addAll mode folder rest p d
    | (.error e, d) => (.error e, d)

/-! ## Leftovers -/

/-- The extension of generated source. -/
def sourceExtension : String := "rs"

/-- Whether a name in a folder is that of a generated file that the account does not know. A file that
cannot be read as text was not generated. -/
def isLeftover (p : Published) (folder : String) (d : Disk) (name : String) : Bool :=
  Path.extensionOf? name = some sourceExtension && !p.names.contains name
    && (d.readText (Path.join folder name)).toOption.any Code.isGenerated

/-- The names of the leftovers among the entries of a folder, in increasing order. -/
def leftoverNames (p : Published) (folder : String) (d : Disk) (entries : List (String × Entry)) :
    List String :=
  let names := entries.filterMap fun (name, e) =>
    match e with
    | .file _ => if p.isLeftover folder d name then some name else none
    | .folder => none
  names.mergeSort fun a b => decide (a ≤ b)

/-- The paths of the leftovers in a folder; a folder that does not exist has none. -/
def leftovers (p : Published) (folder : String) (d : Disk) : Except ProjectError (List String) :=
  if !d.doesExist folder then .ok []
  else
    match d.list folder with
    | .error _ => .error (.system folder)
    | .ok entries => .ok ((p.leftoverNames folder d entries).map (Path.join folder))

/-- The disk without the files at paths. -/
def removeFiles : List String → Disk → Except ProjectError Unit × Disk
  | [], d => (.ok (), d)
  | path :: rest, d =>
    match d.removeFile path with
    | .ok d => removeFiles rest d
    | .error _ => (.error (.system path), d)

/-- Removes the leftovers from a folder and gives their paths. -/
def prune (mode : WriteMode) (folder : String) (p : Published) (d : Disk) :
    Except ProjectError (List String) × Disk :=
  match p.leftovers folder d, mode with
  | .error e, _ => (.error e, d)
  | .ok paths, .check => (.ok paths, d)
  | .ok paths, .apply =>
    match removeFiles paths d with
    | (.ok (), d) => (.ok paths, d)
    | (.error e, d) => (.error e, d)

end Published

end MasterData
