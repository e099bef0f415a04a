-- SUMMARY: Assets kept as files in a folder.
import MasterData.Disk.Basic
import MasterData.Record.Asset
import MasterData.Store.Error
import MasterData.Text.Blank

/-! # The folder store

A store in a folder keeps the asset of each master in a file named for it. A name that would lead
out of the folder is refused. Saving writes the whole file beside its place and then moves it there,
so the path of the folder must leave room for the name of the file that is moved.
-/

namespace MasterData

/-- Whether a master can name a file directly inside a folder. -/
def isValidAssetName (master : String) : Bool :=
  !Text.isBlankText master && master.toList.all fun c => c ≠ '/' && c ≠ '\\' && c ≠ '\x00'

/-- The longest path of a folder, in bytes, that leaves room for a file that is still to be moved. -/
def longestFolderPath : Nat := 4068

/-- Assets as files in a folder. -/
structure FolderStore where
  root : String

namespace FolderStore

/-- The file of a master. -/
def pathFor (s : FolderStore) (master : String) : Except AssetError String :=
  if isValidAssetName master then .ok (Path.join s.root (master ++ ".json"))
  else .error (.invalidMasterName master)

/-- The stored asset of a master, if there is one. -/
def load (s : FolderStore) (d : Disk) (master : String) : Except AssetError (Option Asset) := do
  let path ← s.pathFor master
  match d.readText path with
  | .ok text =>
    match Asset.parse? text with
    | some asset => return some asset
    | none => throw (.malformed path)
  | .error .notFound => return none
  | .error .refused => throw (.system path)

/-- Stores an asset in place of the one that its master had. -/
def save (s : FolderStore) (d : Disk) (a : Asset) : Except AssetError Unit × Disk :=
  match s.pathFor a.master with
  | .error e => (.error e, d)
  | .ok path =>
    match d.makeFolders s.root with
    | (.error _, d) => (.error (.system s.root), d)
    | (.ok (), d) =>
      if longestFolderPath < s.root.utf8ByteSize then (.error (.system s.root), d)
      else
        match d.write path (.text a.render) with
        | .ok d => (.ok (), d)
        | .error _ => (.error (.system path), d)

end FolderStore

end MasterData
