-- SUMMARY: The program: command lines performed on the files of the system.
import MasterData.CommandLine.Run

/-! # The program

The files that a command can touch are taken in first: the configuration, the folders that it names
and a workbook to inspect. The command runs on that disk, and what changed on it is written back.
-/

namespace MasterData.Program

/-- The disk with the file at a path. -/
def takeInFile (path : String) (d : Disk) : IO Disk := do
  let bytes ← IO.FS.readBinFile path
  let d := (d.makeFolders ((Path.parent? path).getD "")).2
  return (d.write path (.ofBytes bytes.toList)).toOption.getD d

/-- The disk with the file at a path, or with the folder there and the files directly inside. -/
def takeIn (path : String) (d : Disk) : IO Disk := do
  let place : IO.FS.DirEntry := ⟨path, ""⟩
  if ← place.root.isDir then
    let mut d := (d.makeFolders path).2
    for child in ← place.root.readDir do
      let name := Path.join path child.fileName
      if ← child.path.isDir then d := (d.makeFolders name).2
      else d ← takeInFile name d
    return d
  else if ← place.root.pathExists then takeInFile path d
  else return d

/-- The paths that a command can touch besides the configuration. -/
def pathsOf (o : Options) (d : Disk) : List String :=
  let folders :=
    match Config.load d o.config with
    | .ok c => [c.workbooksFolder, c.generatedFolder, c.assetsFolder]
    | .error _ => []
  match o.command with
  | .inspect workbook => [workbook]
  | _ => folders

/-- The disk as far as a command line can touch it. -/
def snapshot (i : Invocation) : IO Disk := do
  match i with
  | .run o =>
    let d ← takeIn o.config .empty
    (pathsOf o d).foldlM (fun d path => takeIn path d) d
  | _ => return .empty

/-- Makes the files of the system agree with a disk that was another one before. -/
def writeBack (before after : Disk) : IO Unit := do
  for (location, e) in after.entries do
    if before.entries.lookup location ≠ some e then
      match e with
      | .folder => IO.FS.createDirAll (Disk.pathOf location)
      | .file content => IO.FS.writeFile (Disk.pathOf location) (content.text?.getD "")
  for (location, _) in before.entries do
    if (after.entries.lookup location).isNone then IO.FS.removeFile (Disk.pathOf location)

/-- What is printed where the command line is not understood or asks for help. -/
def usage : String :=
  "Usage: sheetmaster [-c FILE] [-v] compile [--check] | materialize | aggregate | inspect WORKBOOK"

end MasterData.Program

open MasterData Program in
def main (args : List String) : IO UInt32 := do
  let invocation := Invocation.ofArguments args
  let before ← snapshot invocation
  let outcome := invocation.perform before
  writeBack before outcome.disk
  IO.print (outcome.output.getD (usage ++ "\n"))
  match outcome.complaint with
  | some complaint => IO.eprintln ("Error: " ++ complaint)
  | none => pure ()
  return outcome.exitCode.toUInt32
