-- SUMMARY: Materializing: from data rows to assets.
import MasterData.Project.Manifest
import MasterData.Record.Index
import MasterData.Record.Materialize
import MasterData.Store.Folder
import MasterData.Workbook.Opening

/-! # Materializing a project

For each master of the manifest, in order, the data rows of its sheet become the records of its
asset. A workbook is opened once for all masters that follow each other in it. The first failure ends
the run; the assets saved before it stay.
-/

namespace MasterData

/-- What materializing did for a master. -/
structure MasterReport where
  master : String
  records : Nat
  collisions : List KeyCollision
  /-- The path of the asset. -/
  asset : String
  deriving DecidableEq

/-- The sheet of a master in its workbook, which must have its anchor where the schema says. -/
def MasterSchema.sheetIn (s : MasterSchema) (w : Workbook) (path : String) :
    Except ProjectError Sheet :=
  if !w.sheetNames.contains s.source.sheet then
    .error (.missingSheet s.masterName path s.source.sheet)
  else
    match w.readSheet s.source.sheet with
    | .error e => .error (.workbook (e.inWorkbook path))
    | .ok sheet =>
      let found := sheet.findAnchor?
      if found = some s.anchor then .ok sheet
      else .error (.anchorMoved s.masterName s.source.sheet s.anchor found)

/-- Materializes one master of a workbook. -/
def materializeMaster (store : FolderStore) (w : Workbook) (path : String) (s : MasterSchema)
    (d : Disk) : Except ProjectError MasterReport × Disk :=
  match s.sheetIn w path, store.pathFor s.masterName, store.load d s.masterName with
  | .error e, _, _ => (.error e, d)
  | .ok _, .error e, _ => (.error (.asset e), d)
  | .ok _, .ok _, .error e => (.error (.asset e), d)
  | .ok sheet, .ok assetPath, .ok prior =>
    let records := s.materializeSheet sheet prior
    let index := MasterIndex.build s.masterName records
    match store.save d ⟨s.masterName, s.fieldNames, records⟩ with
    | (.error e, d) => (.error (.asset e), d)
    | (.ok (), d) => (.ok ⟨s.masterName, records.length, index.collisions, assetPath⟩, d)

/-- Materializes masters of one workbook in order. -/
def materializeMasters (store : FolderStore) (w : Workbook) (path : String) :
    List MasterSchema → Disk → Except ProjectError (List MasterReport) × Disk
  | [], d => (.ok [], d)
  | s :: rest, d =>
    match materializeMaster store w path s d with
    | (.error e, d) => (.error e, d)
    | (.ok report, d) =>
      let (reports, d) := materializeMasters store w path rest d
      (reports.map (report :: ·), d)

/-- Materializes the masters of several workbooks, each group from a workbook of its own. -/
def materializeGroups (c : Config) :
    List (List MasterSchema) → Disk → Except ProjectError (List MasterReport) × Disk
  | [], d => (.ok [], d)
  | [] :: groups, d => materializeGroups c groups d
  | (s :: rest) :: groups, d =>
    let path := Path.join c.workbooksFolder s.source.workbook
    match Workbook.openAt d path with
    | .error e => (.error (.workbook e), d)
    | .ok w =>
      match materializeMasters ⟨c.assetsFolder⟩ w path (s :: rest) d with
      | (.error e, d) => (.error e, d)
      | (.ok reports, d) =>
        let (more, d) := materializeGroups c groups d
        (more.map (reports ++ ·), d)

/-- Materializes all masters of the manifest of a project. -/
def materialize (c : Config) (d : Disk) : Except ProjectError (List MasterReport) × Disk :=
  match Manifest.load d c.generatedFolder with
  | .error e => (.error e, d)
  | .ok manifest =>
    materializeGroups c
      (manifest.masters.splitBy fun a b => a.source.workbook == b.source.workbook) d

/-- How many records replaced another one, over all masters. -/
def totalCollisions (reports : List MasterReport) : Nat :=
  reports.foldl (fun n r => n + r.collisions.length) 0

end MasterData
