-- SUMMARY: Compiling: from workbook headers to generated source.
import MasterData.Code.AggregateModule
import MasterData.Project.Manifest
import MasterData.Project.Publish
import MasterData.Project.Survey

/-! # Compiling a project

Compiling publishes one module for each master of the workbooks, then the manifest and the module
that ties all masters together, and removes generated files that no master makes any more. Where the
survey of the workbooks fails, the modules of the masters found before are published and nothing
else. In check mode nothing is written, and a difference is a failure.
-/

namespace MasterData

/-- What compiling did, or would do. -/
structure CompileReport where
  /-- The masters in compile order. -/
  masters : List String
  changed : List String
  unchanged : Nat
  pruned : List String
  deriving DecidableEq

/-- The name of the file of the aggregate module. -/
def aggregateFileName : String := sourceFileName "mod"

/-- The source of the aggregate module of masters. -/
def aggregateSource (c : Config) (masters : List String) : String :=
  (AggregateModule.ofMasters c.codeOptions masters).render

/-- The report of a run, or the failure that it is in check mode if anything differs. -/
def CompileReport.finish (mode : WriteMode) (r : CompileReport) :
    Except ProjectError CompileReport :=
  match mode, r.changed ++ r.pruned with
  | .check, file :: files => .error (.stale (file :: files))
  | _, _ => .ok r

/-- Publishes what a finished survey found, and prunes. -/
def publishAll (c : Config) (mode : WriteMode) (masters : List CompiledMaster) (p : Published)
    (d : Disk) : Except ProjectError CompileReport × Disk :=
  let folder := c.generatedFolder
  let manifest := Manifest.ofSchemas (masters.map (·.schema))
  let names := manifest.masterNames
  let files := [(Manifest.fileName, manifest.render), (aggregateFileName, aggregateSource c names)]
  match Published.addAll mode folder files p d with
  | (.error e, d) => (.error e, d)
  | (.ok p, d) =>
    match p.prune mode folder d with
    | (.error e, d) => (.error e, d)
    | (.ok pruned, d) => (CompileReport.finish mode ⟨names, p.changed, p.unchanged, pruned⟩, d)

/-- Compiles a project. -/
def compile (c : Config) (mode : WriteMode) (d : Disk) :
    Except ProjectError CompileReport × Disk :=
  match Workbook.listIn d c.workbooksFolder with
  | .error e => (.error (.discovery c.workbooksFolder e), d)
  | .ok paths =>
    let (outcome, survey) := Survey.ofWorkbooks c d paths
    let modules := survey.masters.map fun m => (m.fileName, m.source)
    match Published.addAll mode c.generatedFolder modules .empty d, outcome with
    | (.error e, d), _ => (.error e, d)
    | (.ok _, d), .error e => (.error e, d)
    | (.ok p, d), .ok () => publishAll c mode survey.masters p d

/-- Publishes the aggregate module of the masters in the manifest; tells whether it changed. -/
def aggregate (c : Config) (d : Disk) : Except ProjectError Bool × Disk :=
  let folder := c.generatedFolder
  match Manifest.load d folder with
  | .error e => (.error e, d)
  | .ok manifest =>
    let source := aggregateSource c manifest.masterNames
    match Published.empty.add .apply folder aggregateFileName source d with
    | (.error e, d) => (.error e, d)
    | (.ok p, d) => (.ok (!p.changed.isEmpty), d)

end MasterData
