-- SUMMARY: The masters that the workbooks of a project declare.
import MasterData.Project.Registry
import MasterData.Schema.Scan
import MasterData.Workbook.Opening

/-! # Surveying workbooks

A survey reads workbooks one after the other and collects the masters that their sheets declare, up
to the first failure. It only reads: what was collected before a failure stays known.
-/

namespace MasterData

/-- The name of a workbook in a schema: that of its file. -/
def workbookName (path : String) : String :=
  (Path.fileName? path).getD path

/-- The schema that an anchored sheet declares, if it declares one. -/
def ScanHit.schema? (t : TypeTable) (hit : ScanHit) : Except ProjectError (Option MasterSchema) :=
  (MasterSchema.extract t (workbookName hit.workbook) hit.sheet hit.anchor).mapError
    (.header hit.workbook)

/-- Visits the anchored sheets of workbooks in order, up to the first failure. -/
def scanWorkbooks (d : Disk) (visit : ScanHit → σ → Except ProjectError Unit × σ) :
    List String → σ → Except ProjectError Unit × σ
  | [], state => (.ok (), state)
  | path :: paths, state =>
    match Workbook.openAt d path with
    | .error e => (.error (.workbook e), state)
    | .ok workbook =>
      match workbook.reader.scan path .workbook visit state with
      | (.error e, state) => (.error e, state)
      | (.ok _, state) => scanWorkbooks d visit paths state

/-! ## Inspecting one workbook -/

/-- The schemas that the sheets of a workbook declare. -/
def inspect (t : TypeTable) (d : Disk) (path : String) : Except ProjectError (List MasterSchema) :=
  let visit (hit : ScanHit) (schemas : List MasterSchema) :=
    match hit.schema? t with
    | .error e => (.error e, schemas)
    | .ok found => (.ok (), schemas ++ found.toList)
  match scanWorkbooks d visit [path] [] with
  | (.error e, _) => .error e
  | (.ok (), schemas) => .ok schemas

/-! ## Collecting modules -/

/-- A master that has its names, with the source of its module. -/
structure CompiledMaster where
  schema : MasterSchema
  source : String
  deriving DecidableEq

/-- The name of the file of a generated module. -/
def sourceFileName (moduleName : String) : String := moduleName ++ ".rs"

/-- The name of the file of the module of a master. -/
def CompiledMaster.fileName (m : CompiledMaster) : String :=
  sourceFileName (Naming.moduleName m.schema.masterName)

/-- What a survey knows: the masters found so far and the names that they have taken. -/
structure Survey where
  registry : Registry
  masters : List CompiledMaster

namespace Survey

/-- The survey with what an anchored sheet declares. -/
def visit (c : Config) (hit : ScanHit) (survey : Survey) : Except ProjectError Unit × Survey :=
  match hit.schema? c.typeTable with
  | .error e => (.error e, survey)
  | .ok none => (.ok (), survey)
  | .ok (some schema) =>
    match schema.source? c.codeOptions with
    | none => (.ok (), survey)
    | some source =>
      match survey.registry.claim schema with
      | .error e => (.error e, survey)
      | .ok registry => (.ok (), ⟨registry, survey.masters ++ [⟨schema, source⟩]⟩)

/-- The survey of workbooks, and the failure that ended it if there was one. -/
def ofWorkbooks (c : Config) (d : Disk) (paths : List String) :
    Except ProjectError Unit × Survey :=
  scanWorkbooks d (visit c) paths ⟨.ofConfig c, []⟩

end Survey

end MasterData
