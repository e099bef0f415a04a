-- SUMMARY: Failures of the stages of a project.
import MasterData.Cell.Address
import MasterData.Config.Loading
import MasterData.Schema.Extract
import MasterData.Store.Error
import MasterData.Workbook.Error

/-! # Project errors

A stage stops at its first failure. Failures of workbooks, assets and configurations are passed on
as they are; the others know the master or the file that they concern.
-/

namespace MasterData

/-- Why a master name is refused. -/
inductive NameFault where
  /-- The name would lead out of the assets folder. -/
  | leavesFolder
  | reservedType (type : String)
  | configuredEnum (type : String)
  deriving DecidableEq

/-- The wording of a refusal. -/
def NameFault.message : NameFault → String
  | leavesFolder => "name contains a path separator and cannot name an asset file"
  | reservedType type => "type `" ++ type ++ "` is reserved by generated code"
  | configuredEnum type => "type `" ++ type ++ "` is also a configured enum"

/-- Why a manifest is refused. -/
inductive ManifestFault where
  | missing
  | malformed
  | unsupportedVersion (version : UInt32)
  | masterWithoutFields (master : String)
  deriving DecidableEq

/-- The version of the manifests that are written and read. -/
def manifestVersion : UInt32 := 1

/-- The wording of a refusal. -/
def ManifestFault.message : ManifestFault → String
  | missing => "not found, run `sheetmaster compile` first"
  | malformed => Cause.json.tag
  | unsupportedVersion version =>
    "version " ++ toString version.toNat ++ " is not supported (expected "
      ++ toString manifestVersion.toNat ++ ")"
  | masterWithoutFields master => "master " ++ master ++ " has no fields"

/-- Why a stage stops. -/
inductive ProjectError where
  | config (failure : ConfigError)
  /-- The system refused an operation on a file or folder of the project. -/
  | system (path : String)
  /-- The folder of the workbooks cannot be listed. -/
  | discovery (folder : String) (failure : WorkbookError)
  | workbook (failure : WorkbookError)
  /-- A header block in a workbook is refused. -/
  | header (workbook : String) (failure : HeaderError)
  | asset (failure : AssetError)
  /-- Two sheets declare masters that would share a module or a type. -/
  | duplicateMaster (master first second : String)
  | invalidMasterName (master origin : String) (fault : NameFault)
  | manifest (path : String) (fault : ManifestFault)
  | missingSheet (master workbook sheet : String)
  | anchorMoved (master sheet : String) (expected : Address) (found : Option Address)
  /-- Generated files differ from what the workbooks make. -/
  | stale (files : List String)
  deriving DecidableEq

/-- The wording of a failure. -/
def ProjectError.message : ProjectError → String
  | config failure => failure.message
  | system path => "I/O failed for " ++ path ++ ": " ++ Cause.system.tag
  | discovery folder failure =>
    "failed to list workbooks in " ++ folder ++ ": " ++ failure.message
  | workbook failure => failure.message
  | header path failure => path ++ ": " ++ failure.message
  | asset failure => failure.message
  | duplicateMaster master first second =>
    "master " ++ master ++ " is declared twice: " ++ first ++ " and " ++ second
  | invalidMasterName master origin fault =>
    "master '" ++ master ++ "' in " ++ origin ++ ": " ++ fault.message
  | manifest path fault => "schema manifest " ++ path ++ ": " ++ fault.message
  | missingSheet master path sheet =>
    "master " ++ master ++ ": workbook " ++ path ++ " has no sheet named '" ++ sheet ++ "'"
  | anchorMoved master sheet expected found =>
    "master " ++ master ++ ": anchor on sheet '" ++ sheet ++ "' moved from " ++ expected.label
      ++ " to " ++ (found.map Address.label).getD "nowhere"
  | stale files =>
    toString files.length ++ " generated file(s) out of date:\n"
      ++ "\n".intercalate (files.map ("  " ++ ·))

end MasterData
