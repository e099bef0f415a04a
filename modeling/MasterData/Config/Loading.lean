-- SUMMARY: Configurations loaded from texts and files.
import MasterData.Cause
import MasterData.Config.Validation
import MasterData.Disk.Basic
import MasterData.Yaml.Reader

/-! # Loading a configuration

A configuration is loaded only if it has no issues. Its folder is the one that its file is in.
-/

namespace MasterData

/-- Why a configuration is not loaded. -/
inductive ConfigError where
  | cannotRead (path : String)
  | malformed (path : String)
  | invalid (issues : List ConfigIssue)
  deriving DecidableEq

/-- The wording of a failure. -/
def ConfigError.message : ConfigError → String
  | cannotRead path => "failed to read config " ++ path ++ ": " ++ Cause.system.tag
  | malformed path => "failed to parse config " ++ path ++ ": " ++ Cause.yaml.tag
  | invalid issues =>
    "invalid config:\n"
      ++ "\n".intercalate (issues.map fun issue => "  - " ++ issue.path ++ ": " ++ issue.message)

namespace Config

/-- The configuration unless it has issues. -/
def validated (c : Config) : Except ConfigError Config :=
  if c.IsValid then .ok c else .error (.invalid c.issues)

/-- The configuration in a folder that a YAML text spells; `source` names the text. -/
def ofText (source baseDir text : String) : Except ConfigError Config :=
  match (Yaml.parse? text).bind (ofYaml? baseDir) with
  | some c => c.validated
  | none => .error (.malformed source)

/-- What stands for the path of a text that is in no file. -/
def inlineSource : String := "<inline>"

/-- The configuration in the file at a path. -/
def load (d : Disk) (path : String) : Except ConfigError Config :=
  match d.readText path with
  | .ok text => ofText path ((Path.parent? path).getD "") text
  | .error _ => .error (.cannotRead path)

end Config

end MasterData
