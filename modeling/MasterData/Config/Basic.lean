-- SUMMARY: The configuration of a project.
import MasterData.Code.RecordModule
import MasterData.Json.Shape
import MasterData.Path
import MasterData.Schema.TypeTable
import MasterData.Yaml.Node

/-! # Project configuration

A project names the folder of its workbooks, those of its generated source and of its assets, the
path under which generated code finds its runtime, and further type names. Folders are relative to
the folder of the configuration.
-/

namespace MasterData

/-- The type names of a project: other names for primitives, and enumerations with their members. -/
structure TypeNames where
  aliases : SortedMap String String
  enums : SortedMap String (List String)
  deriving DecidableEq, Inhabited

/-- The configuration of a project. -/
structure Config where
  workbooks : String
  generatedSource : String
  assets : String
  runtimeCrate : String
  types : TypeNames
  /-- The folder of the configuration. -/
  baseDir : String
  deriving DecidableEq, Inhabited

namespace Config

/-- The path of the runtime where a configuration names none. -/
def defaultRuntimeCrate : String := "sheetmaster_runtime"

/-- The name of the file that holds the configuration of a project. -/
def fileName : String := "sheetmaster.yaml"

def workbooksFolder (c : Config) : String := Path.join c.baseDir c.workbooks

def generatedFolder (c : Config) : String := Path.join c.baseDir c.generatedSource

def assetsFolder (c : Config) : String := Path.join c.baseDir c.assets

def codeOptions (c : Config) : CodeOptions := ⟨c.runtimeCrate⟩

/-- The type names that headers may use; an alias of no primitive is left out. -/
def typeTable (c : Config) : TypeTable where
  aliases := .ofList (c.types.aliases.toList.filterMap fun (name, target) =>
    (Primitive.ofName? target).map (name, ·))
  enums := c.types.enums

/-! ## The written form -/

def toJson (c : Config) : Json :=
  .object [
    ("workbooks", .text c.workbooks),
    ("generated_source", .text c.generatedSource),
    ("assets", .text c.assets),
    ("runtime_crate", .text c.runtimeCrate),
    ("types", .object [
      ("aliases", .object (c.types.aliases.toList.map fun (name, target) => (name, .text target))),
      ("enums", .object (c.types.enums.toList.map fun (name, members) =>
        (name, .list (members.map .text))))])]

/-- The fields of a configuration. -/
def fieldNames : List String :=
  ["workbooks", "generated_source", "assets", "runtime_crate", "types"]

/-- The type names that a JSON value spells. -/
def typeNamesOfJson? (j : Json) : Option TypeNames := do
  let f ← j.onlyFields? ["aliases", "enums"]
  let aliases ← f.defaulted? "aliases" [] (Json.asMembersOf? Json.asText?)
  let enums ← f.defaulted? "enums" [] (Json.asMembersOf? (Json.asListOf? Json.asText?))
  return { aliases := .ofList aliases, enums := .ofList enums }

/-- The configuration in a folder that a JSON value spells. -/
def ofJson? (baseDir : String) (j : Json) : Option Config := do
  let f ← j.onlyFields? fieldNames
  let workbooks ← f.required? "workbooks" Json.asText?
  let generatedSource ← f.required? "generated_source" Json.asText?
  let assets ← f.required? "assets" Json.asText?
  let runtimeCrate ← f.defaulted? "runtime_crate" defaultRuntimeCrate Json.asText?
  let types ← f.defaulted? "types" default typeNamesOfJson?
  return { workbooks, generatedSource, assets, runtimeCrate, types, baseDir }

/-- The type names that a YAML value spells. -/
def typeNamesOfYaml? (n : Yaml.Node) : Option TypeNames := do
  let members ← n.onlyFields? ["aliases", "enums"]
  let aliases ← ((members.lookup "aliases").getD .blank).asMembersOf? Yaml.Node.asText?
  let enums ← ((members.lookup "enums").getD .blank).asMembersOf?
    (Yaml.Node.asListOf? Yaml.Node.asText?)
  return { aliases := .ofList aliases, enums := .ofList enums }

/-- The configuration in a folder that a YAML value spells. -/
def ofYaml? (baseDir : String) (n : Yaml.Node) : Option Config := do
  let members ← n.onlyFields? fieldNames
  let workbooks ← (← members.lookup "workbooks").asText?
  let generatedSource ← (← members.lookup "generated_source").asText?
  let assets ← (← members.lookup "assets").asText?
  let runtimeCrate ← ((members.lookup "runtime_crate").getD (.text defaultRuntimeCrate)).asText?
  let types ← typeNamesOfYaml? ((members.lookup "types").getD .blank)
  return { workbooks, generatedSource, assets, runtimeCrate, types, baseDir }

end Config

end MasterData
