-- SUMMARY: The manifest of a project: its compiled schemas.
import MasterData.Json.Printer
import MasterData.Json.Reader
import MasterData.Project.Error

/-! # Manifests

The manifest lists the schemas of all masters in compile order. Compiling writes it beside the
generated source, and the later stages read it there instead of all workbooks.
-/

namespace MasterData

/-- The compiled schemas of a project. -/
structure Manifest where
  version : UInt32
  masters : List MasterSchema
  deriving DecidableEq

namespace Manifest

/-- The name of the file of a manifest. -/
def fileName : String := "masters.json"

/-- The manifest of schemas in compile order. -/
def ofSchemas (masters : List MasterSchema) : Manifest := ⟨manifestVersion, masters⟩

def masterNames (m : Manifest) : List String :=
  m.masters.map (·.masterName)

/-! ## The written form -/

def toJson (m : Manifest) : Json :=
  .object [
    ("version", .ofNat m.version.toNat),
    ("masters", .list (m.masters.map MasterSchema.toJson))]

/-- The text of a manifest, with a line end at the end. -/
def render (m : Manifest) : String :=
  m.toJson.pretty ++ "\n"

/-- The manifest that a tree spells: of at most 127 nested lists and objects it takes two around its
schemas. -/
def ofJson? (j : Json) : Option Manifest := do
  let f ← j.fields? ["version", "masters"]
  let version ← f.required? "version" Json.asUInt32?
  let masters ← f.required? "masters" (Json.asListOf? (MasterSchema.ofJson? (127 - 2)))
  return { version, masters }

/-- What is wrong with a manifest, if anything is. -/
def fault? (m : Manifest) : Option ManifestFault :=
  if m.version ≠ manifestVersion then some (.unsupportedVersion m.version)
  else (m.masters.find? (·.fields = [])).map fun s => .masterWithoutFields s.masterName

/-- The manifest that a text spells; `path` names the text. -/
def ofText (path text : String) : Except ProjectError Manifest :=
  match (Json.parseText? text).bind ofJson? with
  | none => .error (.manifest path .malformed)
  | some m =>
    match m.fault? with
    | some fault => .error (.manifest path fault)
    | none => .ok m

/-- The manifest in a folder. -/
def load (d : Disk) (folder : String) : Except ProjectError Manifest :=
  let path := Path.join folder fileName
  match d.readText path with
  | .ok text => ofText path text
  | .error .notFound => .error (.manifest path .missing)
  | .error .refused => .error (.system path)

end Manifest

end MasterData
