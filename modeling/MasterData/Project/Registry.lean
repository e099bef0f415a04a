-- SUMMARY: The names that the masters of a project have taken.
import MasterData.Project.Error
import MasterData.Store.Folder

/-! # Registries

Every master needs a module and a type of its own, and a name that can name its asset. A registry
remembers which sheet took which name, so that a second claim can tell both.
-/

namespace MasterData

/-- The modules and types that are taken, each with the sheet that declares its master. -/
structure Registry where
  modules : SortedMap String String
  types : SortedMap String String
  /-- The types that the configuration takes for enumerations. -/
  enums : List String
  deriving DecidableEq

namespace Registry

/-- The registry of a project without masters. -/
def ofConfig (c : Config) : Registry where
  modules := .empty
  types := .empty
  enums := c.types.enums.keys.map Naming.typeName

/-- The sheet that declares a master, as messages name it. -/
def originOf (s : MasterSchema) : String :=
  s.source.workbook ++ "/" ++ s.source.sheet

/-- What is wrong with a master name in itself, if anything is. -/
def nameFault? (r : Registry) (master : String) : Option NameFault :=
  let type := Naming.typeName master
  if !isValidAssetName master then some .leavesFolder
  else if Naming.isReservedType type then some (.reservedType type)
  else if r.enums.contains type then some (.configuredEnum type)
  else none

/-- The registry with the names of a further master. -/
def claim (r : Registry) (s : MasterSchema) : Except ProjectError Registry :=
  let origin := originOf s
  let moduleName := Naming.moduleName s.masterName
  let typeName := Naming.typeName s.masterName
  match r.nameFault? s.masterName, r.modules.get? moduleName, r.types.get? typeName with
  | some fault, _, _ => .error (.invalidMasterName s.masterName origin fault)
  | none, some first, _ => .error (.duplicateMaster s.masterName first origin)
  | none, none, some first => .error (.duplicateMaster s.masterName first origin)
  | none, none, none =>
    .ok { r with
      modules := r.modules.insert moduleName origin
      types := r.types.insert typeName origin }

end Registry

end MasterData
