-- SUMMARY: Failures around stored assets.
import MasterData.Cause
import MasterData.Text.Quoted

/-! # Asset errors

What can go wrong between a stored asset and the application that reads it.
-/

namespace MasterData

/-- A failure around a stored asset. -/
inductive AssetError where
  /-- The system refused a file operation at a path. -/
  | system (path : String)
  /-- The file at a path holds no asset. -/
  | malformed (path : String)
  | alreadyInitialized (master : String)
  | invalidMasterName (master : String)
  | missingAsset (master : String)
  /-- The fields of the asset are not those that the application expects. -/
  | fieldMismatch (master : String) (expected found : List String)
  deriving DecidableEq

/-- A list of texts as literals in brackets. -/
def quotedList (texts : List String) : String :=
  "[" ++ ", ".intercalate (texts.map Text.quoted) ++ "]"

/-- The wording of a failure. -/
def AssetError.message : AssetError → String
  | system path => "asset I/O failed for " ++ path ++ ": " ++ Cause.system.tag
  | malformed path => "asset " ++ path ++ " is not a valid master asset: " ++ Cause.json.tag
  | alreadyInitialized master => master ++ " is already initialized"
  | invalidMasterName master => "master name '" ++ master ++ "' cannot name an asset file"
  | missingAsset master => "no asset found for master " ++ master
  | fieldMismatch master expected found =>
    "asset for " ++ master ++ " has fields " ++ quotedList found ++ ", expected "
      ++ quotedList expected

end MasterData
