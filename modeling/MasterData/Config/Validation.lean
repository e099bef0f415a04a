-- SUMMARY: What is wrong with a configuration.
import MasterData.Code.Naming
import MasterData.Config.Basic

/-! # Checking a configuration

A check lists every issue of a configuration at once: paths first, then the runtime, then aliases and
enumerations by name. Main definitions: `Config.issues` and `Config.IsValid`.
-/

namespace MasterData

/-- An issue of a configuration. -/
inductive ConfigIssue where
  | emptyPath (key : String)
  | notARuntimePath (text : String)
  /-- An alias has the name of a built-in type. -/
  | aliasShadowsBuiltin (name : String)
  | aliasOfNoPrimitive (name target : String)
  | aliasIsEnum (name : String)
  | enumNotAnIdentifier (name : String)
  | enumReserved (name type : String)
  /-- Two enumerations would generate one type. -/
  | enumClash (name type other : String)
  | enumWithoutMembers (name : String)
  | memberNotAnIdentifier (enum : String) (index : Nat) (member : String)
  | memberRepeated (enum : String) (index : Nat) (member : String)
  /-- Two members would generate one variant. -/
  | memberClash (enum : String) (index : Nat) (member other variant : String)
  deriving DecidableEq

namespace ConfigIssue

def aliasPath (name : String) : String := "types.aliases." ++ name

def enumPath (name : String) : String := "types.enums." ++ name

def memberPath (enum : String) (index : Nat) : String :=
  enumPath enum ++ "[" ++ toString index ++ "]"

/-- Where an issue is. -/
def path : ConfigIssue → String
  | emptyPath key => key
  | notARuntimePath _ => "runtime_crate"
  | aliasShadowsBuiltin name => aliasPath name
  | aliasOfNoPrimitive name _ => aliasPath name
  | aliasIsEnum name => aliasPath name
  | enumNotAnIdentifier name => enumPath name
  | enumReserved name _ => enumPath name
  | enumClash name _ _ => enumPath name
  | enumWithoutMembers name => enumPath name
  | memberNotAnIdentifier enum index _ => memberPath enum index
  | memberRepeated enum index _ => memberPath enum index
  | memberClash enum index _ _ _ => memberPath enum index

/-- A word between the marks for code. -/
def code (s : String) : String := "`" ++ s ++ "`"

/-- The wording of an issue. -/
def message : ConfigIssue → String
  | emptyPath _ => "path must not be empty"
  | notARuntimePath text => code text ++ " is not a Rust path"
  | aliasShadowsBuiltin _ => "alias shadows a built-in type"
  | aliasOfNoPrimitive _ target => code target ++ " is not a primitive type name"
  | aliasIsEnum _ => "name is also declared as an enum"
  | enumNotAnIdentifier _ => "enum name must be a Rust identifier"
  | enumReserved _ type => "type " ++ code type ++ " is reserved by generated code"
  | enumClash _ type other => "generates type " ++ code type ++ ", as does " ++ code other
  | enumWithoutMembers _ => "enum needs at least one member"
  | memberNotAnIdentifier _ _ member => code member ++ " is not a Rust identifier"
  | memberRepeated _ _ member => "duplicate member " ++ code member
  | memberClash _ _ member other variant =>
    code member ++ " and " ++ code other ++ " generate the same variant " ++ code variant

end ConfigIssue

namespace Config

/-! ## Paths -/

def pathIssues (c : Config) : List ConfigIssue :=
  [("workbooks", c.workbooks), ("generated_source", c.generatedSource), ("assets", c.assets)]
    |>.filterMap fun (key, path) => if path = "" then some (.emptyPath key) else none

/-- A character that can start a segment of a runtime path. -/
def startsSegment (c : Char) : Bool := c.isAlpha || c = '_'

/-- Whether the rest of a text goes on as a runtime path: ASCII words with two colons between them;
`fresh` tells whether a segment starts. -/
def isRuntimePathFrom (fresh : Bool) : List Char → Bool
  | [] => !fresh
  | ':' :: ':' :: cs => !fresh && isRuntimePathFrom true cs
  | c :: cs =>
    (startsSegment c || (!fresh && c.isDigit)) && isRuntimePathFrom false cs

def isRuntimePath (text : String) : Bool := isRuntimePathFrom true text.toList

def runtimeIssues (c : Config) : List ConfigIssue :=
  if isRuntimePath c.runtimeCrate then [] else [.notARuntimePath c.runtimeCrate]

/-! ## Aliases -/

def aliasIssues (types : TypeNames) (name target : String) : List ConfigIssue :=
  (if (Primitive.ofName? name).isSome then [.aliasShadowsBuiltin name] else [])
  ++ (if (Primitive.ofName? target).isNone then [.aliasOfNoPrimitive name target] else [])
  ++ (if (types.enums.get? name).isSome then [.aliasIsEnum name] else [])

/-! ## Enumerations -/

/-- The issues of a member behind earlier ones, the latest of them first. -/
def memberIssues (enum : String) (earlier : List String) (index : Nat) (member : String) :
    List ConfigIssue :=
  let variant := Naming.typeName member
  (if Naming.isIdentifier member then [] else [.memberNotAnIdentifier enum index member])
  ++ match earlier.find? fun other => Naming.typeName other = variant with
    | none => []
    | some other =>
      if other = member then [.memberRepeated enum index member]
      else [.memberClash enum index member other variant]

/-- The issues of the members from an index on. -/
def membersIssues (enum : String) : List String → Nat → List String → List ConfigIssue
  | _, _, [] => []
  | earlier, index, member :: rest =>
    memberIssues enum earlier index member ++ membersIssues enum (member :: earlier) (index + 1) rest

/-- The issues of an enumeration behind earlier ones, the latest of them first. -/
def enumIssues (earlier : List String) (name : String) (members : List String) :
    List ConfigIssue :=
  let type := Naming.typeName name
  (if Naming.isIdentifier name then [] else [.enumNotAnIdentifier name])
  ++ (if Naming.isReservedType type then [.enumReserved name type] else [])
  ++ (match earlier.find? fun other => Naming.typeName other = type with
    | none => []
    | some other => [.enumClash name type other])
  ++ (if members = [] then [.enumWithoutMembers name] else [])
  ++ membersIssues name [] 0 members

/-- The issues of the enumerations behind earlier ones. -/
def enumsIssues : List String → List (String × List String) → List ConfigIssue
  | _, [] => []
  | earlier, (name, members) :: rest =>
    enumIssues earlier name members ++ enumsIssues (name :: earlier) rest

/-! ## The whole configuration -/

/-- Every issue of a configuration. -/
def issues (c : Config) : List ConfigIssue :=
  c.pathIssues ++ c.runtimeIssues
  ++ c.types.aliases.toList.flatMap (fun (name, target) => aliasIssues c.types name target)
  ++ enumsIssues [] c.types.enums.toList

/-- A configuration without issues. -/
def IsValid (c : Config) : Prop := c.issues = []

instance (c : Config) : Decidable c.IsValid := inferInstanceAs (Decidable (c.issues = []))

end Config

end MasterData
