-- SUMMARY: The generated module of a master.
import MasterData.Code.Layout
import MasterData.Code.Naming
import MasterData.Schema.Master
import MasterData.Text.Blank
import MasterData.Text.Quoted

/-! # Record modules

The module of a master declares the type of its records, binds the key, names the fields of the
asset in order, and declares the enumerations that its fields use.
-/

namespace MasterData

open Code

/-- Choices that all generated sources share. -/
structure CodeOptions where
  /-- The path under which generated code finds the types it builds on. -/
  runtimePath : String

/-- A field of a record type. -/
structure RecordField where
  ident : String
  columnName : String
  fieldType : String
  doc : String
  deriving DecidableEq

/-- An enumeration, its variants with the members that they stand for. -/
structure EnumType where
  typeName : String
  variants : List (String × String)
  deriving DecidableEq

/-- All that the module of a master shows. -/
structure RecordModule where
  runtimePath : String
  workbook : String
  sheet : String
  masterName : String
  typeName : String
  doc : String
  fields : List RecordField
  keyType : String
  /-- Whether a key has to be cloned to be handed out. -/
  keyClones : Bool
  enums : List EnumType
  /-- Whether a field has an opaque type. -/
  usesOpaque : Bool
  deriving DecidableEq

namespace RecordModule

/-! ## From a schema -/

/-- The kind of a column, or of the elements of an array. -/
def scalarKind : FieldKind → FieldKind
  | .array element _ => element
  | kind => kind

/-- The enumeration of a kind. -/
def enumOfKind? : FieldKind → Option EnumType
  | .enumeration name members =>
    some ⟨Naming.typeName name, members.map fun m => (Naming.typeName m, m)⟩
  | _ => none

/-- The enumerations without those whose type an earlier one declares. -/
def distinctEnums (enums : List EnumType) : List EnumType :=
  enums.foldl (fun kept e => if kept.any (·.typeName = e.typeName) then kept else kept ++ [e]) []

def isOpaque : FieldKind → Bool
  | .opaqueType _ => true
  | _ => false

/-- The module of a schema; without fields there is no key and no module. -/
def ofSchema? (options : CodeOptions) (s : MasterSchema) : Option RecordModule :=
  s.keyField?.map fun key =>
    let kinds := s.fields.map fun c => scalarKind c.kind
    let description := Text.trim s.masterDescription
    { runtimePath := options.runtimePath
      workbook := s.source.workbook
      sheet := s.source.sheet
      masterName := s.masterName
      typeName := Naming.typeName s.masterName
      doc := if description = "" then "One row of the `" ++ s.masterName ++ "` master."
        else description
      fields := List.zipWith
        (fun (c : Column) ident =>
          ⟨ident, c.fieldName, Naming.fieldType c.kind, Text.trim c.description⟩)
        s.fields (Naming.fieldIdents s.fieldNames)
      keyType := Naming.fieldType key.kind
      keyClones := key.kind = .string
      enums := distinctEnums (kinds.filterMap enumOfKind?)
      usesOpaque := kinds.any isOpaque }

/-! ## Source -/

/-- The names that the module imports, in alphabetic order. -/
def imports (m : RecordModule) : List String :=
  let enums := m.enums ≠ []
  ["AssetStore"]
    ++ (if m.usesOpaque ∨ enums then ["FieldValue"] else [])
    ++ (if enums then ["FromFieldValue"] else [])
    ++ ["Keyed", "MasterIndex", "MasterRecord", "MasterRow", "RuntimeError"]
    ++ (if enums then ["UnknownMember"] else [])

def headItems (m : RecordModule) : List Item := [
  .line (generatedBy ++ " from " ++ m.workbook ++ ", sheet " ++ Text.quoted m.sheet
    ++ ". Do not edit."),
  .blank,
  .innerDoc m.doc,
  .blank,
  .line ("use " ++ m.runtimePath ++ "::\x7b" ++ ", ".intercalate m.imports ++ "\x7d;")]

def fieldItems (f : RecordField) : List Item :=
  (if f.doc = "" then [] else [.doc f.doc]) ++ [.line ("pub " ++ f.ident ++ ": " ++ f.fieldType ++ ",")]

def structItems (m : RecordModule) : List Item :=
  [.blank,
    .doc m.doc,
    .line "#[derive(Clone, Debug, PartialEq)]",
    .openBlock ("pub struct " ++ m.typeName ++ " \x7b")]
  ++ m.fields.flatMap fieldItems
  ++ [.closeBlock "\x7d"]

/-- The binding of the key to its field. -/
def keyItems (m : RecordModule) (key : RecordField) : List Item := [
  .blank,
  .openBlock ("impl Keyed for " ++ m.typeName ++ " \x7b"),
  .line ("type Key = " ++ m.keyType ++ ";"),
  .blank,
  .openBlock "fn key(&self) -> Self::Key \x7b",
  .line ("self." ++ key.ident ++ (if m.keyClones then ".clone()" else "")),
  .closeBlock "\x7d",
  .closeBlock "\x7d"]

/-- The names of the fields in the asset, and a record built from its values. -/
def rowItems (m : RecordModule) : List Item :=
  [.blank,
    .openBlock ("impl MasterRow for " ++ m.typeName ++ " \x7b"),
    .line ("const MASTER_NAME: &'static str = " ++ Text.quoted m.masterName ++ ";"),
    .openBlock "const FIELDS: &'static [&'static str] = &["]
  ++ m.fields.map (fun f => .line (Text.quoted f.columnName ++ ","))
  ++ [.closeBlock "];",
    .blank,
    .openBlock "fn from_record(record: &MasterRecord) -> Self \x7b",
    .openBlock "Self \x7b"]
  ++ m.fields.zipIdx.map (fun (f, i) =>
    .line (f.ident ++ ": record.decode(" ++ toString i ++ "),"))
  ++ [.closeBlock "\x7d", .closeBlock "\x7d", .closeBlock "\x7d"]

/-- The function that loads the asset. -/
def loadItems (m : RecordModule) (key : RecordField) : List Item := [
  .blank,
  .doc ("Load the `" ++ m.masterName ++ "` asset and index it by `" ++ key.columnName ++ "`."),
  .openBlock ("pub fn load_and_index(store: &dyn AssetStore) -> Result<MasterIndex<" ++ m.typeName
    ++ ">, RuntimeError> \x7b"),
  .line ("<" ++ m.typeName ++ " as MasterRow>::load_and_index(store)"),
  .closeBlock "\x7d"]

def implItems (m : RecordModule) : List Item :=
  match m.fields with
  | [] => []
  | key :: _ => m.keyItems key ++ m.rowItems ++ m.loadItems key

/-- The variants of an enumeration; the first one is its default. -/
def variantItems (e : EnumType) : List Item :=
  match e.variants with
  | [] => []
  | first :: rest =>
    .line "#[default]" :: (first :: rest).map fun (variant, _) => .line (variant ++ ",")

def enumItems (e : EnumType) : List Item :=
  [.blank,
    .line "#[derive(Clone, Copy, Debug, Default, PartialEq, Eq, Hash)]",
    .openBlock ("pub enum " ++ e.typeName ++ " \x7b")]
  ++ variantItems e
  ++ [.closeBlock "\x7d",
    .blank,
    .openBlock ("impl std::str::FromStr for " ++ e.typeName ++ " \x7b"),
    .line "type Err = UnknownMember;",
    .blank,
    .openBlock "fn from_str(s: &str) -> Result<Self, Self::Err> \x7b",
    .openBlock "match s \x7b"]
  ++ e.variants.map (fun (variant, member) =>
    .line (Text.quoted member ++ " => Ok(Self::" ++ variant ++ "),"))
  ++ [.line ("other => Err(UnknownMember::new(" ++ Text.quoted e.typeName ++ ", other)),"),
    .closeBlock "\x7d",
    .closeBlock "\x7d",
    .closeBlock "\x7d",
    .blank,
    .openBlock ("impl FromFieldValue for " ++ e.typeName ++ " \x7b"),
    .openBlock "fn from_field_value(value: &FieldValue) -> Option<Self> \x7b",
    .line "value.as_text()?.parse().ok()",
    .closeBlock "\x7d",
    .closeBlock "\x7d"]

def items (m : RecordModule) : List Item :=
  m.headItems ++ m.structItems ++ m.implItems ++ m.enums.flatMap enumItems

/-- The source of the module. -/
def render (m : RecordModule) : String :=
  Code.render m.items

end RecordModule

/-- The source of the module of a schema. -/
def MasterSchema.source? (options : CodeOptions) (s : MasterSchema) : Option String :=
  (RecordModule.ofSchema? options s).map RecordModule.render

end MasterData
