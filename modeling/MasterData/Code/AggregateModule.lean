-- SUMMARY: The generated module that ties all masters together.
import MasterData.Code.RecordModule

/-! # The aggregate module

The aggregate declares the module of every master, holds one index for each of them, and loads them
all in compile order.
-/

namespace MasterData

open Code

/-- A master as the aggregate refers to it. -/
structure AggregateEntry where
  moduleName : String
  typeName : String
  deriving DecidableEq

/-- All that the aggregate shows. -/
structure AggregateModule where
  runtimePath : String
  entries : List AggregateEntry
  deriving DecidableEq

namespace AggregateModule

/-- The aggregate of masters in compile order. -/
def ofMasters (options : CodeOptions) (names : List String) : AggregateModule where
  runtimePath := options.runtimePath
  entries := names.map fun name => ⟨Naming.moduleName name, Naming.typeName name⟩

/-- The modules and the record types that they give away. -/
def entryItems (entries : List AggregateEntry) : List Item :=
  match entries with
  | [] => []
  | entries =>
    .blank :: entries.map (fun e => .line ("pub mod " ++ e.moduleName ++ ";"))
    ++ .blank
      :: entries.map (fun e => .line ("pub use " ++ e.moduleName ++ "::" ++ e.typeName ++ ";"))

/-- The body of the function that loads all masters. -/
def loadItems (entries : List AggregateEntry) : List Item :=
  match entries with
  | [] => [.line "let _ = store;", .line "Ok(Self \x7b\x7d)"]
  | entries =>
    entries.map (fun e =>
      .line ("let " ++ e.moduleName ++ " = " ++ e.moduleName ++ "::load_and_index(store)?;"))
    ++ .openBlock "Ok(Self \x7b" :: entries.map (fun e => .line (e.moduleName ++ ","))
    ++ [.closeBlock "\x7d)"]

def items (m : AggregateModule) : List Item :=
  [.line (generatedBy ++ ". Do not edit."),
    .blank,
    .innerDoc "Every compiled master, loaded together."]
  ++ entryItems m.entries
  ++ [.blank,
    .line ("use " ++ m.runtimePath
      ++ "::\x7bAssetStore, MasterIndex, MasterSlot, RuntimeError\x7d;"),
    .blank,
    .doc "One index per master.",
    .line "#[derive(Debug)]",
    .openBlock "pub struct Masters \x7b"]
  ++ m.entries.map (fun e =>
    .line ("pub " ++ e.moduleName ++ ": MasterIndex<" ++ e.typeName ++ ">,"))
  ++ [.closeBlock "\x7d",
    .blank,
    .openBlock "impl Masters \x7b",
    .doc "Load and index every master, in compile order.",
    .openBlock "pub fn load(store: &dyn AssetStore) -> Result<Self, RuntimeError> \x7b"]
  ++ loadItems m.entries
  ++ [.closeBlock "\x7d",
    .closeBlock "\x7d",
    .blank,
    .line "static MASTERS: MasterSlot<Masters> = MasterSlot::new(\"Masters\");",
    .blank,
    .doc "Load every master once per process. Later calls return the published set.",
    .openBlock
      "pub fn init_masters(store: &dyn AssetStore) -> Result<&'static Masters, RuntimeError> \x7b",
    .line "MASTERS.get_or_try_init(|| Masters::load(store))",
    .closeBlock "\x7d",
    .blank,
    .doc "The published masters, once `init_masters` has succeeded.",
    .openBlock "pub fn masters() -> Option<&'static Masters> \x7b",
    .line "MASTERS.get()",
    .closeBlock "\x7d"]

/-- The source of the aggregate. -/
def render (m : AggregateModule) : String :=
  Code.render m.items

end AggregateModule

end MasterData
