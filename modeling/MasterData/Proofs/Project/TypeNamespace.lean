-- SUMMARY: Which types and modules the aggregate declares, and when no two of them share a name.
import MasterData.Proofs.Code.AggregateModule
import MasterData.Proofs.Config.TypeNames
import MasterData.Proofs.Project.Registry

/-! # Types and modules of the aggregate

The aggregate declares a module for every master, exports its record type, imports four types of the
runtime and declares one of its own. The masters of a registry have different modules and different
types, and the types of the aggregate itself are reserved and hold capitals, which no module does. So a
name is declared twice exactly if a module has the name of a type, and that takes a type without
capitals: a master in a script without cases has such a one.
Main statement: `type_names_nodup_unless_caseless`.
-/

namespace MasterData

open Code

/-! ## Reading declarations -/

namespace Code

/-- The keywords of items that declare a type or a module. -/
def typeKeywords : List String := ["mod", "struct", "enum", "trait", "type"]

/-- The words of an import at which it, or a branch of it, ends. -/
def importedNames : List String → List String
  | name :: stop :: rest =>
    (if name.toList.all Text.isWordPart && [",", "\x7d", ";"].contains stop then [name] else [])
    ++ importedNames (stop :: rest)
  | _ => []

/-- The types and modules that a line of tokens declares or imports. -/
def typeNamesIn (line : List String) : List String :=
  match (if line.head? = some "pub" then line.tail else line) with
  | [] => []
  | keyword :: rest =>
    if typeKeywords.contains keyword then rest.take 1
    else if keyword = "use" then importedNames rest
    else []

/-- The types and modules that a source declares or imports, in order. -/
def typeNames (source : String) : List String := (sourceTokens source).flatMap typeNamesIn

/-- The types and modules that an item declares or imports. -/
def Item.typeNames (item : Item) : List String := item.contents.flatMap (typeNamesIn <| tokens ·)

theorem typeNames_render {items : List Item} (h : ∀ item ∈ items, item.IsUnbroken) :
    typeNames (render items) = items.flatMap Item.typeNames := by
  rw [typeNames, sourceTokens_render h, List.flatMap_map, List.flatMap_assoc]
  rfl

/-! ## Single lines -/

/-- A line that is written out is read character by character. -/
theorem typeNames_ofList {item : Item} {cs : List Char} {names : List String}
    (hitem : item.contents = [String.ofList cs]) (h : typeNamesIn (tokensFrom [] cs) = names) :
    item.typeNames = names := by
  rw [Item.typeNames, hitem, List.flatMap_singleton, tokens_ofList, h]

theorem typeNamesIn_of_not_isKeyword {name : String} (h : Naming.isKeyword name = false)
    (rest : List String) :
    typeNamesIn (name :: rest) = [] ∧ typeNamesIn ("pub" :: name :: rest) = [] := by
  have hdeclares : typeKeywords.contains name = false ∧ name ≠ "use" ∧ name ≠ "pub" := by
    have hsub : ∀ keyword ∈ "use" :: "pub" :: typeKeywords, Naming.isKeyword keyword = true := by
      decide
    have hnot : name ∉ "use" :: "pub" :: typeKeywords := fun hmem => by
      rw [hsub name hmem] at h
      cases h
    simp only [List.mem_cons, not_or] at hnot
    exact ⟨by simpa using hnot.2.2, hnot.1, hnot.2.1⟩
  obtain ⟨hkeyword, huse, hpub⟩ := hdeclares
  simp [typeNamesIn, hpub, -List.contains_eq_mem, hkeyword, huse]

/-- A comment declares nothing, whatever it says. -/
theorem typeNames_comment {text : String} {item : Item}
    (hitem : item = .doc text ∨ item = .innerDoc text) : item.typeNames = [] := by
  refine List.flatMap_eq_nil_iff.2 fun line hline => ?_
  obtain ⟨rest, hrest⟩ := List.head?_eq_some_iff.1 (head?_tokens_comment hitem line hline)
  rw [hrest]
  exact (typeNamesIn_of_not_isKeyword (by decide) rest).1

/-- Of a path before a group of names only the names of the group are imported. -/
theorem importedNames_append {path : List String}
    (h : ∀ token ∈ path, token ∉ [",", "\x7d", ";"]) (names : List String) :
    importedNames (path ++ ":" :: names) = importedNames (":" :: names) := by
  induction path with
  | nil => rfl
  | cons token path ih =>
    rw [List.forall_mem_cons] at h
    rw [List.cons_append, ← ih h.2]
    -- What follows the first token is another one of the path or the colon behind it.
    cases path with
    | nil => simp [importedNames]
    | cons next path =>
      have hnext : [",", "\x7d", ";"].contains next = false := by
        simpa using h.2 next (List.mem_cons_self ..)
      simp [importedNames, -List.contains_eq_mem, hnext]

theorem typeNamesIn_import {path : String}
    (hpath : ∀ c ∈ path.toList, c = ':' ∨ Text.isWordPart c = true) :
    typeNamesIn (tokens ("use " ++ path
        ++ "::\x7bAssetStore, MasterIndex, MasterSlot, RuntimeError\x7d;"))
      = ["AssetStore", "MasterIndex", "MasterSlot", "RuntimeError"] := by
  have hstops : ∀ token ∈ tokens path, token ∉ [",", "\x7d", ";"] := by
    intro token htoken hstop
    have hmark : ∃ c ∈ token.toList, c ≠ ':' ∧ Text.isWordPart c = false := by
      simp only [List.mem_cons, List.not_mem_nil, or_false] at hstop
      rcases hstop with rfl | rfl | rfl
      · exact ⟨',', by decide, by decide, by decide⟩
      · exact ⟨'\x7d', by decide, by decide, by decide⟩
      · exact ⟨';', by decide, by decide, by decide⟩
    obtain ⟨c, hc, hcolon, hpart⟩ := hmark
    rcases hpath c (mem_of_mem_tokens htoken c hc) with h | h
    · exact hcolon h
    · rw [hpart] at h
      cases h
  have hgroup : tokens "::\x7bAssetStore, MasterIndex, MasterSlot, RuntimeError\x7d;"
      = [":", ":", "\x7b", "AssetStore", ",", "MasterIndex", ",", "MasterSlot", ",", "RuntimeError",
          "\x7d", ";"] := by
    rw [tokens_ofList]
    rfl
  rw [tokens_append_of_startsMarked _ (by decide), tokens_append_of_endsMarked (by decide), hgroup]
  exact (importedNames_append hstops _).trans rfl

/-! ## Lists of items -/

theorem typeNames_map_line {α : Type} {f : α → String} {names : α → List String} {xs : List α}
    (h : ∀ x ∈ xs, typeNamesIn (tokens (f x)) = names x) :
    (xs.map fun x => .line (f x)).flatMap Item.typeNames = xs.flatMap names := by
  induction xs with
  | nil => rfl
  | cons x xs ih =>
    rw [List.forall_mem_cons] at h
    have hfirst : (Item.line (f x)).typeNames = names x := by
      rw [Item.typeNames, Item.contents, List.flatMap_singleton, h.1]
    rw [List.map_cons, List.flatMap_cons, List.flatMap_cons, hfirst, ih h.2]

theorem typeNames_map_line_eq_nil {α : Type} {f : α → String} {xs : List α}
    (h : ∀ x ∈ xs, typeNamesIn (tokens (f x)) = []) :
    (xs.map fun x => .line (f x)).flatMap Item.typeNames = [] := by
  rw [typeNames_map_line h]
  exact List.flatMap_eq_nil_iff.2 fun _ _ => rfl

end Code

namespace AggregateModule

variable {m : AggregateModule}

/-! ## The aggregate -/

/-- The types that every aggregate imports, and its own. -/
def fixedTypeNames : List String :=
  ["AssetStore", "MasterIndex", "MasterSlot", "RuntimeError", "Masters"]

theorem isUpper_of_mem_fixedTypeNames :
    ∀ name ∈ fixedTypeNames, ∃ c ∈ name.toList, c.isUpper = true := by
  have hany : ∀ name ∈ fixedTypeNames, name.toList.any Char.isUpper = true := by decide
  exact fun name hname => List.any_eq_true.1 (hany name hname)

theorem isReservedType_of_mem_fixedTypeNames :
    ∀ name ∈ fixedTypeNames, Naming.isReservedType name = true := by
  decide

theorem typeNames_entryItems (h : ∀ e ∈ m.entries, e.IsSpelled) :
    (entryItems m.entries).flatMap Item.typeNames
      = m.entries.map (·.moduleName) ++ m.entries.map (·.typeName) := by
  have hdeclared : (m.entries.map fun e => Item.line ("pub mod " ++ e.moduleName ++ ";")).flatMap
      Item.typeNames = m.entries.flatMap fun e => [e.moduleName] := by
    refine typeNames_map_line fun e he => ?_
    rw [(h e he).tokens_declaration]
    rfl
  have hexported : (m.entries.map fun e =>
      Item.line ("pub use " ++ e.moduleName ++ "::" ++ e.typeName ++ ";")).flatMap
        Item.typeNames = m.entries.flatMap fun e => [e.typeName] := by
    refine typeNames_map_line fun e he => ?_
    rw [(h e he).tokens_export]
    have hword : e.typeName.toList.all Text.isWordPart = true :=
      List.all_eq_true.2 (h e he).typeName.2
    have hcolon : Text.isWordPart ':' = false := rfl
    simp [typeNamesIn, typeKeywords, importedNames, hword, hcolon]
  have hblank : Item.blank.typeNames = [] := rfl
  unfold entryItems
  split
  · rename_i hnil
    simp [hnil]
  · rw [List.flatMap_append, List.flatMap_cons, List.flatMap_cons, hblank, hdeclared, hexported,
      List.nil_append, List.nil_append, List.map_eq_flatMap, List.map_eq_flatMap]

theorem typeNames_loadItems (h : ∀ e ∈ m.entries, e.IsSpelled) :
    (loadItems m.entries).flatMap Item.typeNames = [] := by
  have hcalls : (m.entries.map fun e => Item.line
      ("let " ++ e.moduleName ++ " = " ++ e.moduleName ++ "::load_and_index(store)?;")).flatMap
        Item.typeNames = [] := by
    refine typeNames_map_line_eq_nil fun e he => ?_
    rw [(h e he).tokens_call]
    rfl
  have hlocals : (m.entries.map fun e => Item.line (e.moduleName ++ ",")).flatMap
      Item.typeNames = [] := by
    refine typeNames_map_line_eq_nil fun e he => ?_
    rw [(h e he).tokens_local]
    exact (typeNamesIn_of_not_isKeyword (h e he).not_isKeyword _).1
  unfold loadItems
  split
  · rfl
  · rw [List.flatMap_append, List.flatMap_append, List.flatMap_cons, hcalls, hlocals]
    have hopen : (Item.openBlock "Ok(Self \x7b").typeNames = [] := typeNames_ofList rfl rfl
    have hclose : [Item.closeBlock "\x7d)"].flatMap Item.typeNames = [] := rfl
    rw [hopen, hclose]
    rfl

theorem typeNames_fieldItems (h : ∀ e ∈ m.entries, e.IsSpelled) :
    (m.entries.map fun e => Item.line
      ("pub " ++ e.moduleName ++ ": MasterIndex<" ++ e.typeName ++ ">,")).flatMap
        Item.typeNames = [] := by
  refine typeNames_map_line_eq_nil fun e he => ?_
  rw [(h e he).tokens_field]
  exact (typeNamesIn_of_not_isKeyword (h e he).not_isKeyword _).2

theorem typeNames_mark : (Item.line (generatedBy ++ ". Do not edit.")).typeNames = [] := by
  have hmark : tokens generatedBy = ["/", "/", "@", "generated", "by", "sheetmaster"] := by
    rw [generatedBy, tokens_ofList]
    rfl
  rw [Item.typeNames, Item.contents, List.flatMap_singleton,
    tokens_append_of_startsMarked _ (by decide), hmark]
  exact (typeNamesIn_of_not_isKeyword (by decide) _).1

/-- All that the aggregate declares or imports among types and modules. -/
theorem typeNames_items (h : ∀ e ∈ m.entries, e.IsSpelled)
    (hpath : ∀ c ∈ m.runtimePath.toList, c = ':' ∨ Text.isWordPart c = true) :
    m.items.flatMap Item.typeNames
      = m.entries.map (·.moduleName) ++ m.entries.map (·.typeName)
        ++ fixedTypeNames := by
  -- Apart from the entries only the import and the head of the structure name anything.
  have hrest : ∀ {before imports loading behind names : List String}, before = [] →
      imports = fixedTypeNames → loading = [] → behind = [] →
      before ++ names ++ imports ++ [] ++ loading ++ [] ++ behind = names ++ fixedTypeNames := by
    rintro _ _ _ _ names rfl rfl rfl rfl
    simp
  rw [items]
  simp only [List.flatMap_append, typeNames_entryItems h, typeNames_fieldItems h,
    typeNames_loadItems h]
  have hblank : Item.blank.typeNames = [] := rfl
  have hcomment : ∀ text, (Item.doc text).typeNames = [] := fun _ => typeNames_comment (.inl rfl)
  refine hrest ?_ ?_ (List.flatMap_eq_nil_iff.2 ?_) (List.flatMap_eq_nil_iff.2 ?_)
  · rw [List.flatMap_cons, List.flatMap_cons, List.flatMap_singleton, typeNames_mark, hblank,
      typeNames_comment (.inr rfl)]
    rfl
  · have himport : (Item.line ("use " ++ m.runtimePath
        ++ "::\x7bAssetStore, MasterIndex, MasterSlot, RuntimeError\x7d;")).typeNames
          = ["AssetStore", "MasterIndex", "MasterSlot", "RuntimeError"] := by
      rw [Item.typeNames, Item.contents, List.flatMap_singleton, typeNamesIn_import hpath]
    have hderive : (Item.line "#[derive(Debug)]").typeNames = [] :=
      typeNames_ofList rfl rfl
    have hstruct : (Item.openBlock "pub struct Masters \x7b").typeNames = ["Masters"] :=
      typeNames_ofList rfl rfl
    rw [List.flatMap_cons, List.flatMap_cons, List.flatMap_cons, List.flatMap_cons,
      List.flatMap_cons, List.flatMap_singleton, hblank, himport, hcomment, hderive, hstruct]
    rfl
  · simp only [List.forall_mem_cons, hcomment, hblank, List.not_mem_nil,
      false_imp_iff, implies_true, true_and, and_true]
    and_intros <;> exact typeNames_ofList rfl rfl
  · simp only [List.forall_mem_cons, hcomment, hblank, List.not_mem_nil,
      false_imp_iff, implies_true, true_and, and_true]
    and_intros <;> exact typeNames_ofList rfl rfl

end AggregateModule

/-! ## Distinct names -/

namespace Naming

/-- A type with a capital of ASCII has the name of no module. -/
theorem moduleName_ne_of_isUpper {type : String} (h : ∃ c ∈ type.toList, c.isUpper = true)
    (master : String) : moduleName master ≠ type := by
  rintro rfl
  obtain ⟨c, hc, hupper⟩ := h
  rw [not_isUpper_of_mem_moduleName master c hc] at hupper
  cases hupper

end Naming

open AggregateModule (fixedTypeNames)

/-- The types and modules of the aggregate of a list of masters. -/
def aggregateTypeNames (options : CodeOptions) (masters : List String) : List String :=
  Code.typeNames (AggregateModule.ofMasters options masters).render

theorem aggregateTypeNames_eq {c : Config} (hc : c.IsValid) (masters : List String) :
    aggregateTypeNames c.codeOptions masters
      = masters.map Naming.moduleName ++ masters.map Naming.typeName
        ++ fixedTypeNames := by
  have hspelled := AggregateModule.isSpelled_ofMasters c.codeOptions masters
  have hpath := hc.forall_mem_runtimeCrate
  have hunbroken : Text.IsUnbroken c.runtimeCrate := by
    intro ch hch
    rcases hpath ch hch with rfl | hpart
    · decide
    · exact ne_of_isWordPart hpart
  rw [aggregateTypeNames, AggregateModule.render,
    typeNames_render (AggregateModule.isUnbroken_items hspelled hunbroken),
    AggregateModule.typeNames_items hspelled hpath]
  simp [AggregateModule.ofMasters, Function.comp_def]

/-- For masters that claim their names one after another the aggregate declares its modules, its record
types and its five own names, and no name twice exactly if no module has the name of a type. Types with a
capital of ASCII never do. -/
theorem type_names_nodup_unless_caseless {c : Config} (hc : c.IsValid) {schemas : List MasterSchema}
    {r : Registry} (hclaims : schemas.foldlM Registry.claim (Registry.ofConfig c) = .ok r) :
    let masters := schemas.map (·.masterName)
    aggregateTypeNames c.codeOptions masters
        = masters.map Naming.moduleName ++ masters.map Naming.typeName
          ++ fixedTypeNames
      ∧ ((aggregateTypeNames c.codeOptions masters).Nodup
        ↔ ∀ master ∈ masters, ∀ other ∈ masters,
          Naming.moduleName master ≠ Naming.typeName other)
      ∧ ((∀ master ∈ masters, ∃ ch ∈ (Naming.typeName master).toList, ch.isUpper = true) →
        (aggregateTypeNames c.codeOptions masters).Nodup) := by
  intro masters
  have heq := aggregateTypeNames_eq hc masters
  have hown : Registry.AreOwn masters := Registry.areOwn_of_claims hclaims
  have hnodup : (aggregateTypeNames c.codeOptions masters).Nodup
      ↔ ∀ master ∈ masters, ∀ other ∈ masters,
        Naming.moduleName master ≠ Naming.typeName other := by
    rw [heq, List.nodup_append, List.nodup_append]
    constructor
    · rintro ⟨⟨-, -, hapart⟩, -, -⟩ master hmaster other hother
      exact hapart _ (List.mem_map_of_mem hmaster) _ (List.mem_map_of_mem hother)
    · intro hapart
      refine ⟨⟨hown.nodup_moduleName, hown.nodup_typeName, ?_⟩, by decide, ?_⟩
      · rintro _ hmodule _ htype
        obtain ⟨master, hmaster, rfl⟩ := List.mem_map.1 hmodule
        obtain ⟨other, hother, rfl⟩ := List.mem_map.1 htype
        exact hapart master hmaster other hother
      · intro name hname fixed hfixed
        rcases List.mem_append.1 hname with hmodule | htype
        · obtain ⟨master, -, rfl⟩ := List.mem_map.1 hmodule
          exact Naming.moduleName_ne_of_isUpper
            (AggregateModule.isUpper_of_mem_fixedTypeNames fixed hfixed) master
        · obtain ⟨master, hmaster, rfl⟩ := List.mem_map.1 htype
          have hfree := hown.not_isReservedType master hmaster
          rintro rfl
          rw [AggregateModule.isReservedType_of_mem_fixedTypeNames _ hfixed] at hfree
          cases hfree
  refine ⟨heq, hnodup, fun hcapital => hnodup.2 fun master _ other hother => ?_⟩
  exact Naming.moduleName_ne_of_isUpper (hcapital other hother) master

theorem type_names_nodup_latin :
    (Config.ofTypeNames default).IsValid
      ∧ ([MasterSchema.named "Item", .named "Loot"].foldlM Registry.claim
          (Registry.ofConfig (Config.ofTypeNames default))).isOk
      ∧ (aggregateTypeNames (Config.ofTypeNames default).codeOptions ["Item", "Loot"]).Nodup := by
  have hvalid : (Config.ofTypeNames default).IsValid := by decide
  have hok : ([MasterSchema.named "Item", .named "Loot"].foldlM Registry.claim
      (Registry.ofConfig (Config.ofTypeNames default))).isOk = true := by
    decide
  obtain ⟨r, hclaims⟩ := Registry.exists_of_isOk hok
  have hcapitals : ∀ master ∈ ["Item", "Loot"],
      (Naming.typeName master).toList.any Char.isUpper = true := by
    decide
  exact ⟨hvalid, hok, (type_names_nodup_unless_caseless hvalid hclaims).2.2
    fun master hmaster => List.any_eq_true.1 (hcapitals master hmaster)⟩

/-- A master in a script without cases is accepted, and its type has the name of its module. -/
theorem not_type_names_nodup_caseless :
    (Config.ofTypeNames default).IsValid
      ∧ ([MasterSchema.named "日本"].foldlM Registry.claim
          (Registry.ofConfig (Config.ofTypeNames default))).isOk
      ∧ ¬ (aggregateTypeNames (Config.ofTypeNames default).codeOptions ["日本"]).Nodup := by
  have hvalid : (Config.ofTypeNames default).IsValid := by decide
  have hsame : Naming.moduleName "日本" = Naming.typeName "日本" := by decide +kernel
  refine ⟨hvalid, by decide +kernel, ?_⟩
  rw [aggregateTypeNames_eq hvalid]
  simp [hsame]

end MasterData
