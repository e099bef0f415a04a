-- SUMMARY: The lines of the aggregate module, token by token.
import MasterData.Code.AggregateModule
import MasterData.Proofs.Code.Naming
import MasterData.Proofs.Code.Tokens

/-! # Lines of the aggregate module

The lines of the aggregate that name a master are put together from words and marks, so their tokens are
known whatever the master is called. Main statement: `AggregateModule.isUnbroken_items`.
-/

namespace MasterData

open Code

/-! ## Entries -/

namespace AggregateEntry

/-- An entry whose names are words, that of the module no keyword. -/
structure IsSpelled (e : AggregateEntry) : Prop where
  moduleName : IsWord e.moduleName
  typeName : IsWord e.typeName
  not_isKeyword : Naming.isKeyword e.moduleName = false

variable {e : AggregateEntry}

theorem IsSpelled.tokens_declaration (h : e.IsSpelled) :
    tokens ("pub mod " ++ e.moduleName ++ ";") = ["pub", "mod", e.moduleName, ";"] := by
  rw [tokens_around (by decide) h.moduleName (by decide)]
  rfl

theorem IsSpelled.tokens_export (h : e.IsSpelled) :
    tokens ("pub use " ++ e.moduleName ++ "::" ++ e.typeName ++ ";")
      = ["pub", "use", e.moduleName, ":", ":", e.typeName, ";"] := by
  rw [tokens_around (endsMarked_append _ (by decide)) h.typeName (by decide),
    tokens_around (by decide) h.moduleName (by decide)]
  rfl

theorem IsSpelled.tokens_field (h : e.IsSpelled) :
    tokens ("pub " ++ e.moduleName ++ ": MasterIndex<" ++ e.typeName ++ ">,")
      = ["pub", e.moduleName, ":", "MasterIndex", "<", e.typeName, ">", ","] := by
  rw [tokens_around (endsMarked_append _ (by decide)) h.typeName (by decide),
    tokens_around (by decide) h.moduleName (by decide)]
  rfl

theorem IsSpelled.tokens_call (h : e.IsSpelled) :
    tokens ("let " ++ e.moduleName ++ " = " ++ e.moduleName ++ "::load_and_index(store)?;")
      = ["let", e.moduleName, "=", e.moduleName, ":", ":", "load_and_index", "(", "store", ")", "?",
          ";"] := by
  rw [tokens_around (endsMarked_append _ (by decide)) h.moduleName (by decide),
    tokens_around (by decide) h.moduleName (by decide)]
  rfl

theorem IsSpelled.tokens_local (h : e.IsSpelled) :
    tokens (e.moduleName ++ ",") = [e.moduleName, ","] := by
  rw [tokens_append_of_startsMarked _ (by decide), tokens_of_isWord h.moduleName]
  rfl

end AggregateEntry

namespace AggregateModule

variable {m : AggregateModule}

theorem isSpelled_ofMasters (options : CodeOptions) (names : List String) :
    ∀ e ∈ (ofMasters options names).entries, e.IsSpelled := by
  intro e he
  obtain ⟨name, -, rfl⟩ := List.mem_map.1 he
  exact ⟨⟨Naming.moduleName_ne_empty name, Naming.isWordPart_of_mem_moduleName name⟩,
    ⟨Naming.typeName_ne_empty name, Naming.isWordPart_of_mem_typeName name⟩,
    Naming.not_isKeyword_moduleName name⟩

/-! ## Unbroken lines -/

theorem isUnbroken_loadItems (h : ∀ e ∈ m.entries, e.IsSpelled) :
    ∀ item ∈ loadItems m.entries, item.IsUnbroken := by
  unfold loadItems
  split
  · simp only [List.forall_mem_cons, List.not_mem_nil, false_imp_iff, implies_true, and_true,
      Item.IsUnbroken, Item.written]
    and_intros <;> exact Text.isUnbroken_ofList rfl
  · simp only [List.forall_mem_append, List.forall_mem_cons, List.forall_mem_map, List.not_mem_nil,
      false_imp_iff, implies_true, and_true, Item.IsUnbroken, Item.written, Text.isUnbroken_append]
    refine ⟨⟨fun e he => ?_, ?_, fun e he => ?_⟩, ?_⟩
    · simp only [(h e he).moduleName.isUnbroken, and_true]
      and_intros <;> exact Text.isUnbroken_ofList rfl
    · exact Text.isUnbroken_ofList rfl
    · exact ⟨(h e he).moduleName.isUnbroken, Text.isUnbroken_ofList rfl⟩
    · exact Text.isUnbroken_ofList rfl

theorem isUnbroken_entryItems (h : ∀ e ∈ m.entries, e.IsSpelled) :
    ∀ item ∈ entryItems m.entries, item.IsUnbroken := by
  unfold entryItems
  split
  · simp
  · simp only [List.forall_mem_append, List.forall_mem_cons, List.forall_mem_map, Item.IsUnbroken,
      Item.written, Text.isUnbroken_append]
    refine ⟨⟨?_, fun e he => ?_⟩, ?_, fun e he => ?_⟩
    · exact Text.isUnbroken_ofList rfl
    · simp only [(h e he).moduleName.isUnbroken, and_true]
      and_intros <;> exact Text.isUnbroken_ofList rfl
    · exact Text.isUnbroken_ofList rfl
    · simp only [(h e he).moduleName.isUnbroken, (h e he).typeName.isUnbroken, and_true]
      and_intros <;> exact Text.isUnbroken_ofList rfl

/-- Where the names are words and the runtime path is unbroken, every line of the aggregate is. -/
theorem isUnbroken_items (h : ∀ e ∈ m.entries, e.IsSpelled) (hpath : Text.IsUnbroken m.runtimePath) :
    ∀ item ∈ m.items, item.IsUnbroken := by
  simp only [items, List.forall_mem_append]
  refine ⟨⟨⟨⟨⟨⟨?_, isUnbroken_entryItems h⟩, ?_⟩, ?_⟩, ?_⟩, isUnbroken_loadItems h⟩, ?_⟩
  all_goals
    simp only [List.forall_mem_cons, List.forall_mem_map, List.not_mem_nil, false_imp_iff,
      implies_true, and_true, Item.IsUnbroken, Item.written, Text.isUnbroken_append]
  · and_intros <;> exact Text.isUnbroken_ofList rfl
  · simp only [hpath, and_true]
    and_intros <;> exact Text.isUnbroken_ofList rfl
  · intro e he
    simp only [(h e he).moduleName.isUnbroken, (h e he).typeName.isUnbroken, and_true]
    and_intros <;> exact Text.isUnbroken_ofList rfl
  · and_intros <;> exact Text.isUnbroken_ofList rfl
  · and_intros <;> exact Text.isUnbroken_ofList rfl

end AggregateModule

end MasterData
