-- SUMMARY: What the generated loader of all masters does, and which of its calls are given the store.
import MasterData.Proofs.Code.AggregateModule
import MasterData.Proofs.Project.Registry

/-! # The loader of all masters

The aggregate declares a function that loads every master from a store. Its body is read here as a
program: each line binds the result of a call to a local, a later binding hides an earlier one with its
name and hides the parameter if it has that name, and the last lines give every field the value of the
local with its name. The body makes one call for each master, in compile order, and every field gets
the result of its own call. The store is the parameter of all calls up to the master whose local is
called like it; the calls behind that one are given the index of that master instead.
Main statement: `load_from_store_unless_rebound`.
-/

namespace MasterData

open Code

/-! ## Running a body -/

namespace Code

/-- A function that loads masters: the name of its parameter, and the lines of its body as tokens. -/
structure Loader where
  parameter : String
  body : List (List String)
  deriving DecidableEq

/-- What a name stands for in the body of a loader. -/
inductive LoadValue where
  /-- What the function was called with. -/
  | store
  /-- The result of one of its calls. -/
  | result (call : Nat)
  deriving DecidableEq

/-- A call that loads a master by its module. -/
structure LoadCall where
  moduleName : String
  argument : LoadValue
  deriving DecidableEq

/-- The names in scope, the latest binding first, and the calls so far. -/
structure LoadState where
  scope : List (String × LoadValue)
  calls : List LoadCall
  deriving DecidableEq

namespace LoadState

/-- The state behind a statement. -/
def step? (s : LoadState) (line : List String) : Option LoadState :=
  match line with
  | ["let", name, "=", moduleName, ":", ":", "load_and_index", "(", argument, ")", "?", ";"] =>
    (s.scope.lookup argument).map fun value =>
      ⟨(name, .result s.calls.length) :: s.scope, s.calls ++ [⟨moduleName, value⟩]⟩
  | ["let", "_", "=", argument, ";"] => (s.scope.lookup argument).map fun _ => s
  | _ => none

/-- The fields that are named one by one, each with what its name stands for. -/
def fields? (s : LoadState) : List (List String) → Option (List (String × LoadValue))
  | [["\x7d", ")"]] => some []
  | [name, ","] :: rest => do
    let value ← s.scope.lookup name
    let fields ← s.fields? rest
    return (name, value) :: fields
  | _ => none

/-- The calls of a body and the fields of the structure that it ends with. -/
def finish? (s : LoadState) : List (List String) → Option (List LoadCall × List (String × LoadValue))
  | [] => none
  | line :: rest =>
    if line = ["Ok", "(", "Self", "\x7b", "\x7d", ")"] then
      if rest = [] then some (s.calls, []) else none
    else if line = ["Ok", "(", "Self", "\x7b"] then (s.fields? rest).map (s.calls, ·)
    else (s.step? line).bind (·.finish? rest)

end LoadState

/-- The calls of a loader and the fields that it returns. -/
def Loader.run? (l : Loader) : Option (List LoadCall × List (String × LoadValue)) :=
  LoadState.finish? ⟨[(l.parameter, .store)], []⟩ l.body

/-! ## Reading a loader -/

/-- The parameter that a line names if it is the head of a function `load`. -/
def parameterOfLoad? (line : List String) : Option String :=
  if line.take 4 = ["pub", "fn", "load", "("] then (line.drop 4).head? else none

/-- The last function `load` among lines of tokens; its body ends at a bracket on its own. -/
def lastLoader? : List (List String) → Option Loader
  | [] => none
  | line :: rest =>
    (lastLoader? rest).or
      ((parameterOfLoad? line).map fun parameter => ⟨parameter, rest.takeWhile (· ≠ ["\x7d"])⟩)

theorem lastLoader?_append {lines : List (List String)} {l : Loader} (h : lastLoader? lines = some l)
    (before : List (List String)) : lastLoader? (before ++ lines) = some l := by
  induction before with
  | nil => exact h
  | cons line before ih => rw [List.cons_append, lastLoader?, ih, Option.some_or]

theorem lastLoader?_eq_none {lines : List (List String)}
    (h : ∀ line ∈ lines, parameterOfLoad? line = none) : lastLoader? lines = none := by
  induction lines with
  | nil => rfl
  | cons line lines ih =>
    rw [List.forall_mem_cons] at h
    rw [lastLoader?, ih h.2, h.1]
    rfl

theorem parameterOfLoad?_of_head? {line : List String} (h : line.head? ≠ some "pub") :
    parameterOfLoad? line = none := by
  refine if_neg fun htake => h ?_
  have hhead := congrArg List.head? htake
  rwa [List.head?_take, if_neg (by decide)] at hhead

/-! ## The body of the aggregate -/

/-- The statement that loads a master. -/
def callTokens (name : String) : List String :=
  ["let", name, "=", name, ":", ":", "load_and_index", "(", "store", ")", "?", ";"]

/-- The body that loads the masters of a list of modules. -/
def bodyTokens (modules : List String) : List (List String) :=
  match modules with
  | [] => [["let", "_", "=", "store", ";"], ["Ok", "(", "Self", "\x7b", "\x7d", ")"]]
  | modules =>
    modules.map callTokens
    ++ ["Ok", "(", "Self", "\x7b"] :: (modules.map ([·, ","]) ++ [["\x7d", ")"]])

theorem bodyTokens_of_ne_nil {modules : List String} (h : modules ≠ []) :
    bodyTokens modules = modules.map callTokens
      ++ ["Ok", "(", "Self", "\x7b"] :: (modules.map ([·, ","]) ++ [["\x7d", ")"]]) := by
  cases modules with
  | nil => exact absurd rfl h
  | cons first rest => rfl

/-- What the store's name stands for behind the calls for a list of modules. -/
def storeBehind (modules : List String) : LoadValue :=
  if "store" ∈ modules then .result (modules.idxOf "store") else .store

/-- The names in scope behind the calls for a list of modules. -/
def scopeBehind (modules : List String) : List (String × LoadValue) :=
  (modules.mapIdx fun i name => (name, LoadValue.result i)).reverse ++ [("store", .store)]

/-- The calls for a list of modules, each with what the store's name stands for before it. -/
def callsFor (modules : List String) : List LoadCall :=
  modules.mapIdx fun i name => ⟨name, storeBehind (modules.take i)⟩

theorem map_moduleName_callsFor (modules : List String) :
    (callsFor modules).map (·.moduleName) = modules :=
  List.ext_getElem (by simp [callsFor]) fun i _ _ => by simp [callsFor]

theorem callsFor_append_singleton (modules : List String) (name : String) :
    callsFor (modules ++ [name]) = callsFor modules ++ [⟨name, storeBehind modules⟩] := by
  refine List.ext_getElem (by simp [callsFor]) fun i hi _ => ?_
  rw [callsFor, List.length_mapIdx, List.length_append, List.length_singleton] at hi
  simp only [callsFor, List.getElem_mapIdx, List.getElem_append, List.length_mapIdx]
  split
  · rw [List.take_append_of_le_length (by omega)]
  · obtain rfl : i = modules.length := by omega
    simp

/-- A call is given the store unless an earlier local has its name. -/
theorem argument_callsFor {modules : List String} {i : Nat} (hi : i < (callsFor modules).length) :
    (callsFor modules)[i].argument = .store ↔ "store" ∉ modules.take i := by
  simp only [callsFor, List.getElem_mapIdx, storeBehind]
  split <;> simp_all

theorem lookup_cons_eq (key name : String) (value : LoadValue) (scope : List (String × LoadValue)) :
    ((key, value) :: scope).lookup name = if name = key then some value else scope.lookup name := by
  by_cases hname : name = key
  · simp [hname]
  · rw [List.lookup_cons, beq_false_of_ne hname, if_neg hname]

theorem lookup_scopeBehind {modules : List String} (h : modules.Nodup) (name : String) :
    (scopeBehind modules).lookup name
      = if name ∈ modules then some (.result (modules.idxOf name))
        else if name = "store" then some .store else none := by
  induction modules using List.reverseRecOn with
  | nil =>
    rw [if_neg List.not_mem_nil]
    exact lookup_cons_eq "store" name .store []
  | append_singleton modules last ih =>
    obtain ⟨hmodules, -, hlast⟩ := List.nodup_append.1 h
    have hnew : last ∉ modules := fun hmem => hlast last hmem last (by simp) rfl
    have hscope : scopeBehind (modules ++ [last])
        = (last, .result modules.length) :: scopeBehind modules := by
      simp [scopeBehind, List.mapIdx_append]
    rw [hscope, lookup_cons_eq, ih hmodules, List.idxOf_append]
    by_cases hname : name = last
    · subst hname
      simp [hnew]
    · by_cases hmem : name ∈ modules
      · simp [hname, hmem]
      · simp [hname, hmem]

/-- The scope and the calls behind the calls for a list of modules. -/
def stateBehind (modules : List String) : LoadState :=
  ⟨scopeBehind modules, callsFor modules⟩

/-- One statement binds one local to the result of one call. -/
theorem step?_stateBehind {done : List String} (h : done.Nodup) (name : String) :
    (stateBehind done).step? (callTokens name) = some (stateBehind (done ++ [name])) := by
  have hstore : (scopeBehind done).lookup "store" = some (storeBehind done) := by
    rw [lookup_scopeBehind h, storeBehind]
    split <;> rfl
  have hlength : (callsFor done).length = done.length := List.length_mapIdx
  simp only [LoadState.step?, callTokens, stateBehind, hstore, Option.map_some, hlength,
    callsFor_append_singleton]
  simp [scopeBehind, List.mapIdx_append]

theorem finish?_calls {done rest : List String} (h : (done ++ rest).Nodup)
    (tail : List (List String)) :
    (stateBehind done).finish? (rest.map callTokens ++ tail)
      = (stateBehind (done ++ rest)).finish? tail := by
  induction rest generalizing done with
  | nil => simp
  | cons name rest ih =>
    have hmore := @ih (done ++ [name])
    rw [List.append_assoc, List.singleton_append] at hmore
    rw [List.map_cons, List.cons_append, LoadState.finish?, if_neg (by simp [callTokens]),
      if_neg (by simp [callTokens]), step?_stateBehind (List.nodup_append.1 h).1]
    exact hmore h

/-- Every field gets the result of its own call. -/
theorem fields?_stateBehind {all : List String} (h : all.Nodup) {modules : List String}
    (hsub : ∀ name ∈ modules, name ∈ all) :
    (stateBehind all).fields? (modules.map ([·, ","]) ++ [["\x7d", ")"]])
      = some (modules.map fun name => (name, .result (all.idxOf name))) := by
  induction modules with
  | nil => rfl
  | cons name modules ih =>
    rw [List.forall_mem_cons] at hsub
    have hlookup : (stateBehind all).scope.lookup name = some (.result (all.idxOf name)) := by
      rw [stateBehind, lookup_scopeBehind h, if_pos hsub.1]
    rw [List.map_cons, List.cons_append, LoadState.fields?, hlookup, ih hsub.2]
    rfl

theorem map_idxOf_eq_mapIdx {modules : List String} (h : modules.Nodup) :
    (modules.map fun name => (name, LoadValue.result (modules.idxOf name)))
      = modules.mapIdx fun i name => (name, .result i) := by
  refine List.ext_getElem (by simp) fun i hi _ => ?_
  rw [List.length_map] at hi
  rw [List.getElem_map, List.getElem_mapIdx, h.idxOf_getElem i hi]

/-- Running the body makes one call for each module, and gives each field the result of its own. -/
theorem run?_bodyTokens {modules : List String} (h : modules.Nodup) :
    Loader.run? ⟨"store", bodyTokens modules⟩
      = some (callsFor modules, modules.mapIdx fun i name => (name, .result i)) := by
  cases modules with
  | nil => decide
  | cons first rest =>
    have hcalls := @finish?_calls [] (first :: rest) h
    have hfields := @fields?_stateBehind _ h (first :: rest) fun _ hmem => hmem
    rw [map_idxOf_eq_mapIdx h] at hfields
    refine (hcalls _).trans ?_
    rw [List.nil_append, LoadState.finish?, if_neg (by decide), if_pos rfl, hfields]
    rfl

/-- The lines of a body are neither the head of a function nor its last bracket. -/
theorem of_mem_bodyTokens {modules : List String}
    (h : ∀ name ∈ modules, Naming.isKeyword name = false) :
    ∀ line ∈ bodyTokens modules, parameterOfLoad? line = none ∧ line ≠ ["\x7d"] := by
  unfold bodyTokens
  split
  · decide
  · simp only [List.forall_mem_append, List.forall_mem_cons, List.forall_mem_map, List.not_mem_nil,
      false_imp_iff, implies_true, and_true]
    refine ⟨fun name _ => ⟨rfl, by simp [callTokens]⟩, by decide, fun name hname => ⟨?_, by simp⟩,
      by decide⟩
    refine parameterOfLoad?_of_head? fun hpub => ?_
    have hkeyword := h name hname
    rw [show name = "pub" by simpa using hpub] at hkeyword
    cases hkeyword

theorem lastLoader?_signature {signature : List String} {parameter : String}
    (hsignature : parameterOfLoad? signature = some parameter) {body behind : List (List String)}
    (hbody : ∀ line ∈ body, parameterOfLoad? line = none ∧ line ≠ ["\x7d"])
    (hbehind : ∀ line ∈ behind, parameterOfLoad? line = none) :
    lastLoader? (signature :: (body ++ ["\x7d"] :: behind)) = some ⟨parameter, body⟩ := by
  have hnone : lastLoader? (body ++ ["\x7d"] :: behind) = none := by
    refine lastLoader?_eq_none fun line hline => ?_
    rcases List.mem_append.1 hline with hmem | hmem
    · exact (hbody line hmem).1
    · rcases List.mem_cons.1 hmem with rfl | hmem
      · rfl
      · exact hbehind line hmem
  have htake : (body ++ ["\x7d"] :: behind).takeWhile (· ≠ ["\x7d"]) = body := by
    rw [List.takeWhile_append_of_pos fun line hline => by simpa using (hbody line hline).2]
    simp
  rw [lastLoader?, hnone, hsignature, htake]
  rfl

end Code

/-! ## The loader of the aggregate -/

namespace AggregateModule

variable {m : AggregateModule}

theorem tokens_loadItems (h : ∀ e ∈ m.entries, e.IsSpelled) :
    ((loadItems m.entries).flatMap Item.contents).map tokens
      = bodyTokens (m.entries.map (·.moduleName)) := by
  unfold loadItems
  split
  · rename_i hnil
    have hdiscard : tokens "let _ = store;" = ["let", "_", "=", "store", ";"] :=
      tokens_ofList.trans rfl
    have hreturn : tokens "Ok(Self \x7b\x7d)" = ["Ok", "(", "Self", "\x7b", "\x7d", ")"] :=
      tokens_ofList.trans rfl
    rw [hnil, List.map_nil, List.flatMap_cons, List.flatMap_singleton, Item.contents, Item.contents,
      List.singleton_append, List.map_cons, List.map_singleton, hdiscard, hreturn]
    rfl
  · rename_i hne
    have hopen : tokens "Ok(Self \x7b" = ["Ok", "(", "Self", "\x7b"] :=
      tokens_ofList.trans rfl
    have hclose : tokens "\x7d)" = ["\x7d", ")"] := tokens_ofList.trans rfl
    have hcalls : (m.entries.map fun e => "let " ++ e.moduleName ++ " = " ++ e.moduleName
        ++ "::load_and_index(store)?;").map tokens
          = (m.entries.map (·.moduleName)).map callTokens := by
      rw [List.map_map, List.map_map]
      exact List.map_congr_left fun e he => (h e he).tokens_call
    have hlocals : (m.entries.map fun e => e.moduleName ++ ",").map tokens
        = (m.entries.map (·.moduleName)).map ([·, ","]) := by
      rw [List.map_map, List.map_map]
      exact List.map_congr_left fun e he => (h e he).tokens_local
    rw [bodyTokens_of_ne_nil (by simpa using hne), List.flatMap_append, List.flatMap_append,
      List.flatMap_cons, contents_map_line, contents_map_line, List.flatMap_singleton, Item.contents,
      Item.contents, List.map_append, List.map_append, List.map_append, hcalls, hlocals,
      List.map_singleton, List.map_singleton, hopen, hclose, List.append_assoc, List.append_assoc]
    rfl

theorem tokens_function (text head bracket : String) (body behind : List Item) :
    (([Item.doc text, .openBlock head] ++ body ++ Item.closeBlock bracket :: behind).flatMap
        Item.contents).map tokens
      = (Item.doc text).contents.map tokens
        ++ tokens head :: ((body.flatMap Item.contents).map tokens
          ++ tokens bracket :: (behind.flatMap Item.contents).map tokens) := by
  simp [Item.contents]

/-- The loader stands behind the head of its block, and nothing behind it is a loader. -/
theorem exists_items (m : AggregateModule) :
    ∃ before behind, m.items
        = before ++ .openBlock "impl Masters \x7b"
          :: ([.doc "Load and index every master, in compile order.",
              .openBlock "pub fn load(store: &dyn AssetStore) -> Result<Self, RuntimeError> \x7b"]
            ++ loadItems m.entries ++ .closeBlock "\x7d" :: behind)
      ∧ ∀ item ∈ behind, item.IsUnbroken
        ∧ ∀ line ∈ item.contents, parameterOfLoad? (tokens line) = none := by
  have hshape : ∀ {before body behind : List Item} {a b c d e f : Item},
      before ++ [a, b, c, d, e] ++ body ++ f :: behind
        = (before ++ [a, b]) ++ c :: ([d, e] ++ body ++ f :: behind) := by
    intros
    simp
  refine ⟨_, _, hshape, ?_⟩
  have hcomment : ∀ text, ∀ line ∈ (Item.doc text).contents, parameterOfLoad? (tokens line) = none :=
    fun text line hline => parameterOfLoad?_of_head? (by
      rw [head?_tokens_comment (.inl rfl) line hline]
      decide)
  have hwritten : ∀ {item : Item} {cs : List Char}, item.contents = [String.ofList cs] →
      parameterOfLoad? (tokensFrom [] cs) = none →
      ∀ line ∈ item.contents, parameterOfLoad? (tokens line) = none := by
    intro item cs hitem hnone
    rw [hitem]
    exact List.forall_mem_singleton.2 (by rwa [tokens_ofList])
  have hunbroken : ∀ {item : Item} {cs : List Char}, item.written = String.ofList cs →
      (cs.all fun c => c ≠ '\n' ∧ c ≠ '\r') → item.IsUnbroken := by
    intro item cs hitem hcs
    rw [Item.IsUnbroken, hitem]
    exact Text.isUnbroken_ofList hcs
  simp only [List.forall_mem_cons, List.not_mem_nil, false_imp_iff, implies_true, and_true]
  and_intros
  all_goals first
    | exact hunbroken rfl rfl
    | exact hcomment _
    | exact hwritten rfl rfl

/-- The source of an aggregate has one loader. Its parameter is the store, and its body loads the
masters. -/
theorem lastLoader?_render (h : ∀ e ∈ m.entries, e.IsSpelled) :
    lastLoader? (sourceTokens m.render)
      = some ⟨"store", bodyTokens (m.entries.map (·.moduleName))⟩ := by
  obtain ⟨before, behind, hitems, hbehind⟩ := exists_items m
  have hunbroken : ∀ item ∈ [.doc "Load and index every master, in compile order.",
        .openBlock "pub fn load(store: &dyn AssetStore) -> Result<Self, RuntimeError> \x7b"]
      ++ loadItems m.entries ++ .closeBlock "\x7d" :: behind, Item.IsUnbroken item := by
    simp only [List.forall_mem_append, List.forall_mem_cons, List.not_mem_nil, false_imp_iff,
      implies_true, and_true]
    exact ⟨⟨⟨Text.isUnbroken_ofList rfl, Text.isUnbroken_ofList rfl⟩,
      isUnbroken_loadItems h⟩, Text.isUnbroken_ofList rfl,
      fun item hitem => (hbehind item hitem).1⟩
  obtain ⟨lines, hlines⟩ := sourceTokens_render_append before "impl Masters \x7b" hunbroken
  rw [render, hitems, hlines]
  have hsignature : parameterOfLoad? (tokens
      "pub fn load(store: &dyn AssetStore) -> Result<Self, RuntimeError> \x7b") = some "store" :=
    (congrArg parameterOfLoad? tokens_ofList).trans rfl
  have hbracket : tokens "\x7d" = ["\x7d"] := tokens_ofList.trans rfl
  have hkeywords : ∀ name ∈ m.entries.map (·.moduleName), Naming.isKeyword name = false :=
    List.forall_mem_map.2 fun e he => (h e he).not_isKeyword
  have hbody := of_mem_bodyTokens hkeywords
  have hnone : ∀ line ∈ (behind.flatMap Item.contents).map tokens, parameterOfLoad? line = none := by
    intro line hline
    obtain ⟨text, htext, rfl⟩ := List.mem_map.1 hline
    obtain ⟨item, hitem, hmem⟩ := List.mem_flatMap.1 htext
    exact (hbehind item hitem).2 text hmem
  rw [tokens_function, hbracket, tokens_loadItems h]
  -- What stands before the head of the function, its comment included, does not count.
  rw [← List.append_assoc]
  exact lastLoader?_append (lastLoader?_signature hsignature hbody hnone) _

end AggregateModule

/-! ## Loading -/

/-- The loader in the aggregate of a list of masters. -/
def aggregateLoader? (options : CodeOptions) (masters : List String) : Option Loader :=
  lastLoader? (sourceTokens (AggregateModule.ofMasters options masters).render)

theorem aggregateLoader?_eq (options : CodeOptions) (masters : List String) :
    aggregateLoader? options masters
      = some ⟨"store", bodyTokens (masters.map Naming.moduleName)⟩ := by
  rw [aggregateLoader?, AggregateModule.lastLoader?_render
    (AggregateModule.isSpelled_ofMasters options masters)]
  simp [AggregateModule.ofMasters, Function.comp_def]

/-- For masters that claim their names one after another the loader makes one call for each, in order, by
its own module. All fields differ and each gets the result of its own call. A call is given the store
exactly if no earlier master has the module `store`. -/
theorem load_from_store_unless_rebound {c : Config} {schemas : List MasterSchema} {r : Registry}
    (hclaims : schemas.foldlM Registry.claim (Registry.ofConfig c) = .ok r) (options : CodeOptions) :
    let masters := schemas.map (·.masterName)
    ∃ loader calls, aggregateLoader? options masters = some loader
      ∧ loader.run? = some (calls,
          masters.mapIdx fun i master => (Naming.moduleName master, .result i))
      ∧ calls.map (·.moduleName) = masters.map Naming.moduleName
      ∧ (masters.map Naming.moduleName).Nodup
      ∧ ∀ i (hi : i < calls.length), calls[i].argument = .store
        ↔ ∀ earlier ∈ masters.take i, Naming.moduleName earlier ≠ "store" := by
  intro masters
  have hown : Registry.AreOwn masters := Registry.areOwn_of_claims hclaims
  refine ⟨_, callsFor (masters.map Naming.moduleName), aggregateLoader?_eq options masters,
    ?_, map_moduleName_callsFor _, hown.nodup_moduleName, fun i hi => ?_⟩
  · have hfields : ((masters.map Naming.moduleName).mapIdx fun i name => (name, LoadValue.result i))
        = masters.mapIdx fun i master => (Naming.moduleName master, .result i) :=
      List.ext_getElem (by simp) fun i _ _ => by simp
    rw [run?_bodyTokens hown.nodup_moduleName, hfields]
  · rw [argument_callsFor, ← List.map_take]
    simp only [List.mem_map, not_exists, not_and, ne_eq]

theorem load_from_store_storeLast :
    ([MasterSchema.named "Item", .named "Store"].foldlM Registry.claim (.ofConfig default)).isOk
      ∧ ∃ loader calls fields, aggregateLoader? ⟨"runtime"⟩ ["Item", "Store"] = some loader
        ∧ loader.run? = some (calls, fields) ∧ ∀ call ∈ calls, call.argument = .store := by
  have hok : ([MasterSchema.named "Item", .named "Store"].foldlM Registry.claim
      (.ofConfig default)).isOk = true := by
    decide
  obtain ⟨r, hclaims⟩ := Registry.exists_of_isOk hok
  obtain ⟨loader, calls, hloader, hrun, hcalls, -, hstore⟩ :=
    load_from_store_unless_rebound hclaims ⟨"runtime"⟩
  refine ⟨hok, loader, calls, _, hloader, hrun, fun call hmem => ?_⟩
  obtain ⟨i, hi, rfl⟩ := List.getElem_of_mem hmem
  refine (hstore i hi).2 ?_
  have hlength : calls.length = 2 := by simpa using congrArg List.length hcalls
  obtain rfl | rfl : i = 0 ∨ i = 1 := by omega
  · decide
  · decide

/-- A master `Store` takes the name of the parameter, and the next call is given its index. -/
theorem not_load_from_store_storeFirst :
    ([MasterSchema.named "Store", .named "Item"].foldlM Registry.claim (.ofConfig default)).isOk
      ∧ (aggregateLoader? ⟨"runtime"⟩ ["Store", "Item"]).bind Loader.run?
        = some ([⟨"store", .store⟩, ⟨"item", .result 0⟩],
          [("store", .result 0), ("item", .result 1)]) := by
  have hmodules : ["Store", "Item"].map Naming.moduleName = ["store", "item"] := by decide
  refine ⟨by decide, ?_⟩
  rw [aggregateLoader?_eq, hmodules]
  decide

end MasterData
