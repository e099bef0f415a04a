-- SUMMARY: What an index knows about the records it was built from.
import Mathlib.Data.Set.Card
import MasterData.Record.Index

/-! # The account of an index

An index is built record by record. Under a key it holds the last record that has it and the position
of the first one, and a collision stands for each record whose key an earlier one has. All of this
needs keys to be compared by a relation that is symmetric and transitive; only the number of keys
needs every key to equal itself.
-/

namespace MasterData

/-- Comparing keys is symmetric and transitive; a key need not equal itself. -/
structure Keyed.IsPartialEquiv (ρ : Type) [Keyed ρ] : Prop where
  symm : ∀ {a b : Keyed.Key ρ}, Keyed.sameKey a b → Keyed.sameKey b a
  trans : ∀ {a b c : Keyed.Key ρ}, Keyed.sameKey a b → Keyed.sameKey b c → Keyed.sameKey a c

namespace MasterIndex

variable {ρ : Type} [Keyed ρ]

/-- Whether a record is found under a key. -/
def hasKey (k : Keyed.Key ρ) (r : ρ) : Bool :=
  Keyed.sameKey (Keyed.key r) k

/-- The entry under a key. -/
def entryOf? (entries : List (IndexEntry ρ)) (k : Keyed.Key ρ) : Option (IndexEntry ρ) :=
  entries.find? fun e => Keyed.sameKey e.key k

theorem get?_eq (index : MasterIndex ρ) (k : Keyed.Key ρ) :
    index.get? k = (entryOf? index.entries k).map (·.record) := rfl

/-! ## Storing one record -/

theorem store_snd (position : Nat) (r : ρ) (entries : List (IndexEntry ρ)) :
    (store position r entries).2 = (entryOf? entries (Keyed.key r)).map (·.firstPosition) := by
  induction entries with
  | nil => rfl
  | cons e rest ih =>
    by_cases h : Keyed.sameKey e.key (Keyed.key r)
    · simp [store, entryOf?, h]
    · simpa [store, entryOf?, h] using ih

theorem length_store (position : Nat) (r : ρ) (entries : List (IndexEntry ρ)) :
    (store position r entries).1.length
      = entries.length + if (entryOf? entries (Keyed.key r)).isSome then 0 else 1 := by
  induction entries with
  | nil => rfl
  | cons e rest ih =>
    by_cases h : Keyed.sameKey e.key (Keyed.key r)
    · simp [store, entryOf?, h]
    · have hfind : entryOf? (e :: rest) (Keyed.key r) = entryOf? rest (Keyed.key r) := by
        simp [entryOf?, h]
      simp only [store, h, Bool.false_eq_true, if_false, List.length_cons, ih, hfind]
      omega

/-- Under the key of the new record stands that record, with the first position it had before or its
own; all else is as it was. -/
theorem entryOf?_store (hρ : Keyed.IsPartialEquiv ρ) (position : Nat) (r : ρ)
    (entries : List (IndexEntry ρ)) (k : Keyed.Key ρ) :
    (entryOf? (store position r entries).1 k).map (fun e => (e.firstPosition, e.record))
      = if hasKey k r then
          some (((entryOf? entries k).map (·.firstPosition)).getD position, r)
        else (entryOf? entries k).map fun e => (e.firstPosition, e.record) := by
  induction entries with
  | nil => by_cases h : Keyed.sameKey (Keyed.key r) k <;> simp [store, entryOf?, hasKey, h]
  | cons e rest ih =>
    by_cases he : Keyed.sameKey e.key (Keyed.key r)
    · -- The record takes the place of this entry, and `k` finds the one as it found the other.
      have hk : Keyed.sameKey e.key k = Keyed.sameKey (Keyed.key r) k :=
        Bool.eq_iff_iff.2 ⟨hρ.trans (hρ.symm he), hρ.trans he⟩
      by_cases hr : Keyed.sameKey (Keyed.key r) k <;> simp [store, entryOf?, hasKey, he, hk, hr]
    · -- The record goes further down; were the entry found under its key, the two keys would agree.
      by_cases hk : Keyed.sameKey e.key k
      · have hr : ¬ Keyed.sameKey (Keyed.key r) k := fun hr => he (hρ.trans hk (hρ.symm hr))
        simp [store, entryOf?, hasKey, he, hk, hr]
      · have hrest : entryOf? (e :: rest) k = entryOf? rest k := by simp [entryOf?, hk]
        have hstored : entryOf? (store position r (e :: rest)).1 k
            = entryOf? (store position r rest).1 k := by simp [store, entryOf?, he, hk]
        rw [hrest, hstored, ih]

/-! ## Building -/

theorem build_nil (master : String) : build master ([] : List ρ) = ⟨master, [], []⟩ := rfl

theorem build_concat (master : String) (records : List ρ) (r : ρ) :
    build master (records ++ [r]) = (build master records).add records.length r := by
  simp [build, List.zipIdx_append]

theorem entries_add (index : MasterIndex ρ) (position : Nat) (r : ρ) :
    (index.add position r).entries = (store position r index.entries).1 := by
  unfold add
  split <;> simp_all

/-- The first position that has a key, with the last record that has it. -/
def firstAndLast? (records : List ρ) (k : Keyed.Key ρ) : Option (Nat × ρ) :=
  (records.findIdx? (hasKey k)).bind fun first =>
    (records.filter (hasKey k)).getLast?.map (first, ·)

theorem map_fst_firstAndLast? (records : List ρ) (k : Keyed.Key ρ) :
    (firstAndLast? records k).map Prod.fst = records.findIdx? (hasKey k) := by
  unfold firstAndLast?
  cases hi : records.findIdx? (hasKey k) with
  | none => rfl
  | some first =>
    obtain ⟨x, hx, hxk⟩ : ∃ x ∈ records, hasKey k x = true :=
      List.any_eq_true.1 (List.findIdx?_isSome.symm.trans (by rw [hi]; rfl))
    have hne : records.filter (hasKey k) ≠ [] :=
      List.ne_nil_of_mem (List.mem_filter.2 ⟨hx, hxk⟩)
    rw [List.getLast?_eq_some_getLast hne]
    rfl

theorem map_snd_firstAndLast? (records : List ρ) (k : Keyed.Key ρ) :
    (firstAndLast? records k).map Prod.snd = (records.filter (hasKey k)).getLast? := by
  unfold firstAndLast?
  cases hi : records.findIdx? (hasKey k) with
  | none =>
    have hnone : records.filter (hasKey k) = [] := by
      rw [List.findIdx?_eq_none_iff] at hi
      simpa using hi
    rw [hnone]
    rfl
  | some first => simp [Function.comp_def]

theorem collisions_add (index : MasterIndex ρ) (position : Nat) (r : ρ) :
    (index.add position r).collisions
      = index.collisions ++ ((store position r index.entries).2.map fun first =>
          ⟨Keyed.describe (Keyed.key r), first, position⟩).toList := by
  unfold add
  split <;> simp_all

/-- The collision that a record makes behind earlier ones. -/
def collision? (earlier : List ρ) (r : ρ) : Option KeyCollision :=
  (earlier.findIdx? (hasKey (Keyed.key r))).map fun first =>
    ⟨Keyed.describe (Keyed.key r), first, earlier.length⟩

/-- Under a key the index has the first position and the last record among those with the key. -/
theorem entryOf?_build (hρ : Keyed.IsPartialEquiv ρ) (master : String) (records : List ρ)
    (k : Keyed.Key ρ) :
    (entryOf? (build master records).entries k).map (fun e => (e.firstPosition, e.record))
      = firstAndLast? records k := by
  -- Records are added at the end, so the induction takes the last one off.
  induction records using List.reverseRecOn with
  | nil => rfl
  | append_singleton records r ih =>
    rw [build_concat, entries_add, entryOf?_store hρ]
    have hfirst : (entryOf? (build master records).entries k).map (·.firstPosition)
        = records.findIdx? (hasKey k) := by
      have h := congrArg (Option.map Prod.fst) ih
      simp only [Option.map_map, Function.comp_def] at h
      rw [h, map_fst_firstAndLast?]
    by_cases hr : hasKey k r
    · cases hi : records.findIdx? (hasKey k) <;>
        simp [firstAndLast?, hr, hfirst, hi, List.findIdx?_append, List.filter_append]
    · simp [firstAndLast?, hr, ih, List.findIdx?_append, List.filter_append]

theorem firstPosition_build (hρ : Keyed.IsPartialEquiv ρ) (master : String) (records : List ρ)
    (k : Keyed.Key ρ) :
    (entryOf? (build master records).entries k).map (·.firstPosition)
      = records.findIdx? (hasKey k) := by
  have h := congrArg (Option.map Prod.fst) (entryOf?_build hρ master records k)
  simp only [Option.map_map, Function.comp_def] at h
  rw [h, map_fst_firstAndLast?]

theorem get?_build (hρ : Keyed.IsPartialEquiv ρ) (master : String) (records : List ρ)
    (k : Keyed.Key ρ) :
    (build master records).get? k = (records.filter (hasKey k)).getLast? := by
  have h := congrArg (Option.map Prod.snd) (entryOf?_build hρ master records k)
  simp only [Option.map_map, Function.comp_def] at h
  rw [get?_eq, h, map_snd_firstAndLast?]

/-! ## Collisions -/

theorem collisions_build_concat (hρ : Keyed.IsPartialEquiv ρ) (master : String)
    (records : List ρ) (r : ρ) :
    (build master (records ++ [r])).collisions
      = (build master records).collisions ++ (collision? records r).toList := by
  rw [build_concat, collisions_add, store_snd, firstPosition_build hρ]
  rfl

theorem size_build_concat (hρ : Keyed.IsPartialEquiv ρ) (master : String) (records : List ρ)
    (r : ρ) :
    (build master (records ++ [r])).size
      = (build master records).size + if (collision? records r).isSome then 0 else 1 := by
  have hsome : (entryOf? (build master records).entries (Keyed.key r)).isSome
      = (collision? records r).isSome := by
    have h := congrArg Option.isSome (firstPosition_build hρ master records (Keyed.key r))
    simpa [collision?] using h
  rw [size, build_concat, entries_add, length_store, hsome]
  rfl

theorem size_add_length_collisions (hρ : Keyed.IsPartialEquiv ρ) (master : String)
    (records : List ρ) :
    (build master records).size + (build master records).collisions.length = records.length := by
  induction records using List.reverseRecOn with
  | nil => rfl
  | append_singleton records r ih =>
    rw [size_build_concat hρ, collisions_build_concat hρ]
    cases hc : collision? records r <;> simp <;> omega

/-- The collisions position by position. -/
theorem collisions_build (hρ : Keyed.IsPartialEquiv ρ) (master : String) (records : List ρ) :
    (build master records).collisions
      = (List.range records.length).filterMap fun position =>
          records[position]?.bind (collision? (records.take position)) := by
  induction records using List.reverseRecOn with
  | nil => rfl
  | append_singleton records r ih =>
    rw [collisions_build_concat hρ, ih, List.length_append, List.length_singleton,
      List.range_succ, List.filterMap_append]
    congr 1
    · -- What comes before an earlier position is the same in the longer list.
      apply List.filterMap_congr
      intro position hposition
      have hlt := List.mem_range.1 hposition
      rw [List.getElem?_append_left hlt, List.take_append_of_le_length (Nat.le_of_lt hlt)]
    · have hlast : (records ++ [r])[records.length]?.bind
          (collision? ((records ++ [r]).take records.length)) = collision? records r := by
        simp
      rw [List.filterMap_cons, hlast]
      cases collision? records r <;> rfl

/-- The positions of the records that are found under a key. -/
def positionsOf (records : List ρ) (k : Keyed.Key ρ) : Set Nat :=
  {position | ∃ r, records[position]? = some r ∧ Keyed.sameKey (Keyed.key r) k}

end MasterIndex

/-- Whether a collision tells the truth about its record: the label of its key, and the first of the
positions that have the key, which comes before its own. -/
def KeyCollision.IsOf {ρ : Type} [Keyed ρ] (c : KeyCollision) (records : List ρ) : Prop :=
  ∃ r, records[c.position]? = some r ∧ c.key = Keyed.describe (Keyed.key r)
    ∧ IsLeast (MasterIndex.positionsOf records (Keyed.key r)) c.firstPosition
    ∧ c.firstPosition < c.position

/-- The positions that a collision is about. -/
def KeyCollision.positions (c : KeyCollision) : Nat × Nat := (c.firstPosition, c.position)

namespace MasterIndex

variable {ρ : Type} [Keyed ρ]

theorem findIdx?_take_eq_some_iff (records : List ρ) (k : Keyed.Key ρ) (position first : Nat) :
    (records.take position).findIdx? (hasKey k) = some first
      ↔ IsLeast (positionsOf records k) first ∧ first < position := by
  rw [List.findIdx?_eq_some_iff_getElem]
  constructor
  · rintro ⟨hlt, hfirst, hbefore⟩
    simp only [List.length_take, lt_min_iff] at hlt
    have hmem : first ∈ positionsOf records k :=
      ⟨records[first], List.getElem?_eq_getElem hlt.2, by simpa [hasKey] using hfirst⟩
    refine ⟨⟨hmem, ?_⟩, hlt.1⟩
    rintro q ⟨r, hr, hk⟩
    by_contra hq
    have hq : q < first := Nat.lt_of_not_le hq
    obtain ⟨hlen, rfl⟩ := List.getElem?_eq_some_iff.1 hr
    exact hbefore q hq (by simpa [hasKey] using hk)
  · rintro ⟨⟨⟨r, hr, hk⟩, hleast⟩, hlt⟩
    obtain ⟨hlen, rfl⟩ := List.getElem?_eq_some_iff.1 hr
    refine ⟨by simp [hlt, hlen], by simpa [hasKey] using hk, ?_⟩
    intro q hq hqk
    have hq' : q < records.length := Nat.lt_trans hq hlen
    have := hleast ⟨records[q], List.getElem?_eq_getElem hq', by simpa [hasKey] using hqk⟩
    omega

theorem collision?_take_eq_some_iff (records : List ρ) (position : Nat) (c : KeyCollision) :
    records[position]?.bind (collision? (records.take position)) = some c
      ↔ c.position = position ∧ c.IsOf records := by
  constructor
  · intro h
    obtain ⟨r, hr, h⟩ := Option.bind_eq_some_iff.1 h
    obtain ⟨first, hfirst, rfl⟩ := Option.map_eq_some_iff.1 h
    have hlen : (records.take position).length = position :=
      List.length_take_of_le (Nat.le_of_lt (List.getElem?_eq_some_iff.1 hr).1)
    refine ⟨hlen, r, by rw [hlen, hr], rfl, ?_⟩
    rw [hlen]
    exact (findIdx?_take_eq_some_iff ..).1 hfirst
  · rintro ⟨rfl, r, hr, hlabel, hfirst⟩
    have hlen : (records.take c.position).length = c.position :=
      List.length_take_of_le (Nat.le_of_lt (List.getElem?_eq_some_iff.1 hr).1)
    refine Option.bind_eq_some_iff.2 ⟨r, hr, Option.map_eq_some_iff.2 ⟨c.firstPosition, ?_, ?_⟩⟩
    · exact (findIdx?_take_eq_some_iff ..).2 hfirst
    · rw [hlen, ← hlabel]

/-- Exactly the repeats of a key are collisions. -/
theorem mem_collisions_build_iff (hρ : Keyed.IsPartialEquiv ρ) (master : String)
    (records : List ρ) (c : KeyCollision) :
    c ∈ (build master records).collisions ↔ c.IsOf records := by
  rw [collisions_build hρ, List.mem_filterMap]
  constructor
  · rintro ⟨position, -, h⟩
    exact ((collision?_take_eq_some_iff ..).1 h).2
  · intro h
    obtain ⟨r, hr, -⟩ := id h
    have hlt := (List.getElem?_eq_some_iff.1 hr).1
    exact ⟨c.position, List.mem_range.2 hlt, (collision?_take_eq_some_iff ..).2 ⟨rfl, h⟩⟩

/-- Collisions stand in strictly increasing order of positions. -/
theorem pairwise_collisions_build (hρ : Keyed.IsPartialEquiv ρ) (master : String)
    (records : List ρ) :
    (build master records).collisions.Pairwise fun a b => a.position < b.position := by
  rw [collisions_build hρ, List.pairwise_filterMap]
  refine List.pairwise_lt_range.imp ?_
  intro p q hpq a ha b hb
  have hp := ((collision?_take_eq_some_iff ..).1 ha).1
  have hq := ((collision?_take_eq_some_iff ..).1 hb).1
  omega

/-! ## Two views of the same records -/

theorem positions_build (hρ : Keyed.IsPartialEquiv ρ) (master : String) (records : List ρ) :
    (build master records).collisions.map KeyCollision.positions
      = (List.range records.length).filterMap fun position =>
          records[position]?.bind fun r =>
            ((records.take position).findIdx? (hasKey (Keyed.key r))).map (·, position) := by
  rw [collisions_build hρ, List.map_filterMap]
  refine List.filterMap_congr fun position hposition => ?_
  have hlength : (records.take position).length = position :=
    List.length_take_of_le (Nat.le_of_lt (List.mem_range.1 hposition))
  rw [Option.map_bind]
  congr 1
  funext r
  simp [collision?, KeyCollision.positions, hlength, Function.comp_def]

theorem findIdx?_congr {α : Type} {p q : α → Bool} {l : List α} (h : ∀ x ∈ l, p x = q x) :
    l.findIdx? p = l.findIdx? q := by
  induction l with
  | nil => rfl
  | cons x l ih =>
    rw [List.findIdx?_cons, List.findIdx?_cons, h x (List.mem_cons_self ..),
      ih fun y hy => h y (List.mem_cons_of_mem _ hy)]

/-- Indexes over two views of the same records report collisions at the same positions if the keys of
both views compare alike. -/
theorem positions_build_map {τ σ : Type} [Keyed σ] (hρ : Keyed.IsPartialEquiv ρ)
    (hσ : Keyed.IsPartialEquiv σ) {f : τ → ρ} {g : τ → σ} {records : List τ}
    (h : ∀ a ∈ records, ∀ b ∈ records, Keyed.sameKey (Keyed.key (f a)) (Keyed.key (f b))
      = Keyed.sameKey (Keyed.key (g a)) (Keyed.key (g b))) (master master' : String) :
    (build master (records.map f)).collisions.map KeyCollision.positions
      = (build master' (records.map g)).collisions.map KeyCollision.positions := by
  rw [positions_build hρ, positions_build hσ, List.length_map, List.length_map]
  refine List.filterMap_congr fun position _ => ?_
  rw [List.getElem?_map, List.getElem?_map]
  cases hr : records[position]? with
  | none => rfl
  | some r =>
    have hmem := List.mem_of_getElem? hr
    simp only [Option.map_some, Option.bind_some, ← List.map_take, List.findIdx?_map]
    congr 1
    exact findIdx?_congr fun x hx => h x (List.mem_of_mem_take hx) r hmem

/-! ## Counting keys -/

/-- The keys that records have, where keys that find the same record are one. -/
def keySet (h : Equivalence fun a b : Keyed.Key ρ => Keyed.sameKey a b = true) (records : List ρ) :
    Set (Quotient ⟨_, h⟩) :=
  {q | ∃ r ∈ records, q = Quotient.mk ⟨_, h⟩ (Keyed.key r)}

theorem keySet_concat (h : Equivalence fun a b : Keyed.Key ρ => Keyed.sameKey a b = true)
    (records : List ρ) (r : ρ) :
    keySet h (records ++ [r]) = insert (Quotient.mk ⟨_, h⟩ (Keyed.key r)) (keySet h records) := by
  ext q
  simp [keySet, or_comm, or_and_right, exists_or]

theorem finite_keySet (h : Equivalence fun a b : Keyed.Key ρ => Keyed.sameKey a b = true)
    (records : List ρ) : (keySet h records).Finite := by
  induction records using List.reverseRecOn with
  | nil => simp [keySet]
  | append_singleton records r ih => rw [keySet_concat]; exact ih.insert _

theorem mk_mem_keySet_iff (h : Equivalence fun a b : Keyed.Key ρ => Keyed.sameKey a b = true)
    (records : List ρ) (r : ρ) :
    Quotient.mk ⟨_, h⟩ (Keyed.key r) ∈ keySet h records ↔ (collision? records r).isSome := by
  simp only [keySet, Set.mem_ofPred_eq, Quotient.eq, collision?, Option.isSome_map,
    List.findIdx?_isSome, List.any_eq_true, hasKey]
  exact exists_congr fun x => and_congr_right fun _ => ⟨h.symm, h.symm⟩

theorem isPartialEquiv_of_equivalence
    (h : Equivalence fun a b : Keyed.Key ρ => Keyed.sameKey a b = true) :
    Keyed.IsPartialEquiv ρ where
  symm := h.symm
  trans := h.trans

theorem size_build (h : Equivalence fun a b : Keyed.Key ρ => Keyed.sameKey a b = true)
    (master : String) (records : List ρ) :
    (build master records).size = (keySet h records).ncard := by
  induction records using List.reverseRecOn with
  | nil => simp [keySet, build_nil, size]
  | append_singleton records r ih =>
    rw [size_build_concat (isPartialEquiv_of_equivalence h), keySet_concat, ih]
    -- A repeat adds no key to the set and no entry to the index.
    by_cases hr : (collision? records r).isSome
    · rw [if_pos hr, Set.insert_eq_of_mem ((mk_mem_keySet_iff h records r).2 hr)]
      rfl
    · rw [if_neg hr, Set.ncard_insert_of_notMem
        (fun hmem => hr ((mk_mem_keySet_iff h records r).1 hmem)) (finite_keySet h records)]

/-! ## The account -/

/-- An index over lawful keys finds the last record of each key, counts the distinct keys, and lists
the repeats of keys in order, each with the first position of its key. -/
theorem build_accounts_for_records
    (h : Equivalence fun a b : Keyed.Key ρ => Keyed.sameKey a b = true)
    (master : String) (records : List ρ) :
    let index := build master records
    (∀ k, index.get? k = (records.filter fun r => Keyed.sameKey (Keyed.key r) k).getLast?)
      ∧ index.size = (keySet h records).ncard
      ∧ (index.collisions.Pairwise fun a b => a.position < b.position)
      ∧ (∀ c, c ∈ index.collisions ↔ c.IsOf records)
      ∧ index.size + index.collisions.length = records.length := by
  have hρ := isPartialEquiv_of_equivalence h
  exact ⟨get?_build hρ master records, size_build h master records,
    pairwise_collisions_build hρ master records, mem_collisions_build_iff hρ master records,
    size_add_length_collisions hρ master records⟩

/-- Pairs found by their first part. -/
@[reducible] def keyedByFirst : Keyed (Nat × String) where
  Key := Nat
  key := Prod.fst
  sameKey a b := a == b
  describe := toString

theorem build_accounts_for_interleaved_repeats :
    letI := keyedByFirst
    let records := [(7, "a"), (8, "b"), (7, "c"), (7, "d")]
    let index := build "Items" records
    ∃ h : Equivalence fun a b : Keyed.Key (Nat × String) => Keyed.sameKey a b = true,
      (∀ k, index.get? k = (records.filter fun r => Keyed.sameKey (Keyed.key r) k).getLast?)
        ∧ index.size = (keySet h records).ncard
        ∧ (index.collisions.Pairwise fun a b => a.position < b.position)
        ∧ (∀ c, c ∈ index.collisions ↔ c.IsOf records)
        ∧ index.size + index.collisions.length = records.length := by
  let _ := keyedByFirst
  have h : Equivalence fun a b : Nat => (a == b) = true := by
    refine ⟨fun a => by simp, fun hab => ?_, fun hab hbc => ?_⟩
    · exact beq_iff_eq.2 (beq_iff_eq.1 hab).symm
    · exact beq_iff_eq.2 ((beq_iff_eq.1 hab).trans (beq_iff_eq.1 hbc))
  exact ⟨h, build_accounts_for_records h "Items" [(7, "a"), (8, "b"), (7, "c"), (7, "d")]⟩

end MasterIndex

end MasterData
