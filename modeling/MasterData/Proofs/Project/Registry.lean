-- SUMMARY: What a registry grants about masters that claim their names one after another.
import MasterData.Project.Registry
import MasterData.Proofs.Record.BlankCells

/-! # Claimed names

A claim is accepted if the name of the master has no fault and neither its module nor its type is
taken; then both are. So masters that one registry accepts, one after another, have different modules
and different types, and no type of theirs is reserved. Main statement: `Registry.areOwn_of_claims`.
-/

namespace MasterData

namespace Registry

/-! ## One claim -/

/-- A name that is taken was free and without fault. -/
theorem claim_eq_ok {r r' : Registry} {s : MasterSchema} (h : r.claim s = .ok r') :
    r.nameFault? s.masterName = none
      ∧ r.modules.get? (Naming.moduleName s.masterName) = none
      ∧ r.types.get? (Naming.typeName s.masterName) = none
      ∧ r' = { r with
          modules := r.modules.insert (Naming.moduleName s.masterName) (originOf s)
          types := r.types.insert (Naming.typeName s.masterName) (originOf s) } := by
  unfold claim at h
  simp only at h
  split at h
  · cases h
  · cases h
  · cases h
  · rename_i hfault hmodule htype
    rw [Except.ok.injEq] at h
    exact ⟨hfault, hmodule, htype, h.symm⟩

/-- A name that is refused has a fault, or its module or its type is taken. -/
theorem claim_eq_error {r : Registry} {s : MasterSchema} {e : ProjectError}
    (h : r.claim s = .error e) :
    (∃ fault, r.nameFault? s.masterName = some fault
        ∧ e = .invalidMasterName s.masterName (originOf s) fault)
      ∨ ∃ first, (r.modules.get? (Naming.moduleName s.masterName) = some first
          ∨ r.types.get? (Naming.typeName s.masterName) = some first)
        ∧ e = .duplicateMaster s.masterName first (originOf s) := by
  unfold claim at h
  simp only at h
  split at h
  · rename_i hfault
    cases h
    exact .inl ⟨_, hfault, rfl⟩
  · rename_i first _ hmodule
    cases h
    exact .inr ⟨first, .inl hmodule, rfl⟩
  · rename_i first _ _ htype
    cases h
    exact .inr ⟨first, .inr htype, rfl⟩
  · cases h

/-- Whether a name has a fault depends on the enumerations alone. -/
theorem nameFault?_congr {r r' : Registry} (h : r.enums = r'.enums) (master : String) :
    r.nameFault? master = r'.nameFault? master := by
  simp only [nameFault?, h]

theorem isValidAssetName_of_nameFault? {r : Registry} {master : String}
    (h : r.nameFault? master = none) : isValidAssetName master := by
  unfold nameFault? at h
  simp only at h
  split at h
  · cases h
  · rename_i hvalid
    simpa using hvalid

theorem not_isReservedType_of_nameFault? {r : Registry} {master : String}
    (h : r.nameFault? master = none) :
    Naming.isReservedType (Naming.typeName master) = false := by
  unfold nameFault? at h
  simp only at h
  split at h
  · cases h
  · split at h
    · cases h
    · rename_i hreserved
      simpa using hreserved

/-! ## Claims in sequence -/

/-- Masters with modules and types of their own, none of which generated code reserves. -/
structure AreOwn (masters : List String) : Prop where
  nodup_moduleName : (masters.map Naming.moduleName).Nodup
  nodup_typeName : (masters.map Naming.typeName).Nodup
  not_isReservedType : ∀ master ∈ masters,
    Naming.isReservedType (Naming.typeName master) = false

theorem exists_of_claims_cons {r r' : Registry} {s : MasterSchema} {rest : List MasterSchema}
    (h : (s :: rest).foldlM claim r = .ok r') :
    ∃ next, r.claim s = .ok next ∧ rest.foldlM claim next = .ok r' := by
  rw [List.foldlM_cons] at h
  cases hclaim : r.claim s with
  | error e =>
    rw [hclaim] at h
    cases h
  | ok next =>
    rw [hclaim] at h
    exact ⟨next, rfl, h⟩

/-- What was taken before the claims stays apart from what they take. -/
theorem free_of_claims {r r' : Registry} {schemas : List MasterSchema}
    (h : schemas.foldlM claim r = .ok r') :
    ∀ s ∈ schemas, r.nameFault? s.masterName = none
      ∧ r.modules.get? (Naming.moduleName s.masterName) = none
      ∧ r.types.get? (Naming.typeName s.masterName) = none := by
  induction schemas generalizing r with
  | nil => simp
  | cons s rest ih =>
    obtain ⟨next, hclaim, hrest⟩ := exists_of_claims_cons h
    obtain ⟨hfault, hmodule, htype, rfl⟩ := claim_eq_ok hclaim
    refine List.forall_mem_cons.2 ⟨⟨hfault, hmodule, htype⟩, fun s' hs' => ?_⟩
    obtain ⟨hfault', hmodule', htype'⟩ := ih hrest s' hs'
    rw [SortedMap.get?_insert] at hmodule' htype'
    refine ⟨hfault', ?_, ?_⟩
    · split at hmodule'
      · cases hmodule'
      · exact hmodule'
    · split at htype'
      · cases htype'
      · exact htype'

/-- Masters that a registry accepts one after another have names of their own. -/
theorem areOwn_of_claims {r r' : Registry} {schemas : List MasterSchema}
    (h : schemas.foldlM claim r = .ok r') : AreOwn (schemas.map (·.masterName)) := by
  induction schemas generalizing r with
  | nil => exact ⟨by simp, by simp, by simp⟩
  | cons s rest ih =>
    obtain ⟨next, hclaim, hclaims⟩ := exists_of_claims_cons h
    obtain ⟨hfault, -, -, rfl⟩ := claim_eq_ok hclaim
    have hrest := ih hclaims
    -- The first claim took its names, so no later one can have them.
    have hapart : ∀ s' ∈ rest,
        Naming.moduleName s'.masterName ≠ Naming.moduleName s.masterName
          ∧ Naming.typeName s'.masterName ≠ Naming.typeName s.masterName := by
      intro s' hs'
      obtain ⟨-, hmodule, htype⟩ := free_of_claims hclaims s' hs'
      refine ⟨fun heq => ?_, fun heq => ?_⟩
      · rw [heq, SortedMap.get?_insert_self] at hmodule
        cases hmodule
      · rw [heq, SortedMap.get?_insert_self] at htype
        cases htype
    refine ⟨?_, ?_, ?_⟩
    · rw [List.map_cons, List.map_cons, List.nodup_cons]
      exact ⟨by simpa using fun s' hs' => (hapart s' hs').1, hrest.nodup_moduleName⟩
    · rw [List.map_cons, List.map_cons, List.nodup_cons]
      exact ⟨by simpa using fun s' hs' => (hapart s' hs').2, hrest.nodup_typeName⟩
    · rw [List.map_cons, List.forall_mem_cons]
      exact ⟨not_isReservedType_of_nameFault? hfault, hrest.not_isReservedType⟩

theorem exists_of_isOk {r : Registry} {schemas : List MasterSchema}
    (h : (schemas.foldlM claim r).isOk = true) : ∃ r', schemas.foldlM claim r = .ok r' := by
  cases hclaims : schemas.foldlM claim r with
  | error e =>
    rw [hclaims] at h
    cases h
  | ok r' => exact ⟨r', rfl⟩

end Registry

/-- A master of a name. -/
def MasterSchema.named (master : String) : MasterSchema :=
  { MasterSchema.idSchema with masterName := master }

end MasterData
