-- SUMMARY: What holds of the masters that a survey collects.
import MasterData.Project.Materialize
import MasterData.Proofs.Project.Registry
import MasterData.Proofs.Schema.Extract
import MasterData.Proofs.SortedMap
import MasterData.Proofs.Workbook.Scan

/-! # Surveyed masters

Each master that a survey collects was extracted from an anchored sheet of one of the workbooks, has a
name that can name an asset, and shares neither its name nor its module with another; and each name that
is taken is that of a collected master. A visit of a sheet takes in its master or fails without a trace.
Main statements: `Survey.isSound_ofWorkbooks` and `Survey.isRecorded_ofWorkbooks`.
-/

namespace MasterData

/-! ## Visits -/

/-- The master that an anchored sheet declares, with the source of its module. -/
def ScanHit.master? (c : Config) (hit : ScanHit) : Option CompiledMaster :=
  match hit.schema? c.typeTable with
  | .ok (some schema) => (schema.source? c.codeOptions).map fun source => ⟨schema, source⟩
  | _ => none

theorem ScanHit.of_master? {c : Config} {hit : ScanHit} {m : CompiledMaster}
    (h : hit.master? c = some m) :
    hit.schema? c.typeTable = .ok (some m.schema) ∧ m.schema.source? c.codeOptions = some m.source := by
  unfold master? at h
  split at h
  · rename_i hschema
    obtain ⟨source, hsource, rfl⟩ := Option.map_eq_some_iff.1 h
    exact ⟨hschema, hsource⟩
  · cases h

theorem ScanHit.extract_of_schema? {t : TypeTable} {hit : ScanHit} {found : Option MasterSchema}
    (h : hit.schema? t = .ok found) :
    MasterSchema.extract t (workbookName hit.workbook) hit.sheet hit.anchor = .ok found := by
  unfold schema? at h
  cases hextract : MasterSchema.extract t (workbookName hit.workbook) hit.sheet hit.anchor with
  | error failure =>
    rw [hextract] at h
    cases h
  | ok found' =>
    rw [hextract] at h
    exact congrArg Except.ok (Except.ok.inj h)

theorem ScanHit.eq_header_of_schema? {t : TypeTable} {hit : ScanHit} {e : ProjectError}
    (h : hit.schema? t = .error e) : ∃ failure, e = .header hit.workbook failure := by
  unfold schema? at h
  cases hextract : MasterSchema.extract t (workbookName hit.workbook) hit.sheet hit.anchor with
  | ok found =>
    rw [hextract] at h
    cases h
  | error failure =>
    rw [hextract] at h
    cases h
    exact ⟨failure, rfl⟩

namespace Survey

variable {c : Config} {hit : ScanHit} {survey survey' : Survey} {e : ProjectError}

/-- What a visit does that succeeds: it takes in the master of the sheet, which has claimed its names,
or there is none. -/
theorem visit_eq_ok (h : visit c hit survey = (.ok (), survey')) :
    (hit.master? c = none ∧ survey' = survey)
      ∨ ∃ m registry, hit.master? c = some m ∧ survey.registry.claim m.schema = .ok registry
        ∧ survey' = ⟨registry, survey.masters ++ [m]⟩ := by
  unfold visit at h
  unfold ScanHit.master?
  split at h
  · cases h
  · rename_i hschema
    cases h
    exact .inl ⟨by rw [hschema], rfl⟩
  · rename_i schema hschema
    rw [hschema]
    split at h
    · rename_i hsource
      cases h
      exact .inl ⟨by simp only [hsource, Option.map_none], rfl⟩
    · rename_i source hsource
      split at h
      · cases h
      · rename_i registry hclaim
        cases h
        exact .inr ⟨⟨schema, source⟩, registry, by simp only [hsource, Option.map_some], hclaim, rfl⟩

/-- A visit fails over the header of the sheet or over the names of its master, and takes in nothing. -/
theorem visit_eq_error (h : visit c hit survey = (.error e, survey')) :
    survey' = survey ∧ (hit.schema? c.typeTable = .error e
      ∨ ∃ m, hit.master? c = some m ∧ survey.registry.claim m.schema = .error e) := by
  unfold visit at h
  unfold ScanHit.master?
  split at h
  · rename_i hschema
    cases h
    exact ⟨rfl, .inl hschema⟩
  · cases h
  · rename_i schema hschema
    rw [hschema]
    split at h
    · cases h
    · rename_i source hsource
      split at h
      · rename_i hclaim
        cases h
        exact ⟨rfl, .inr ⟨⟨schema, source⟩, by simp only [hsource, Option.map_some], hclaim⟩⟩
      · cases h

end Survey

/-! ## Surveys -/

/-- The schema is that of an anchored sheet of one of the workbooks. -/
def MasterSchema.IsDeclaredIn (c : Config) (d : Disk) (paths : List String) (s : MasterSchema) :
    Prop :=
  ∃ hit : ScanHit, hit.IsIn d paths
    ∧ MasterSchema.extract c.typeTable (workbookName hit.workbook) hit.sheet hit.anchor
        = .ok (some s)

namespace Survey

/-- The masters of a survey are declared, can name assets, and have claimed different modules. -/
structure IsSound (c : Config) (d : Disk) (paths : List String) (survey : Survey) : Prop where
  declared : ∀ m ∈ survey.masters, m.schema.IsDeclaredIn c d paths
  sourced : ∀ m ∈ survey.masters, m.schema.source? c.codeOptions = some m.source
  valid : ∀ m ∈ survey.masters, isValidAssetName m.schema.masterName
  claimed : ∀ m ∈ survey.masters,
    (survey.registry.modules.get? (Naming.moduleName m.schema.masterName)).isSome
  nodup_moduleName : (survey.masters.map (Naming.moduleName ·.schema.masterName)).Nodup

variable {c : Config} {d : Disk} {paths : List String}

/-- Masters of different modules have different names. -/
theorem IsSound.nodup {survey : Survey} (h : survey.IsSound c d paths) :
    (survey.masters.map (·.schema.masterName)).Nodup := by
  have hmodules := h.nodup_moduleName
  rw [← Function.comp_def Naming.moduleName, ← List.map_map] at hmodules
  exact List.Pairwise.of_map Naming.moduleName (fun _ _ => mt (congrArg _)) hmodules

theorem isSound_empty (registry : Registry) : IsSound c d paths ⟨registry, []⟩ where
  declared := by simp
  sourced := by simp
  valid := by simp
  claimed := by simp
  nodup_moduleName := by simp

theorem IsSound.claim {survey : Survey} (h : survey.IsSound c d paths) {s : MasterSchema}
    (hs : s.IsDeclaredIn c d paths) {registry : Registry}
    (hclaim : survey.registry.claim s = .ok registry) {source : String}
    (hsource : s.source? c.codeOptions = some source) :
    IsSound c d paths ⟨registry, survey.masters ++ [⟨s, source⟩]⟩ := by
  obtain ⟨hfault, hfree, -, rfl⟩ := Registry.claim_eq_ok hclaim
  -- The module of the new master was free, so the modules of all masters before differ from it.
  have hnew : ∀ m ∈ survey.masters,
      Naming.moduleName m.schema.masterName ≠ Naming.moduleName s.masterName := by
    intro m hm heq
    have hclaimed := h.claimed m hm
    rw [heq, hfree] at hclaimed
    cases hclaimed
  refine ⟨?_, ?_, ?_, ?_, ?_⟩
  · intro m hm
    rcases List.mem_append.1 hm with hm | hm
    · exact h.declared m hm
    · rw [List.mem_singleton.1 hm]
      exact hs
  · intro m hm
    rcases List.mem_append.1 hm with hm | hm
    · exact h.sourced m hm
    · rw [List.mem_singleton.1 hm]
      exact hsource
  · intro m hm
    rcases List.mem_append.1 hm with hm | hm
    · exact h.valid m hm
    · rw [List.mem_singleton.1 hm]
      exact Registry.isValidAssetName_of_nameFault? hfault
  · intro m hm
    rcases List.mem_append.1 hm with hm | hm
    · exact SortedMap.isSome_get?_insert (h.claimed m hm) _ _
    · rw [List.mem_singleton.1 hm, SortedMap.get?_insert_self]
      rfl
  · rw [List.map_append, List.nodup_append]
    refine ⟨h.nodup_moduleName, by simp, ?_⟩
    intro name hname name' hname'
    obtain ⟨m, hm, rfl⟩ := List.mem_map.1 hname
    simp only [List.map_cons, List.map_nil, List.mem_singleton] at hname'
    exact hname' ▸ hnew m hm

theorem IsSound.visit {survey : Survey} (h : survey.IsSound c d paths) {hit : ScanHit}
    (hhit : hit.IsIn d paths) : (Survey.visit c hit survey).2.IsSound c d paths := by
  rcases hvisit : Survey.visit c hit survey with ⟨e | _, survey'⟩
  · rw [(visit_eq_error hvisit).1]
    exact h
  · rcases visit_eq_ok hvisit with ⟨-, rfl⟩ | ⟨m, registry, hm, hclaim, rfl⟩
    · exact h
    · obtain ⟨hschema, hsource⟩ := ScanHit.of_master? hm
      exact h.claim ⟨hit, hhit, ScanHit.extract_of_schema? hschema⟩ hclaim hsource

/-- Every survey is sound, also one that ended with a failure. -/
theorem isSound_ofWorkbooks (c : Config) (d : Disk) (paths : List String) :
    (ofWorkbooks c d paths).2.IsSound c d paths :=
  scanWorkbooks_invariant (I := IsSound c d paths) (fun _ _ hhit h => h.visit hhit)
    (isSound_empty _)

/-! ## Accepted masters -/

variable {survey survey' : Survey}

/-- The masters behind visits that succeed are those that the sheets declare, in order. -/
theorem masters_of_visitEach {hits : List ScanHit}
    (h : visitEach (visit c) hits survey = (.ok (), survey')) :
    survey'.masters = survey.masters ++ hits.filterMap (·.master? c) := by
  induction hits generalizing survey with
  | nil =>
    cases h
    simp
  | cons hit hits ih =>
    unfold visitEach at h
    split at h
    · cases h
    · rename_i next hvisit
      rw [ih h]
      rcases visit_eq_ok hvisit with ⟨hnone, rfl⟩ | ⟨m, registry, hm, -, rfl⟩
      · rw [List.filterMap_cons_none hnone]
      · rw [List.filterMap_cons_some hm, List.append_assoc]
        rfl

/-- The taken names are those of the masters, noted with the sheet of one that has the name. -/
def Notes (taken : SortedMap String String) (nameOf : String → String)
    (masters : List CompiledMaster) : Prop :=
  ∀ name origin, taken.get? name = some origin →
    ∃ m ∈ masters, nameOf m.schema.masterName = name ∧ Registry.originOf m.schema = origin

theorem Notes.insert {taken : SortedMap String String} {nameOf : String → String}
    {masters : List CompiledMaster} (h : Notes taken nameOf masters) (m : CompiledMaster) :
    Notes (taken.insert (nameOf m.schema.masterName) (Registry.originOf m.schema)) nameOf
      (masters ++ [m]) := by
  intro name origin horigin
  rw [SortedMap.get?_insert] at horigin
  split at horigin
  · rename_i heq
    exact ⟨m, List.mem_append_right _ (List.mem_singleton_self m),
      (Std.LawfulEqOrd.eq_of_compare heq).symm, Option.some.inj horigin⟩
  · obtain ⟨m', hm', hname⟩ := h name origin horigin
    exact ⟨m', List.mem_append_left _ hm', hname⟩

/-- Whoever has taken a name is among the masters of the survey. -/
structure IsRecorded (c : Config) (survey : Survey) : Prop where
  modules : Notes survey.registry.modules Naming.moduleName survey.masters
  types : Notes survey.registry.types Naming.typeName survey.masters
  enums : survey.registry.enums = (Registry.ofConfig c).enums

theorem isRecorded_empty (c : Config) : IsRecorded c ⟨.ofConfig c, []⟩ where
  modules _ _ h := by cases h
  types _ _ h := by cases h
  enums := rfl

theorem IsRecorded.visit (h : survey.IsRecorded c) (hit : ScanHit) :
    (Survey.visit c hit survey).2.IsRecorded c := by
  rcases hvisit : Survey.visit c hit survey with ⟨e | _, survey'⟩
  · rw [(visit_eq_error hvisit).1]
    exact h
  · rcases visit_eq_ok hvisit with ⟨-, rfl⟩ | ⟨m, registry, -, hclaim, rfl⟩
    · exact h
    · obtain ⟨-, -, -, rfl⟩ := Registry.claim_eq_ok hclaim
      exact ⟨h.modules.insert m, h.types.insert m, h.enums⟩

theorem isRecorded_ofWorkbooks (c : Config) (d : Disk) (paths : List String) :
    (ofWorkbooks c d paths).2.IsRecorded c :=
  scanWorkbooks_invariant (I := IsRecorded c) (fun hit _ _ h => h.visit hit) (isRecorded_empty c)

end Survey

/-! ## Declared schemas -/

namespace MasterSchema.IsDeclaredIn

variable {c : Config} {d : Disk} {paths : List String} {s : MasterSchema}

theorem isWellFormed (h : s.IsDeclaredIn c d paths) : s.IsWellFormed c.typeTable := by
  obtain ⟨hit, -, hextract⟩ := h
  exact (isExtracted_of_extract hextract).toIsWellFormed

/-- The sheet of a declared master is found again, with its anchor where the schema says. -/
theorem exists_sheet (h : s.IsDeclaredIn c d paths) :
    ∃ path ∈ paths, ∃ w sheet, Workbook.openAt d path = .ok w
      ∧ s.source.workbook = workbookName path ∧ ∀ p, s.sheetIn w p = .ok sheet := by
  obtain ⟨hit, hhit, hextract⟩ := h
  have hs := isExtracted_of_extract hextract
  obtain ⟨w, hw, hmem, hread⟩ := hhit.exists_workbook
  refine ⟨hit.workbook, hhit.mem_paths, w, hit.sheet, hw, by rw [hs.source_eq], fun p => ?_⟩
  have hsheet : s.source.sheet = hit.sheet.name := by rw [hs.source_eq]
  have hcontains : w.sheetNames.contains hit.sheet.name = true := by simpa using hmem
  simp only [sheetIn, hsheet, hcontains, hread, Bool.not_true, Bool.false_eq_true, if_false,
    hhit.findAnchor?, hs.anchor_eq, if_true]

end MasterSchema.IsDeclaredIn

end MasterData
