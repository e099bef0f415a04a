-- SUMMARY: Compiling in check mode tells what compiling would do.
import MasterData.Proofs.Project.OneByOne
import MasterData.Proofs.Project.Outputs

/-! # Check mode

Checking a project changes nothing and tells what compiling it would: it fails as compiling fails,
succeeds if compiling changes nothing, and otherwise names the files that compiling would write or
remove. The two runs work on disks that differ from the first written file on, but no run reads a file
that it wrote before. A folder of generated source that is there, but not to be found by its path until
the run makes folders on the way, is the exception. Main statement: `compile_check`.
-/

namespace MasterData

namespace Published

variable {folder : String} {p : Published} {d d' : Disk} {names paths : List String}

/-- The leftovers that are found behind the files of a run are found before them. -/
theorem leftovers_of_keeps (hd : d.IsTree) (hreach : d.Reaches folder) (hfolder : folder ≠ "")
    (hnames : ∀ n ∈ names, Path.IsName n) (h : Disk.Keeps (Disk.IsPlace folder names) d d')
    (hp : ∀ n ∈ names, n ∈ p.names) {f : Location} (hf : d'.find folder = .ok (f, .folder))
    (hleft : p.leftovers folder d' = .ok paths) : p.leftovers folder d = .ok paths := by
  cases hbefore : p.leftovers folder d with
  | error e =>
    -- A file in place of the folder would still be there, as no file of the run has its place.
    exfalso
    obtain ⟨-, l, c, hfile⟩ := system_of_leftovers hbefore
    obtain ⟨hl, hentry⟩ := Disk.find_eq_ok_iff.1 hfile
    obtain ⟨hl', hentry'⟩ := Disk.find_eq_ok_iff.1 hf
    obtain rfl := Option.some.inj
      ((Disk.destination_of_locate hl).symm.trans (Disk.destination_of_locate hl'))
    have hplace : ¬ Disk.IsPlace folder names l := by
      intro hplace
      have hpop := (hplace.inFolder hnames).destination_eq
      rw [Disk.destination_of_locate hl, Option.some.injEq] at hpop
      have hsize := congrArg Array.size hpop
      rw [Array.size_pop] at hsize
      have hbase : l = #[] := Array.eq_empty_of_size_eq_zero (by omega)
      subst hbase
      cases hentry
    rw [(h.file hplace).2 hentry] at hentry'
    cases hentry'
  | ok before =>
    have hd' := (hd.hasNamedFiles folder).of_keeps_isPlace hnames h
    refine congrArg _ (leftovers_congr (hd.hasNamedFiles folder) hd' hfolder hbefore hleft
      fun name => and_congr_left fun hnot => ?_)
    have hread (hname : Path.IsName name) :=
      Disk.currentText_of_keeps hd hreach hfolder hnames h hname fun hmem => hnot (hp name hmem)
    unfold Disk.HasMarked
    refine and_congr_right fun hname => and_congr_right fun _ => exists_congr fun text => ?_
    rw [← Disk.currentText_eq_some_iff, ← Disk.currentText_eq_some_iff, hread hname]

end Published

/-! ## Runs -/

/-! ## Failures of a run -/

/-- No survey fails over files that are out of date. -/
theorem Survey.ne_stale_of_visit {c : Config} {hit : ScanHit} {survey survey' : Survey}
    {e : ProjectError} (h : Survey.visit c hit survey = (.error e, survey')) (files : List String) :
    e ≠ .stale files := by
  obtain ⟨-, hschema | ⟨m, -, hclaim⟩⟩ := Survey.visit_eq_error h
  · obtain ⟨failure, rfl⟩ := ScanHit.eq_header_of_schema? hschema
    exact ProjectError.noConfusion
  · rcases Registry.claim_eq_error hclaim with ⟨fault, -, rfl⟩ | ⟨first, -, rfl⟩
    · exact ProjectError.noConfusion
    · exact ProjectError.noConfusion

theorem Survey.ne_stale_of_ofWorkbooks {c : Config} {d : Disk} {paths : List String}
    {survey : Survey} {e : ProjectError} (h : Survey.ofWorkbooks c d paths = (.error e, survey))
    (files : List String) : e ≠ .stale files := by
  obtain ⟨hits, before, -, -, hend⟩ :=
    exists_visitEach_of_scanWorkbooks (Survey.visit c) d paths ⟨.ofConfig c, []⟩
  rw [← Survey.ofWorkbooks, h] at hend
  rcases hend with ⟨-, path, -, failure, -, rfl⟩ | ⟨hit, -, hvisit⟩
  · exact ProjectError.noConfusion
  · exact Survey.ne_stale_of_visit hvisit files

/-- Only checking fails over files that are out of date. -/
theorem ne_stale_of_compile (c : Config) (d : Disk) (files : List String) :
    (compile c .apply d).1 ≠ .error (.stale files) := by
  intro h
  cases hpaths : Workbook.listIn d c.workbooksFolder with
  | error e =>
    unfold compile at h
    rw [hpaths] at h
    cases h
  | ok paths =>
    cases hsurvey : Survey.ofWorkbooks c d paths with
    | mk outcome survey =>
      cases outcome with
      | error e =>
        rw [compile_of_survey_error hpaths hsurvey] at h
        split at h
        · rename_i hadded
          obtain ⟨path, rfl⟩ := Published.system_of_addAll hadded
          cases h
        · exact Survey.ne_stale_of_ofWorkbooks hsurvey files (Except.error.inj h)
      | ok u =>
        rw [compile_eq_publish hpaths hsurvey] at h
        unfold publish at h
        split at h
        · rename_i hadded
          obtain ⟨path, rfl⟩ := Published.system_of_addAll hadded
          cases h
        · rename_i p d₁ _
          rcases p.prune_apply_cases c.generatedFolder d₁ with
            ⟨pruned, d₂, -, -, hprune⟩ | ⟨path, d₂, hprune⟩
          · rw [hprune] at h
            cases h
          · rw [hprune] at h
            cases h

section Runs

variable {c : Config} {d : Disk}

theorem CompileReport.finish_check (r : CompileReport) :
    r.finish .check
      = if r.changed = [] ∧ r.pruned = [] then .ok r else .error (.stale (r.changed ++ r.pruned)) := by
  obtain ⟨masters, changed, unchanged, pruned⟩ := r
  cases changed <;> cases pruned <;> simp [finish]

theorem publish_check (c : Config) (masters : List CompiledMaster) (d : Disk) :
    publish c .check masters d
      = (((Published.noteAll c.generatedFolder (d.currentText c.generatedFolder) (c.outputs masters)
            .empty).leftovers c.generatedFolder d).bind fun pruned =>
          CompileReport.finish .check
            ⟨masters.map (·.schema.masterName),
              (Published.noteAll c.generatedFolder (d.currentText c.generatedFolder)
                (c.outputs masters) .empty).changed,
              (Published.noteAll c.generatedFolder (d.currentText c.generatedFolder)
                (c.outputs masters) .empty).unchanged, pruned⟩, d) := by
  unfold publish
  rw [Published.addAll_check]
  simp only [Published.prune_check]
  split
  · rename_i heq
    rw [(Prod.mk.inj heq).1, ← (Prod.mk.inj heq).2]
    rfl
  · rename_i heq
    rw [(Prod.mk.inj heq).1, ← (Prod.mk.inj heq).2]
    rfl

/-- On a finished survey, checking makes the report of the run that writes. -/
theorem publish_check_eq {masters : List CompiledMaster} (hd : d.IsTree)
    (hreach : d.Reaches c.generatedFolder) (hfolder : c.generatedFolder ≠ "")
    (houtputs : AreOutputs (c.outputs masters))
    (hsystem : ∀ path, (publish c .apply masters d).1 ≠ .error (.system path)) :
    (publish c .check masters d).1
      = (publish c .apply masters d).1.bind (CompileReport.finish .check) := by
  have hnames : ∀ n ∈ (c.outputs masters).map (·.1), Path.IsName n := by
    simpa using fun n text hmem => houtputs.isName (n, text) hmem
  have hkeeps := Published.keeps_addAll_isPlace .apply c.generatedFolder (c.outputs masters) .empty d
  rw [publish_check]
  unfold publish at hsystem ⊢
  rcases Published.addAll_apply_cases hd hreach hfolder [] (by simp)
      (Disk.Keeps.refl d) houtputs (by simp) .empty with ⟨d₁, hadded⟩ | ⟨path, d₁, hadded⟩
  · rw [hadded] at hkeeps hsystem ⊢
    have hread := Published.readText_of_addAll houtputs hadded
    generalize hp : Published.noteAll c.generatedFolder (d.currentText c.generatedFolder)
      (c.outputs masters) .empty = p at hadded hsystem ⊢
    simp only at hkeeps hsystem ⊢
    rcases p.prune_apply_cases c.generatedFolder d₁ with
      ⟨pruned, d₂, hleft, -, hprune⟩ | ⟨path, d₂, hprune⟩
    · obtain ⟨f, hf⟩ := Config.exists_find hfolder hread
      have hknown : ∀ n ∈ (c.outputs masters).map (·.1), n ∈ p.names := by
        intro n hn
        rw [← hp, Published.names_noteAll]
        exact List.mem_append_left _ (List.mem_reverse.2 hn)
      rw [Published.leftovers_of_keeps hd hreach hfolder hnames hkeeps hknown hf hleft, hprune]
      rfl
    · rw [hprune] at hsystem
      exact absurd rfl (hsystem path)
  · rw [hadded] at hsystem
    exact absurd rfl (hsystem path)

theorem compile_check_snd (c : Config) (d : Disk) : (compile c .check d).2 = d := by
  cases hpaths : Workbook.listIn d c.workbooksFolder with
  | error e =>
    unfold compile
    rw [hpaths]
  | ok paths =>
    cases hsurvey : Survey.ofWorkbooks c d paths with
    | mk outcome survey =>
      cases outcome with
      | error e => rw [compile_of_survey_error hpaths hsurvey, Published.addAll_check]
      | ok u => rw [compile_eq_publish hpaths hsurvey, publish_check]

/-- Checking fails as compiling does, and otherwise makes the same report. -/
theorem compile_check_fst (hc : c.IsValid) (hd : d.IsTree) (hreach : d.Reaches c.generatedFolder)
    (hsystem : ∀ path, (compile c .apply d).1 ≠ .error (.system path)) :
    (compile c .check d).1 = (compile c .apply d).1.bind (CompileReport.finish .check) := by
  have hfolder := hc.generatedFolder_ne_empty
  cases hpaths : Workbook.listIn d c.workbooksFolder with
  | error e =>
    unfold compile
    rw [hpaths]
    rfl
  | ok paths =>
    have hsound := Survey.isSound_ofWorkbooks c d paths
    cases hsurvey : Survey.ofWorkbooks c d paths with
    | mk outcome survey =>
      rw [hsurvey] at hsound
      have houtputs := Config.areOutputs hsound
      cases outcome with
      | error e =>
        rw [compile_of_survey_error hpaths hsurvey] at hsystem ⊢
        rw [compile_of_survey_error hpaths hsurvey, Published.addAll_check]
        rcases Published.addAll_apply_cases hd hreach hfolder [] (by simp) (Disk.Keeps.refl d)
            houtputs.left (by simp) .empty with ⟨d₁, hadded⟩ | ⟨path, d₁, hadded⟩
        · rw [hadded]
          rfl
        · rw [hadded] at hsystem
          exact absurd rfl (hsystem path)
      | ok u =>
        rw [compile_eq_publish hpaths hsurvey] at hsystem ⊢
        rw [compile_eq_publish hpaths hsurvey]
        exact publish_check_eq hd hreach hfolder houtputs hsystem

/-- Checking leaves the disk as it is, and on a disk where the system refuses nothing it tells what
compiling does there: it fails with any failure but a difference exactly if compiling does, it succeeds
exactly if compiling changes and removes nothing, and otherwise its failure lists what compiling changes
and then what it removes. The folder of generated source is taken to be found by its path if it is
there. -/
theorem compile_check (hc : c.IsValid) (d : Disk) :
    (compile c .check d).2 = d
      ∧ (d.IsTree → d.Reaches c.generatedFolder →
          (∀ path, (compile c .apply d).1 ≠ .error (.system path)) →
        (∀ e, (∀ files, e ≠ .stale files) →
          ((compile c .check d).1 = .error e ↔ (compile c .apply d).1 = .error e))
        ∧ (∀ report, (compile c .check d).1 = .ok report
          ↔ (compile c .apply d).1 = .ok report ∧ report.changed = [] ∧ report.pruned = [])
        ∧ ∀ files, (compile c .check d).1 = .error (.stale files)
          ↔ ∃ report, (compile c .apply d).1 = .ok report
            ∧ files = report.changed ++ report.pruned ∧ files ≠ []) := by
  refine ⟨compile_check_snd c d, fun hd hreach hsystem => ?_⟩
  have hstale := ne_stale_of_compile c d
  rw [compile_check_fst hc hd hreach hsystem]
  cases happly : (compile c .apply d).1 with
  | error e =>
    refine ⟨fun e' _ => Iff.rfl, fun report => by simp [Except.bind], fun files => ?_⟩
    simpa [Except.bind, happly] using hstale files
  | ok report =>
    rw [Except.bind, CompileReport.finish_check]
    by_cases hsame : report.changed = [] ∧ report.pruned = []
    · rw [if_pos hsame]
      refine ⟨fun e _ => by simp, fun report' => ?_, fun files => ?_⟩
      · constructor
        · intro h
          cases h
          exact ⟨rfl, hsame⟩
        · exact And.left
      · simp only [reduceCtorEq, Except.ok.injEq, false_iff, not_exists, not_and]
        rintro _ rfl rfl
        simp [hsame]
    · rw [if_neg hsame]
      refine ⟨fun e he => ?_, fun report' => ?_, fun files => ?_⟩
      · simpa [eq_comm] using he (report.changed ++ report.pruned)
      · simp only [reduceCtorEq, Except.ok.injEq, false_iff, not_and]
        rintro rfl hchanged hpruned
        exact hsame ⟨hchanged, hpruned⟩
      · simp only [Except.error.injEq, ProjectError.stale.injEq, Except.ok.injEq]
        constructor
        · rintro rfl
          exact ⟨report, rfl, rfl, by simpa using hsame⟩
        · rintro ⟨_, rfl, rfl, -⟩
          rfl

end Runs

theorem compile_check_stale :
    Config.small.IsValid ∧ staleDisk.Reaches Config.small.generatedFolder
      ∧ (compile .small .apply staleDisk).1
        = .ok ⟨["Item"], ["src/item.rs", "src/masters.json", "src/mod.rs"], 0, ["src/old.rs"]⟩
      ∧ compile .small .check staleDisk
        = (.error (.stale ["src/item.rs", "src/masters.json", "src/mod.rs", "src/old.rs"]),
            staleDisk) := by
  have hc : Config.small.IsValid := by decide +kernel
  have hreach : staleDisk.Reaches Config.small.generatedFolder :=
    isTree_staleDisk.reaches (by decide +kernel) (by decide +kernel) (by decide +kernel)
  have happly : (compile .small .apply staleDisk).1
      = .ok ⟨["Item"], ["src/item.rs", "src/masters.json", "src/mod.rs"], 0, ["src/old.rs"]⟩ := by
    decide +kernel
  obtain ⟨hdisk, h⟩ := compile_check hc staleDisk
  obtain ⟨-, -, hstale⟩ := h isTree_staleDisk hreach (by simp [happly])
  refine ⟨hc, hreach, happly, Prod.ext ((hstale _).2 ⟨_, happly, rfl, by simp⟩) hdisk⟩

/-- A project whose generated source is found by way of a folder that is not there yet. -/
def detourConfig : Config := { Config.small with generatedSource := "new/../src" }

/-- Checking cannot look into the folder, while compiling makes the folder on the way and then finds
the file to remove. -/
theorem compile_check_detour :
    detourConfig.IsValid ∧ staleDisk.IsTree
      ∧ (compile detourConfig .apply staleDisk).1
        = .ok ⟨["Item"], ["new/../src/item.rs", "new/../src/masters.json", "new/../src/mod.rs"], 0,
            ["new/../src/old.rs"]⟩
      ∧ (compile detourConfig .check staleDisk).1
        = .error (.stale
            ["new/../src/item.rs", "new/../src/masters.json", "new/../src/mod.rs"]) :=
  ⟨by decide +kernel, isTree_staleDisk, by decide +kernel, by decide +kernel⟩

end MasterData
