-- SUMMARY: Compiling removes exactly the generated files that no master makes any more.
import MasterData.Proofs.Project.OneByOne
import MasterData.Proofs.Project.Outputs

/-! # Pruning

Once compiling succeeded, the marked files in the folder of generated source are the aggregate and the
modules of the compiled masters. What it removed are the marked files that were there before and that
it did not publish; no other file is touched, in the folder or elsewhere. Main statement:
`compile_prunes`.
-/

namespace MasterData

/-- The name of a file in a folder that holds generated source, whether or not the folder can be
found. -/
def Disk.HoldsMarked (d : Disk) (folder name : String) : Prop :=
  Path.IsName name ∧ Path.extensionOf? name = some Published.sourceExtension
    ∧ ∃ text, d.HoldsText (Path.join folder name) text ∧ Code.isGenerated text

namespace Disk

variable {d d' : Disk} {folder name : String} {names : List String} {f : Location}

/-- What is read under a name behind a run that did not touch it was held there before. -/
theorem hasMarked_iff_of_keeps (hd : d.IsTree) (hnames : ∀ n ∈ names, Path.IsName n)
    (h : Keeps (IsPlace folder names) d d') (hf : d'.find folder = .ok (f, .folder))
    (hnot : name ∉ names) : d'.HasMarked folder name ↔ d.HoldsMarked folder name := by
  unfold HasMarked HoldsMarked
  refine and_congr_right fun hname => and_congr_right fun _ => exists_congr fun text =>
    and_congr_left fun _ => ?_
  have hplace := destination_join_of_find hname hf
  have hkept := h.file (c := .text text) (not_isPlace hname hnames hnot hplace)
  rw [readText_join_eq_ok_iff hname hf, hkept, HoldsText, hplace]
  constructor
  · rintro ⟨hpath, -, hentry⟩
    exact ⟨hpath, _, rfl, hentry⟩
  · rintro ⟨hpath, l, hl, hentry⟩
    obtain rfl := Option.some.inj hl
    have hbase : isBase (f.push name) = false :=
      not_isBase_of_entry?_ne (d := d) (by simp [hentry])
    have hlength := (hd.named _ (mem_entries_of_entry hentry hbase) name (Array.back?_push ..)).2
    exact ⟨hpath, hlength, hentry⟩

end Disk

/-! ## Runs -/

/-- Compiling prunes exactly. Once it succeeded, the marked names in the folder of generated source are
those of the aggregate and of the modules of its masters; every file that was there before, holds no
generated source and is not published is as it was; and what was removed are the names, in order, that
held generated source before and are not published. Whatever the names of workbooks, sheets and masters
are, the source of a module and of an aggregate is recognised as generated. -/
theorem compile_prunes {c : Config} (hc : c.IsValid) {d d' : Disk} (hd : d.IsTree)
    {report : CompileReport} (h : compile c .apply d = (.ok report, d')) :
    (∀ name, d'.HasMarked c.generatedFolder name
        ↔ name = aggregateFileName ∨ ∃ master ∈ report.masters, name = moduleFile master)
      ∧ (∀ l content, d.entry? l = some (.file content) →
          (∀ name, Disk.destination (Path.join c.generatedFolder name) = some l →
            name ∉ outputNames report.masters ∧ ¬ d.HoldsMarked c.generatedFolder name) →
          d'.entry? l = some (.file content))
      ∧ (∃ names : List String, report.pruned = names.map (Path.join c.generatedFolder)
          ∧ names.Pairwise (· < ·)
          ∧ ∀ name, name ∈ names
            ↔ d.HoldsMarked c.generatedFolder name ∧ name ∉ outputNames report.masters)
      ∧ (∀ (options : CodeOptions) (s : MasterSchema) (source : String),
          s.source? options = some source → Code.isGenerated source)
      ∧ ∀ m : AggregateModule, Code.isGenerated m.render := by
  obtain ⟨paths, survey, middle, f, removed, -, -, hsound, hmasters, hpruned, hrun⟩ :=
    exists_isRun_of_compile hc (hd.hasNamedFiles _) h
  have hfiles := c.names_outputs survey.masters
  rw [← hmasters] at hfiles
  have hkeeps := hrun.keeps
  have hmem := hrun.mem_removed
  have hafter := hrun.hasMarked_iff
  rw [← hmasters] at hkeeps hmem hafter
  have hnames : ∀ n ∈ outputNames report.masters, Path.IsName n :=
    fun n => isName_of_mem_outputNames
  have hbefore {name : String} (hnot : name ∉ outputNames report.masters) :=
    Disk.hasMarked_iff_of_keeps hd hnames hkeeps hrun.find hnot
  refine ⟨fun name => ?_, fun l content hl hother => ?_,
    ⟨removed, hpruned, hrun.sorted, fun name => ?_⟩,
    fun _ _ _ => isGenerated_of_source?, isGenerated_render_aggregate⟩
  · -- Every source that the run published is marked.
    rw [hafter]
    constructor
    · rintro ⟨hmarked, houtput⟩
      exact (mem_outputNames hmarked.2.1).1 houtput
    · intro houtput
      have hextension : Path.extensionOf? name = some Published.sourceExtension := by
        rcases houtput with rfl | ⟨master, -, rfl⟩
        · exact extensionOf?_aggregateFileName
        · exact extensionOf?_moduleFile master
      have hname := (mem_outputNames hextension).2 houtput
      obtain ⟨file, hfile, rfl⟩ := List.mem_map.1 (hfiles ▸ hname)
      have hmark := Config.isGenerated_of_mem_outputs hsound hfile hextension
      exact ⟨⟨hnames _ hname, hextension, _, hrun.readText file hfile, hmark⟩, hname⟩
  · have hplace : ¬ Disk.IsPlace c.generatedFolder (outputNames report.masters) l := by
      rintro ⟨name, hname, hl'⟩
      exact (hother name hl').1 hname
    have hremain : ¬ Disk.IsPlace c.generatedFolder removed l := by
      rintro ⟨name, hname, hl'⟩
      obtain ⟨hmarked, hnot⟩ := (hmem name).1 hname
      exact (hother name hl').2 ((hbefore hnot).1 hmarked)
    exact ((Published.keeps_removeFiles_isPlace hrun.removeFiles).file hremain).2
      ((hkeeps.file hplace).2 hl)
  · rw [hmem]
    exact and_congr_left hbefore

theorem compile_prunes_stale :
    ∃ d', compile .small .apply staleDisk
        = (.ok ⟨["Item"], ["src/item.rs", "src/masters.json", "src/mod.rs"], 0, ["src/old.rs"]⟩, d')
      ∧ (∀ name, d'.HasMarked "src" name ↔ name = "mod.rs" ∨ name = "item.rs")
      ∧ d'.entry? #["src", "util.rs"] = some (.file (.text "// Written by hand.\n")) := by
  have hc : Config.small.IsValid := by decide +kernel
  have hcompile : compile .small .apply staleDisk
      = (.ok ⟨["Item"], ["src/item.rs", "src/masters.json", "src/mod.rs"], 0, ["src/old.rs"]⟩,
          (compile .small .apply staleDisk).2) :=
    eq_mk_of_fst_eq (by decide +kernel)
  obtain ⟨hmarked, hkept, -⟩ := compile_prunes hc isTree_staleDisk hcompile
  have hfolder : Config.small.generatedFolder = "src" := by decide +kernel
  have hmodule : moduleFile "Item" = "item.rs" := by decide +kernel
  have haggregate : aggregateFileName = "mod.rs" := by decide +kernel
  rw [hfolder] at hmarked hkept
  have hentry : staleDisk.entry? #["src", "util.rs"]
      = some (.file (.text "// Written by hand.\n")) := by decide +kernel
  refine ⟨_, hcompile, fun name => ?_, hkept _ _ hentry fun name hname => ?_⟩
  · simpa [hmodule, haggregate] using hmarked name
  · constructor
    · -- The only published name at that place would be its own.
      intro houtput
      have hsource : Disk.destination "src" = some #["src"] := by decide +kernel
      rw [Disk.destination_join _ (isName_of_mem_outputNames houtput), hsource] at hname
      obtain rfl : name = "util.rs" := by simpa using hname
      exact absurd houtput (by decide +kernel)
    · rintro ⟨-, -, text, ⟨-, l, hl, htext⟩, hmark⟩
      obtain rfl := Option.some.inj (hl.symm.trans hname)
      obtain rfl : "// Written by hand.\n" = text := by simpa [hentry] using htext
      exact absurd hmark (by decide +kernel)

end MasterData
