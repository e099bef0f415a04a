-- SUMMARY: The order in which the system enumerates folders does not show in what compiling does.
import MasterData.Proofs.Disk.Same
import MasterData.Proofs.Project.FailedCompile
import MasterData.Proofs.Project.Inspection
import MasterData.Proofs.Workbook.Listing

/-! # Enumeration order

A run enumerates two folders: that of the workbooks, when it looks for them, and that of generated
source, when it prunes. Pruning meets the entries one by one and removes each leftover before it looks
at the next, so it works on a disk that changes under it. That makes no difference: what is marked under
one name does not depend on the files under other names, and files can be removed in any order. Main
statements: `Published.pruneBy_eq` and `enumeration_order_hidden`.
-/

namespace MasterData

/-! ## Pruning entry by entry -/

namespace Published

/-- Removes a file, unless this is only to be told. -/
def discard (mode : WriteMode) (path : String) (d : Disk) : Except ProjectError Unit × Disk :=
  match mode with
  | .check => (.ok (), d)
  | .apply =>
    match d.removeFile path with
    | .ok d => (.ok (), d)
    | .error _ => (.error (.system path), d)

/-- Discards the leftovers among the entries of a folder, each before the next entry is looked at, and
gives their names in the order of the entries. -/
def pruneEntries (mode : WriteMode) (folder : String) (p : Published) :
    List (String × Entry) → Disk → Except ProjectError (List String) × Disk
  | [], d => (.ok [], d)
  | (_, .folder) :: rest, d => pruneEntries mode folder p rest d
  | (name, .file _) :: rest, d =>
    if p.isLeftover folder d name then
      match discard mode (Path.join folder name) d with
      | (.error e, d) => (.error e, d)
      | (.ok (), d) =>
        let (names, d) := pruneEntries mode folder p rest d
        (names.map (name :: ·), d)
    else pruneEntries mode folder p rest d

/-- Prunes a folder, which the system enumerates in some order. -/
def pruneBy (o : Enumeration) (mode : WriteMode) (folder : String) (p : Published) (d : Disk) :
    Except ProjectError (List String) × Disk :=
  if !d.doesExist folder then (.ok [], d)
  else
    match d.listBy o folder with
    | .error _ => (.error (.system folder), d)
    | .ok entries =>
      let (names, d) := p.pruneEntries mode folder entries d
      (names.map fun names =>
        (names.mergeSort fun a b => decide (a ≤ b)).map (Path.join folder), d)

/-- The names of the leftovers among the entries of a folder, in the order of the entries. -/
def foundIn (p : Published) (folder : String) (d : Disk) (entries : List (String × Entry)) :
    List String :=
  entries.filterMap fun (name, e) =>
    match e with
    | .file _ => if p.isLeftover folder d name then some name else none
    | .folder => none

variable {folder : String} {p : Published} {d d' : Disk} {f : Location}
  {entries : List (String × Entry)}

theorem mem_foundIn {name : String} :
    name ∈ p.foundIn folder d entries
      ↔ p.isLeftover folder d name ∧ ∃ content, (name, .file content) ∈ entries := by
  rw [← Disk.mem_selectFiles, Disk.selectFiles, List.mem_mergeSort]
  rfl

theorem nodup_foundIn (h : (entries.map (·.1)).Nodup) : (p.foundIn folder d entries).Nodup := by
  have hsorted := Disk.pairwise_selectFiles (p.isLeftover folder d) h
  exact (List.mergeSort_perm ..).nodup_iff.1 (hsorted.imp fun hlt => String.ne_of_lt hlt)

theorem hasMarked_of_mem_foundIn (hslash : ∀ name c, (name, .file c) ∈ entries → '/' ∉ name.toList)
    {name : String} (h : name ∈ p.foundIn folder d entries) : d.HasMarked folder name := by
  obtain ⟨hleft, c, hmem⟩ := mem_foundIn.1 h
  exact ((isLeftover_iff (hslash name c hmem)).1 hleft).1

/-- Removing one name does not change which of the others are leftovers. -/
theorem isLeftover_of_removeFile {name other : String} (hf : d.find folder = .ok (f, .folder))
    (hname : Path.IsName name) (hother : '/' ∉ other.toList) (hne : other ≠ name)
    (h : d.removeFile (Path.join folder name) = .ok d') :
    p.isLeftover folder d' other = p.isLeftover folder d other := by
  have hremoved : removeFiles ([name].map (Path.join folder)) d = (.ok (), d') := by
    rw [List.map_singleton, removeFiles_cons, h]
    rfl
  have hmarked := hasMarked_iff_of_removeFiles (List.forall_mem_singleton.2 hname) hf hremoved other
  rw [Bool.eq_iff_iff, isLeftover_iff hother, isLeftover_iff hother, hmarked]
  simp [hne]

/-- Removing a file does not change what is found among entries with other names. -/
theorem foundIn_of_removeFile {name : String} (hf : d.find folder = .ok (f, .folder))
    (hname : Path.IsName name) (hother : name ∉ entries.map (·.1))
    (hslash : ∀ other c, (other, .file c) ∈ entries → '/' ∉ other.toList)
    (h : d.removeFile (Path.join folder name) = .ok d') :
    p.foundIn folder d' entries = p.foundIn folder d entries := by
  refine List.filterMap_congr fun entry hentry => ?_
  obtain ⟨other, _ | c⟩ := entry
  · rfl
  · have hne : other ≠ name := by
      rintro rfl
      exact hother (List.mem_map.2 ⟨_, hentry, rfl⟩)
    simp only [isLeftover_of_removeFile hf hname (hslash other c hentry) hne h]

theorem pruneEntries_check (folder : String) (p : Published) (entries : List (String × Entry))
    (d : Disk) : p.pruneEntries .check folder entries d = (.ok (p.foundIn folder d entries), d) := by
  induction entries with
  | nil => rfl
  | cons entry rest ih =>
    obtain ⟨name, _ | content⟩ := entry
    · rw [pruneEntries, ih]
      rfl
    · by_cases hleft : p.isLeftover folder d name
      · simp only [pruneEntries, discard, ih, foundIn, List.filterMap_cons, hleft, if_true, Except.map]
      · simp only [pruneEntries, ih, foundIn, List.filterMap_cons, hleft, Bool.false_eq_true, if_false]

/-- Pruning entry by entry removes what was left over at its start, in the order of the entries. -/
theorem pruneEntries_apply (hf : d.find folder = .ok (f, .folder))
    (hnodup : (entries.map (·.1)).Nodup)
    (hslash : ∀ name c, (name, .file c) ∈ entries → '/' ∉ name.toList) :
    ∃ d', removeFiles ((p.foundIn folder d entries).map (Path.join folder)) d = (.ok (), d')
      ∧ p.pruneEntries .apply folder entries d = (.ok (p.foundIn folder d entries), d') := by
  induction entries generalizing d with
  | nil => exact ⟨d, rfl, rfl⟩
  | cons entry rest ih =>
    obtain ⟨name, e⟩ := entry
    rw [List.map_cons, List.nodup_cons] at hnodup
    have hrest : ∀ n c, (n, .file c) ∈ rest → '/' ∉ n.toList :=
      fun n c hmem => hslash n c (List.mem_cons_of_mem _ hmem)
    cases e with
    | folder => exact ih hf hnodup.2 hrest
    | file content =>
      have hfirst := hslash name content (List.mem_cons_self ..)
      by_cases hleft : p.isLeftover folder d name
      · obtain ⟨⟨hname, -, text, htext, -⟩, -⟩ := (isLeftover_iff hfirst).1 hleft
        obtain ⟨d₁, hremoved⟩ := Disk.exists_removeFile htext
        have hkeeps : Disk.Keeps (Disk.IsPlace folder [name]) d d₁ :=
          Disk.keeps_removeFile hremoved fun l hl => ⟨name, List.mem_singleton_self _, hl⟩
        have hfound := foundIn_of_removeFile (p := p) hf hname hnodup.1 hrest hremoved
        obtain ⟨d₂, hremovedRest, hpruned⟩ := ih (hkeeps.find hf) hnodup.2 hrest
        rw [hfound] at hremovedRest hpruned
        have hcons : p.foundIn folder d ((name, .file content) :: rest)
            = name :: p.foundIn folder d rest := by
          simp only [foundIn, List.filterMap_cons, hleft, if_true]
        refine ⟨d₂, ?_, ?_⟩
        · rw [hcons, List.map_cons, removeFiles_cons, hremoved]
          exact hremovedRest
        · rw [hcons, pruneEntries, if_pos hleft]
          simp only [discard, hremoved, hpruned, Except.map]
      · have hcons : p.foundIn folder d ((name, .file content) :: rest)
            = p.foundIn folder d rest := by
          simp only [foundIn, List.filterMap_cons, hleft, Bool.false_eq_true, if_false]
        rw [hcons, pruneEntries, if_neg hleft]
        exact ih hf hnodup.2 hrest

/-! ## Removing in any order -/

/-- What is left behind a removal does not show the order of the names. -/
theorem eq_keep_of_removeFiles {names : List String} (hf : d.find folder = .ok (f, .folder))
    (hnames : ∀ n ∈ names, Path.IsName n)
    (h : removeFiles (names.map (Path.join folder)) d = (.ok (), d')) :
    d' = d.keep fun l => decide (∀ n ∈ names, l ≠ f.push n) := by
  induction names generalizing d with
  | nil =>
    cases h
    exact Disk.ext (by simp [Disk.keep])
  | cons name rest ih =>
    rw [List.forall_mem_cons] at hnames
    rw [List.map_cons, removeFiles_cons] at h
    split at h
    · rename_i d₁ hremoved
      have hkeeps : Disk.Keeps (Disk.IsPlace folder [name]) d d₁ :=
        Disk.keeps_removeFile hremoved fun l hl => ⟨name, List.mem_singleton_self _, hl⟩
      rw [ih (hkeeps.find hf) hnames.2 h]
      obtain ⟨l, c, hl, -, rfl⟩ := Disk.exists_of_removeFile hremoved
      have hplace := Disk.destination_join_of_find hnames.1 hf
      obtain rfl := Option.some.inj ((Disk.destination_of_locate hl).symm.trans hplace)
      refine Disk.ext ?_
      simp only [Disk.keep, List.filter_filter, List.forall_mem_cons, Bool.decide_and,
        Bool.and_comm]
    · cases h

/-- Files that can be read are removed in any order, with the same outcome. -/
theorem removeFiles_perm {names names' : List String} (hperm : names.Perm names')
    (hf : d.find folder = .ok (f, .folder)) (hnodup : names.Nodup)
    (hmarked : ∀ n ∈ names, d.HasMarked folder n) :
    removeFiles (names.map (Path.join folder)) d = removeFiles (names'.map (Path.join folder)) d := by
  have hnames : ∀ n ∈ names, Path.IsName n := fun n hn => (hmarked n hn).1
  have hread : ∀ n ∈ names, ∃ text, d.readText (Path.join folder n) = .ok text := by
    intro n hn
    obtain ⟨-, -, text, htext, -⟩ := hmarked n hn
    exact ⟨text, htext⟩
  have hnames' : ∀ n ∈ names', Path.IsName n := fun n hn => hnames n (hperm.mem_iff.2 hn)
  obtain ⟨d₁, h₁⟩ := exists_removeFiles hnodup hnames hread
  obtain ⟨d₂, h₂⟩ := exists_removeFiles (hperm.nodup_iff.1 hnodup) hnames'
    fun n hn => hread n (hperm.mem_iff.2 hn)
  rw [h₁, h₂, eq_keep_of_removeFiles hf hnames h₁, eq_keep_of_removeFiles hf hnames' h₂]
  simp only [hperm.mem_iff]

/-- The order of enumeration does not show in what pruning gives and leaves. -/
theorem pruneBy_eq (hd : d.HasNamedFiles folder) (o : Enumeration) (mode : WriteMode)
    (p : Published) : p.pruneBy o mode folder d = p.prune mode folder d := by
  unfold pruneBy prune leftovers
  by_cases hexists : d.doesExist folder
  · simp only [hexists, Bool.not_true, Bool.false_eq_true, if_false]
    rw [Disk.listBy]
    cases hlist : d.list folder with
    | error e => rfl
    | ok entries =>
      obtain ⟨f, hf, hnodup, hfiles⟩ := Disk.exists_of_list hlist
      have hslash : ∀ name c, (name, .file c) ∈ entries → '/' ∉ name.toList := fun name c hmem =>
        hd f name c (Disk.destination_of_find hf) ((hfiles name c).1 hmem)
      -- The enumerated entries are the listed ones in another order, which sorting takes away.
      have hperm := o.perm d folder entries
      have hnodup' := (hperm.map (·.1)).nodup_iff.2 hnodup
      have hslash' : ∀ name c, (name, .file c) ∈ o.order d folder entries → '/' ∉ name.toList :=
        fun name c hmem => hslash name c (hperm.mem_iff.1 hmem)
      have hsorted : ((p.foundIn folder d (o.order d folder entries)).mergeSort
          fun a b => decide (a ≤ b)) = p.leftoverNames folder d entries :=
        o.selectFiles_order (p.isLeftover folder d) hlist
      cases mode with
      | check =>
        simp only [Except.map, pruneEntries_check, hsorted]
      | apply =>
        obtain ⟨d', hremoved, hpruned⟩ := pruneEntries_apply (p := p) hf hnodup' hslash'
        have hfound : (p.foundIn folder d (o.order d folder entries)).Nodup := nodup_foundIn hnodup'
        have hany := removeFiles_perm (List.mergeSort_perm _ fun a b => decide (a ≤ b)).symm hf
          hfound fun n hn => hasMarked_of_mem_foundIn hslash' hn
        rw [hsorted, hremoved] at hany
        simp only [Except.map, hpruned, hsorted, ← hany]
  · simp only [hexists, Bool.not_false, if_true]
    cases mode <;> rfl

end Published

/-! ## Compiling -/

/-- Publishes what a finished survey found, and prunes the folder as the system enumerates it. -/
def publishAllBy (o : Enumeration) (c : Config) (mode : WriteMode) (masters : List CompiledMaster)
    (p : Published) (d : Disk) : Except ProjectError CompileReport × Disk :=
  let folder := c.generatedFolder
  let manifest := Manifest.ofSchemas (masters.map (·.schema))
  let names := manifest.masterNames
  let files := [(Manifest.fileName, manifest.render), (aggregateFileName, aggregateSource c names)]
  match Published.addAll mode folder files p d with
  | (.error e, d) => (.error e, d)
  | (.ok p, d) =>
    match p.pruneBy o mode folder d with
    | (.error e, d) => (.error e, d)
    | (.ok pruned, d) => (CompileReport.finish mode ⟨names, p.changed, p.unchanged, pruned⟩, d)

/-- Compiles a project on a system that enumerates folders in some order. -/
def compileBy (o : Enumeration) (c : Config) (mode : WriteMode) (d : Disk) :
    Except ProjectError CompileReport × Disk :=
  match Workbook.listInBy o d c.workbooksFolder with
  | .error e => (.error (.discovery c.workbooksFolder e), d)
  | .ok paths =>
    let (outcome, survey) := Survey.ofWorkbooks c d paths
    let modules := survey.masters.map fun m => (m.fileName, m.source)
    match Published.addAll mode c.generatedFolder modules .empty d, outcome with
    | (.error e, d), _ => (.error e, d)
    | (.ok _, d), .error e => (.error e, d)
    | (.ok p, d), .ok () => publishAllBy o c mode survey.masters p d

section Compile

variable {c : Config} {d d' : Disk}

theorem publishAllBy_eq (hd : d.HasNamedFiles c.generatedFolder) (o : Enumeration)
    (mode : WriteMode) (masters : List CompiledMaster) (p : Published) :
    publishAllBy o c mode masters p d = publishAll c mode masters p d := by
  unfold publishAllBy publishAll
  simp only
  generalize hfiles : [(Manifest.fileName, (Manifest.ofSchemas (masters.map (·.schema))).render),
      (aggregateFileName,
        aggregateSource c (Manifest.ofSchemas (masters.map (·.schema))).masterNames)] = files
  have hnames : ∀ n ∈ files.map (·.1), Path.IsName n := by
    subst hfiles
    simp [isName_manifest, isName_aggregateFileName]
  have hnamed := hd.of_keeps_isPlace hnames
    (Published.keeps_addAll_isPlace mode c.generatedFolder files p d)
  rcases hadded : Published.addAll mode c.generatedFolder files p d with ⟨e | p', d₁⟩
  · rfl
  · rw [hadded] at hnamed
    dsimp only
    rewrite [Published.pruneBy_eq hnamed]
    rfl

/-- The order of enumeration does not show in a compilation. -/
theorem compileBy_eq (hd : d.HasNamedFiles c.generatedFolder) (o : Enumeration) (mode : WriteMode) :
    compileBy o c mode d = compile c mode d := by
  unfold compileBy compile
  rw [Workbook.listInBy_eq]
  cases Workbook.listIn d c.workbooksFolder with
  | error e => rfl
  | ok paths =>
    rcases hsurvey : Survey.ofWorkbooks c d paths with ⟨outcome, survey⟩
    simp only [hsurvey]
    generalize hmodules : survey.masters.map (fun m => (m.fileName, m.source)) = modules
    have hnames : ∀ n ∈ modules.map (·.1), Path.IsName n := by
      subst hmodules
      simp only [List.map_map, List.forall_mem_map]
      exact fun m _ => isName_moduleFile m.schema.masterName
    have hnamed := hd.of_keeps_isPlace hnames
      (Published.keeps_addAll_isPlace mode c.generatedFolder modules .empty d)
    rcases hadded : Published.addAll mode c.generatedFolder modules .empty d with ⟨e | p, d₁⟩
    · rfl
    · rw [hadded] at hnamed
      cases outcome with
      | error e => rfl
      | ok u => exact publishAllBy_eq hnamed o mode survey.masters p

end Compile

/-! ## Runs on the same files -/

namespace Disk.Same

variable {d d' : Disk}

theorem listIn (h : d.Same d') (folder : String) :
    Workbook.listIn d' folder = Workbook.listIn d folder := by
  unfold Workbook.listIn
  rcases h.selectFiles (p := Workbook.isWorkbookName) (fun _ => rfl) folder with
    ⟨e, he, he'⟩ | ⟨entries, entries', hlist, hlist', hselected⟩
  · rw [he, he']
  · have hnames : Workbook.workbookNames entries' = Workbook.workbookNames entries := hselected
    simp only [hlist, hlist', hnames]

theorem scanWorkbooks (h : d.Same d') {σ : Type}
    (visit : ScanHit → σ → Except ProjectError Unit × σ) (paths : List String) (state : σ) :
    MasterData.scanWorkbooks d' visit paths state = MasterData.scanWorkbooks d visit paths state := by
  induction paths generalizing state with
  | nil => rfl
  | cons path rest ih =>
    unfold MasterData.scanWorkbooks
    rw [Workbook.openAt_congr (h.read path)]
    simp only [ih]

theorem writeText (h : d.Same d') (path text : String) :
    Agree (Published.writeText d path text) (Published.writeText d' path text) := by
  unfold Published.writeText
  simp only
  obtain ⟨result, d₁, d₁', hmade, hmade', h₁⟩ :=
    (h.makeFolders ((Path.parent? path).getD "")).cases
  rw [hmade, hmade']
  cases result with
  | error e => exact ⟨rfl, h₁⟩
  | ok u =>
    rcases h₁.write path (.text text) with ⟨e, he, he'⟩ | ⟨d₂, d₂', hd, hd', h₂⟩
    · simp only [he, he']
      exact ⟨rfl, h₁⟩
    · simp only [hd, hd']
      exact ⟨rfl, h₂⟩

theorem add (h : d.Same d') (mode : WriteMode) (folder name text : String) (p : Published) :
    Agree (p.add mode folder name text d) (p.add mode folder name text d') := by
  unfold Published.add
  simp only [h.readText]
  split
  · exact ⟨rfl, h⟩
  · cases mode with
    | check => exact ⟨rfl, h⟩
    | apply =>
      obtain ⟨result, d₁, d₁', hrun, hrun', h₁⟩ := (h.writeText (Path.join folder name) text).cases
      simp only [hrun, hrun']
      cases result <;> exact ⟨rfl, h₁⟩

theorem addAll (h : d.Same d') (mode : WriteMode) (folder : String)
    (files : List (String × String)) (p : Published) :
    Agree (Published.addAll mode folder files p d) (Published.addAll mode folder files p d') := by
  induction files generalizing p d d' with
  | nil => exact ⟨rfl, h⟩
  | cons file rest ih =>
    rw [Published.addAll_cons, Published.addAll_cons]
    obtain ⟨result, d₁, d₁', hrun, hrun', h₁⟩ := (h.add mode folder file.1 file.2 p).cases
    rw [hrun, hrun']
    cases result with
    | error e => exact ⟨rfl, h₁⟩
    | ok p => exact ih h₁ p

theorem removeFiles (h : d.Same d') (paths : List String) :
    Agree (Published.removeFiles paths d) (Published.removeFiles paths d') := by
  induction paths generalizing d d' with
  | nil => exact ⟨rfl, h⟩
  | cons path rest ih =>
    rw [Published.removeFiles_cons, Published.removeFiles_cons]
    rcases h.removeFile path with ⟨e, he, he'⟩ | ⟨d₁, d₁', hd, hd', h₁⟩
    · rw [he, he']
      exact ⟨rfl, h⟩
    · rw [hd, hd']
      exact ih h₁

theorem leftovers (h : d.Same d') (p : Published) (folder : String) :
    p.leftovers folder d' = p.leftovers folder d := by
  have htests : ∀ name, p.isLeftover folder d' name = p.isLeftover folder d name := fun name => by
    simp only [Published.isLeftover, h.readText]
  unfold Published.leftovers
  rw [h.doesExist]
  rcases h.selectFiles htests folder with
    ⟨e, he, he'⟩ | ⟨entries, entries', hlist, hlist', hselected⟩
  · rw [he, he']
  · have hnames : p.leftoverNames folder d' entries' = p.leftoverNames folder d entries := hselected
    simp only [hlist, hlist', hnames]

theorem prune (h : d.Same d') (mode : WriteMode) (folder : String) (p : Published) :
    Agree (p.prune mode folder d) (p.prune mode folder d') := by
  unfold Published.prune
  rw [h.leftovers]
  cases p.leftovers folder d with
  | error e => exact ⟨rfl, h⟩
  | ok paths =>
    cases mode with
    | check => exact ⟨rfl, h⟩
    | apply =>
      obtain ⟨result, d₁, d₁', hrun, hrun', h₁⟩ := (h.removeFiles paths).cases
      simp only [hrun, hrun']
      cases result <;> exact ⟨rfl, h₁⟩

theorem publishAll (h : d.Same d') (c : Config) (mode : WriteMode) (masters : List CompiledMaster)
    (p : Published) :
    Agree (MasterData.publishAll c mode masters p d) (MasterData.publishAll c mode masters p d') := by
  unfold MasterData.publishAll
  simp only
  obtain ⟨result, d₁, d₁', hadded, hadded', h₁⟩ := (h.addAll mode c.generatedFolder
    [(Manifest.fileName, (Manifest.ofSchemas (masters.map (·.schema))).render),
      (aggregateFileName, aggregateSource c (Manifest.ofSchemas (masters.map (·.schema))).masterNames)]
    p).cases
  rw [hadded, hadded']
  cases result with
  | error e => exact ⟨rfl, h₁⟩
  | ok p =>
    obtain ⟨result, d₂, d₂', hpruned, hpruned', h₂⟩ := (h₁.prune mode c.generatedFolder p).cases
    simp only [hpruned, hpruned']
    cases result <;> exact ⟨rfl, h₂⟩

/-- A run on the same files gives the same result and leaves the same files. -/
theorem compile (h : d.Same d') (c : Config) (mode : WriteMode) :
    Agree (MasterData.compile c mode d) (MasterData.compile c mode d') := by
  unfold MasterData.compile
  rw [h.listIn]
  cases Workbook.listIn d c.workbooksFolder with
  | error e => exact ⟨rfl, h⟩
  | ok paths =>
    have hsurveys : Survey.ofWorkbooks c d' paths = Survey.ofWorkbooks c d paths :=
      h.scanWorkbooks _ _ _
    rcases hsurvey : Survey.ofWorkbooks c d paths with ⟨outcome, survey⟩
    simp only [hsurveys, hsurvey]
    obtain ⟨result, d₁, d₁', hadded, hadded', h₁⟩ := (h.addAll mode c.generatedFolder
      (survey.masters.map fun m => (m.fileName, m.source)) .empty).cases
    rw [hadded, hadded']
    cases result with
    | error e => exact ⟨rfl, h₁⟩
    | ok p =>
      cases outcome with
      | error e => exact ⟨rfl, h₁⟩
      | ok u => exact h₁.publishAll c mode survey.masters p

end Disk.Same

/-- The order in which the system enumerates folders does not show. Take one content of the disk, kept in
any two orders, and any two orders of enumeration, which may change while a run changes the disk. Every
folder lists the same workbooks: if it is found, the names of the files directly inside that have no
tilde and end in the extension of a format, each once and in increasing order. And a compilation, in
either mode, gives the same report or failure and leaves the same files; it is the one that enumerates
folders as the disk keeps them. -/
theorem enumeration_order_hidden (c : Config) (mode : WriteMode) {d d' : Disk} (hd : d.WellNamed)
    (hsame : d.Same d') (o o' : Enumeration) :
    (∀ folder, Workbook.listInBy o d folder = Workbook.listInBy o' d' folder
        ∧ ∀ f, d.find folder = .ok (f, .folder) →
          ∃ names : List String, Workbook.listInBy o d folder = .ok (names.map (Path.join folder))
            ∧ names.Pairwise (· < ·)
            ∧ ∀ name, name ∈ names
              ↔ (∃ content, d.entry? (f.push name) = some (.file content))
                ∧ Workbook.IsWorkbookName name)
      ∧ Disk.Agree (compileBy o c mode d) (compileBy o' c mode d')
      ∧ compileBy o c mode d = compile c mode d := by
  have hnamed := hd.hasNamedFiles c.generatedFolder
  have hnamed' : d'.HasNamedFiles c.generatedFolder := fun f name content hf hentry =>
    hnamed f name content hf ((hsame _).symm.trans hentry)
  refine ⟨fun folder => ⟨?_, fun f hf => ?_⟩, ?_, compileBy_eq hnamed o mode⟩
  · rw [Workbook.listInBy_eq, Workbook.listInBy_eq, hsame.listIn]
  · rw [Workbook.listInBy_eq]
    exact Workbook.exists_names_of_find (hd.hasNamedFiles folder) hf
  · rw [compileBy_eq hnamed, compileBy_eq hnamed']
    exact hsame.compile c mode

theorem enumeration_order_hidden_shelf :
    shelfDisk.WellNamed ∧ shelfDisk.Same shelfDisk.turned
      ∧ (∃ names : List String,
        Workbook.listInBy .backwards shelfDisk "data" = .ok (names.map (Path.join "data"))
          ∧ Workbook.listInBy .forwards shelfDisk.turned "data" = .ok (names.map (Path.join "data"))
          ∧ names.Pairwise (· < ·) ∧ "a.xlsx" ∈ names ∧ "b.xlsx" ∈ names)
      ∧ Disk.Agree (compileBy .backwards .small .apply shelfDisk)
        (compileBy .forwards .small .apply shelfDisk.turned) := by
  have hd : shelfDisk.WellNamed := by
    simp only [Disk.WellNamed, shelfDisk, List.forall_mem_cons]
    decide
  have hsame : shelfDisk.Same shelfDisk.turned := Disk.same_of_perm (List.reverse_perm _).symm
  obtain ⟨hlisted, hagree, -⟩ :=
    enumeration_order_hidden .small .apply hd hsame .backwards .forwards
  have hfind : shelfDisk.find "data" = .ok (#["data"], .folder) := by decide +kernel
  obtain ⟨names, hnames, hsorted, hmem⟩ := (hlisted "data").2 _ hfind
  have ha : Workbook.IsWorkbookName "a.xlsx" :=
    (Workbook.isWorkbookName_iff (by decide)).1 (by decide +kernel)
  have hb : Workbook.IsWorkbookName "b.xlsx" :=
    (Workbook.isWorkbookName_iff (by decide)).1 (by decide +kernel)
  have hfileA : shelfDisk.entry? #["data", "a.xlsx"] = some (.file (.spreadsheet shopsBook)) := by
    decide +kernel
  have hfileB : shelfDisk.entry? #["data", "b.xlsx"] = some (.file (.spreadsheet itemsBook)) := by
    decide +kernel
  refine ⟨hd, hsame, ⟨names, hnames, (hlisted "data").1 ▸ hnames, hsorted, ?_, ?_⟩, hagree⟩
  · exact (hmem _).2 ⟨⟨_, hfileA⟩, ha⟩
  · exact (hmem _).2 ⟨⟨_, hfileB⟩, hb⟩

end MasterData
