-- SUMMARY: What a compilation that succeeds leaves on the disk.
import MasterData.Project.Compile
import MasterData.Proofs.Project.ManifestText
import MasterData.Proofs.Project.Survey

/-! # The disk after compiling

Compiling touches no file but generated source, which is told by its ending, and the manifest. Once it
succeeded, the manifest on the disk is read as the schemas of the masters that it reports. Main
statement: `compile_eq_ok`.
-/

namespace MasterData

/-! ## Generated source -/

/-- The ending of the files of generated source. -/
def sourceEnding : List Char := ".rs".toList

/-- The path of the manifest of a project. -/
def Config.manifestPath (c : Config) : String := Path.join c.generatedFolder Manifest.fileName

/-- The location of a file that compiling writes or removes. -/
def Config.IsGenerated (c : Config) (l : Location) : Prop :=
  Disk.EndsWith sourceEnding l ∨ Disk.destination c.manifestPath = some l

theorem Path.suffix_join (folder name : String) : name.toList <:+ (join folder name).toList := by
  unfold join
  split
  · exact List.suffix_rfl
  · split
    · simp [String.toList_append]
    · exact ⟨folder.toList ++ ['/'], by simp [String.toList_append]⟩

theorem endsWith_of_suffix {folder name : String} (h : sourceEnding <:+ name.toList) {l : Location}
    (hl : Disk.destination (Path.join folder name) = some l) : Disk.EndsWith sourceEnding l :=
  Disk.endsWith_destination (h.trans (Path.suffix_join folder name)) (by decide) (by decide) hl

theorem suffix_sourceFileName (moduleName : String) :
    sourceEnding <:+ (sourceFileName moduleName).toList :=
  ⟨moduleName.toList, by simp [sourceFileName, sourceEnding, String.toList_append]⟩

/-- A name with the extension of generated source has its ending. -/
theorem suffix_of_extensionOf? {name : String}
    (h : Path.extensionOf? name = some Published.sourceExtension) :
    sourceEnding <:+ name.toList := by
  obtain ⟨stem, -, rfl, -⟩ := Path.extensionOf?_eq_some_iff.1 h
  exact ⟨stem.toList, by simp [sourceEnding, String.toList_append, Published.sourceExtension]⟩

/-! ## Publishing -/

namespace Published

variable {S : Location → Prop}

theorem keeps_writeText (d : Disk) {path : String} (text : String)
    (hpath : ∀ l, Disk.destination path = some l → S l) :
    Disk.Keeps S d (writeText d path text).2 := by
  have hmade := Disk.keeps_makeFolders (S := S) d ((Path.parent? path).getD "")
  unfold writeText
  simp only
  split
  · rename_i heq
    exact hmade.of_eq heq
  · rename_i heq
    rw [heq] at hmade
    split
    · rename_i hwrite
      exact hmade.trans (Disk.keeps_write hwrite hpath)
    · exact hmade

theorem readText_of_writeText {d d' : Disk} {path text : String}
    (h : writeText d path text = (.ok (), d')) : d'.readText path = .ok text := by
  unfold writeText at h
  simp only at h
  split at h
  · cases h
  · split at h
    · rename_i hwrite
      cases h
      exact Disk.readText_of_read (Disk.read_of_write hwrite)
    · cases h

theorem keeps_add (mode : WriteMode) (folder name text : String) (p : Published) (d : Disk)
    (hpath : ∀ l, Disk.destination (Path.join folder name) = some l → S l) :
    Disk.Keeps S d (p.add mode folder name text d).2 := by
  unfold add
  simp only
  split
  · exact .refl d
  · cases mode with
    | check => exact .refl d
    | apply =>
      have hwritten := keeps_writeText d text hpath
      simp only
      split
      · rename_i heq
        exact hwritten.of_eq heq
      · rename_i heq
        exact hwritten.of_eq heq

/-- What is published can be read. -/
theorem readText_of_add {folder name text : String} {p p' : Published} {d d' : Disk}
    (h : p.add .apply folder name text d = (.ok p', d')) :
    d'.readText (Path.join folder name) = .ok text := by
  unfold add at h
  simp only at h
  split at h
  · rename_i hthere
    cases h
    cases hread : d.readText (Path.join folder name) with
    | error e => simp [hread, Except.toOption] at hthere
    | ok text' => simp_all [Except.toOption]
  · split at h
    · rename_i hwritten
      cases h
      exact readText_of_writeText hwritten
    · cases h

theorem addAll_cons (mode : WriteMode) (folder : String) (file : String × String)
    (rest : List (String × String)) (p : Published) (d : Disk) :
    addAll mode folder (file :: rest) p d
      = match p.add mode folder file.1 file.2 d with
        | (.ok p, d) => addAll mode folder rest p d
        | (.error e, d) => (.error e, d) :=
  (rfl)

theorem keeps_addAll (mode : WriteMode) (folder : String) (files : List (String × String))
    (hpaths : ∀ file ∈ files, ∀ l, Disk.destination (Path.join folder file.1) = some l → S l)
    (p : Published) (d : Disk) : Disk.Keeps S d (addAll mode folder files p d).2 := by
  induction files generalizing p d with
  | nil => exact .refl d
  | cons file rest ih =>
    have ih := ih fun f hf => hpaths f (List.mem_cons_of_mem _ hf)
    have hfirst := keeps_add mode folder file.1 file.2 p d (hpaths file (List.mem_cons_self ..))
    rw [addAll_cons]
    split
    · rename_i heq
      rw [heq] at hfirst
      exact hfirst.trans (ih _ _)
    · rename_i heq
      exact hfirst.of_eq heq

theorem endsWith_of_mem_leftovers {p : Published} {folder path : String} {d : Disk}
    {paths : List String} (h : p.leftovers folder d = .ok paths) (hpath : path ∈ paths)
    {l : Location} (hl : Disk.destination path = some l) : Disk.EndsWith sourceEnding l := by
  unfold leftovers at h
  split at h
  · cases h
    cases hpath
  · split at h
    · cases h
    · rw [Except.ok.injEq] at h
      subst h
      obtain ⟨name, hname, rfl⟩ := List.mem_map.1 hpath
      rw [leftoverNames, List.mem_mergeSort] at hname
      obtain ⟨⟨name', e⟩, -, hname⟩ := List.mem_filterMap.1 hname
      simp only at hname
      split at hname
      · split at hname
        · rename_i hleft
          rw [Option.some.injEq] at hname
          subst hname
          simp only [isLeftover, Bool.and_eq_true, decide_eq_true_eq] at hleft
          exact endsWith_of_suffix (suffix_of_extensionOf? hleft.1.1) hl
        · cases hname
      · cases hname

theorem removeFiles_cons (path : String) (rest : List String) (d : Disk) :
    removeFiles (path :: rest) d
      = match d.removeFile path with
        | .ok d => removeFiles rest d
        | .error _ => (.error (.system path), d) :=
  (rfl)

theorem keeps_removeFiles {paths : List String}
    (hpaths : ∀ path ∈ paths, ∀ l, Disk.destination path = some l → S l) {d : Disk} :
    Disk.Keeps S d (removeFiles paths d).2 := by
  induction paths generalizing d with
  | nil => exact .refl d
  | cons path rest ih =>
    rw [removeFiles_cons]
    split
    · rename_i hremoved
      exact (Disk.keeps_removeFile hremoved (hpaths path (List.mem_cons_self ..))).trans
        (ih fun p hp => hpaths p (List.mem_cons_of_mem _ hp))
    · exact .refl d

theorem keeps_prune (mode : WriteMode) (folder : String) (p : Published) (d : Disk) :
    Disk.Keeps (Disk.EndsWith sourceEnding) d (p.prune mode folder d).2 := by
  unfold prune
  split
  · exact .refl d
  · exact .refl d
  · rename_i paths hpaths
    have hremoved := keeps_removeFiles (S := Disk.EndsWith sourceEnding) (d := d)
      fun path hpath l hl => endsWith_of_mem_leftovers hpaths hpath hl
    split
    · rename_i heq
      exact hremoved.of_eq heq
    · rename_i heq
      exact hremoved.of_eq heq

end Published

/-! ## Compiling -/

/-- The schemas that the workbooks on a disk declare, in the order of the survey. -/
def declaredSchemas (c : Config) (d : Disk) : List MasterSchema :=
  match Workbook.listIn d c.workbooksFolder with
  | .error _ => []
  | .ok paths => (Survey.ofWorkbooks c d paths).2.masters.map (·.schema)

/-- The schemas are those of a finished survey of the workbooks on a disk. -/
structure IsCompiled (c : Config) (d : Disk) (schemas : List MasterSchema) : Prop where
  exists_paths : ∃ paths, Workbook.listIn d c.workbooksFolder = .ok paths
    ∧ ∀ s ∈ schemas, s.IsDeclaredIn c d paths
  valid : ∀ s ∈ schemas, isValidAssetName s.masterName
  nodup : (schemas.map (·.masterName)).Nodup

theorem Survey.IsSound.isCompiled {c : Config} {d : Disk} {paths : List String} {survey : Survey}
    (h : survey.IsSound c d paths) (hpaths : Workbook.listIn d c.workbooksFolder = .ok paths) :
    IsCompiled c d (survey.masters.map (·.schema)) where
  exists_paths := by
    refine ⟨paths, hpaths, fun s hs => ?_⟩
    obtain ⟨m, hm, rfl⟩ := List.mem_map.1 hs
    exact h.declared m hm
  valid s hs := by
    obtain ⟨m, hm, rfl⟩ := List.mem_map.1 hs
    exact h.valid m hm
  nodup := by
    rw [List.map_map]
    exact h.nodup

theorem isName_manifest : Path.IsName Manifest.fileName where
  no_slash := by decide
  not_idle := by decide
  ne_up := by decide

/-- The manifest is no generated source. -/
theorem Config.not_endsWith_manifest (c : Config) :
    ∀ l, Disk.destination c.manifestPath = some l → ¬ Disk.EndsWith sourceEnding l :=
  fun _ hl => Disk.not_endsWith_of_name isName_manifest (by decide) hl

theorem exists_of_publishAll {c : Config} {masters : List CompiledMaster} {p : Published}
    {d d' : Disk} {report : CompileReport}
    (h : publishAll c .apply masters p d = (.ok report, d')) :
    report.masters = masters.map (·.schema.masterName)
      ∧ d'.readText c.manifestPath = .ok (Manifest.ofSchemas (masters.map (·.schema))).render
      ∧ Disk.Keeps c.IsGenerated d d' := by
  unfold publishAll at h
  simp only [Published.addAll_cons] at h
  have hadd := Published.keeps_add (S := c.IsGenerated) .apply c.generatedFolder Manifest.fileName
    (Manifest.ofSchemas (masters.map (·.schema))).render p d fun l hl => .inr hl
  split at h
  · cases h
  · rename_i p₂ d₂ hfiles
    split at hfiles
    · rename_i p₁ d₁ hmanifest
      rw [hmanifest] at hadd
      -- What comes after the manifest touches only sources, so its text is still there at the end.
      have hread := Published.readText_of_add hmanifest
      have haggregate := Published.keeps_add (S := Disk.EndsWith sourceEnding) .apply
        c.generatedFolder aggregateFileName
        (aggregateSource c (Manifest.ofSchemas (masters.map (·.schema))).masterNames) p₁ d₁
        fun l hl => endsWith_of_suffix (suffix_sourceFileName "mod") hl
      split at hfiles
      · rename_i heq
        rw [heq] at haggregate
        cases hfiles
        have hprune := Published.keeps_prune .apply c.generatedFolder p₂ d₂
        split at h
        · cases h
        · rename_i heq
          rw [heq] at hprune
          cases h
          have hrest := haggregate.trans hprune
          refine ⟨?_, hrest.readText c.not_endsWith_manifest hread, ?_⟩
          · simp [Manifest.masterNames, Manifest.ofSchemas]
          · exact hadd.trans (hrest.mono fun l hl => .inl hl)
      · cases hfiles
    · cases hfiles

/-- A compilation that succeeds leaves the manifest of all masters that the workbooks declare, and
touches nothing but generated files. -/
theorem compile_eq_ok {c : Config} {d d' : Disk} {report : CompileReport}
    (h : compile c .apply d = (.ok report, d')) :
    IsCompiled c d (declaredSchemas c d)
      ∧ report.masters = (declaredSchemas c d).map (·.masterName)
      ∧ d'.readText c.manifestPath = .ok (Manifest.ofSchemas (declaredSchemas c d)).render
      ∧ Disk.Keeps c.IsGenerated d d' := by
  unfold compile at h
  split at h
  · cases h
  · rename_i paths hpaths
    have hsound := Survey.isSound_ofWorkbooks c d paths
    simp only at h
    have hmodules := Published.keeps_addAll (S := c.IsGenerated) .apply c.generatedFolder
      ((Survey.ofWorkbooks c d paths).2.masters.map fun m => (m.fileName, m.source))
      (fun file hfile l hl => by
        obtain ⟨m, -, rfl⟩ := List.mem_map.1 hfile
        exact .inl (endsWith_of_suffix (suffix_sourceFileName _) hl)) .empty d
    split at h
    · cases h
    · cases h
    · rename_i heq _
      rw [heq] at hmodules
      obtain ⟨hmasters, hmanifest, hkeeps⟩ := exists_of_publishAll h
      have hschemas : declaredSchemas c d
          = (Survey.ofWorkbooks c d paths).2.masters.map (·.schema) := by
        unfold declaredSchemas
        rw [hpaths]
      rw [hschemas, hmasters, List.map_map]
      exact ⟨hsound.isCompiled hpaths, rfl, hmanifest, hmodules.trans hkeeps⟩

theorem IsCompiled.ofText_render {c : Config} {d : Disk} {schemas : List MasterSchema}
    (h : IsCompiled c d schemas) (path : String) :
    Manifest.ofText path (Manifest.ofSchemas schemas).render = .ok (Manifest.ofSchemas schemas) := by
  obtain ⟨paths, -, hdeclared⟩ := h.exists_paths
  exact Manifest.ofText_render (fun s hs => (hdeclared s hs).isWellFormed.fields_ne_nil)
    (fun s hs => (hdeclared s hs).isWellFormed.isDeclarable) path

/-- Wherever the text of the manifest is still read, the manifest is loaded. -/
theorem IsCompiled.load_manifest {c : Config} {d d' : Disk} {schemas : List MasterSchema}
    (h : IsCompiled c d schemas)
    (htext : d'.readText c.manifestPath = .ok (Manifest.ofSchemas schemas).render) :
    Manifest.load d' c.generatedFolder = .ok (Manifest.ofSchemas schemas) := by
  unfold Manifest.load
  simp only
  rw [← Config.manifestPath, htext]
  exact h.ofText_render _

end MasterData
