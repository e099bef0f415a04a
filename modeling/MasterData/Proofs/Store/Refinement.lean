-- SUMMARY: A folder store answers like a store in memory.
import MasterData.Proofs.Project.Confinement
import MasterData.Proofs.Record.AssetText
import MasterData.Proofs.Store.TemporaryFile
import MasterData.Store.Memory

/-! # The folder store refines the memory store

A disk represents a store in memory when the files of the assets hold the texts of what is stored there,
and the texts are read back. Loading gives the stored asset then, and saving leads to a disk that
represents the store with the new asset. So calls in any order get the answers that the store in memory
gives, and leave a file for each stored asset and no other. Main statement:
`folder_store_refines_memory`.
-/

namespace MasterData

/-! ## Calls -/

/-- A call to a store. -/
inductive StoreCall where
  | load (master : String)
  | save (a : Asset)

/-- What a store answers. -/
inductive StoreAnswer where
  | loaded (found : Option Asset)
  | saved
  deriving DecidableEq

namespace StoreCall

def master : StoreCall → String
  | load master => master
  | save a => a.master

/-- A call about a name that can name an asset; an asset that is handed over can stand in a file. -/
def IsStorable : StoreCall → Prop
  | load master => isValidAssetName master
  | save a => isValidAssetName a.master ∧ a.IsStorable

/-- The floats that a call hands over. -/
def floats : StoreCall → List Double
  | load _ => []
  | save a => a.floats

/-- Makes some calls, one after the other, and collects the answers. -/
def runAll {σ α : Type} (answer : StoreCall → σ → α × σ) : List StoreCall → σ → List α × σ
  | [], state => ([], state)
  | call :: calls, state =>
    let (first, state) := answer call state
    let (rest, state) := runAll answer calls state
    (first :: rest, state)

end StoreCall

/-- The answer of a store in memory to a call. -/
def MemoryStore.answer : StoreCall → MemoryStore → StoreAnswer × MemoryStore
  | .load master, m => (.loaded (m.load master), m)
  | .save a, m => (.saved, m.save a)

namespace FolderStore

/-- The answer of a store in a folder to a call. -/
def answer (s : FolderStore) : StoreCall → Disk → Except AssetError StoreAnswer × Disk
  | .load master, d => ((s.load d master).map .loaded, d)
  | .save a, d => ((s.save d a).1.map fun () => .saved, (s.save d a).2)

/-! ## Systems without failures -/

variable {s : FolderStore} {d₀ d d' : Disk} {m : MemoryStore} {a : Asset} {master : String}

/-- The system lets a store keep an asset of a master: the folder can be made, its path leaves room, and
once it is there, the place of the file can be reached and is not taken by a folder. -/
def CanHold (s : FolderStore) (d : Disk) (master : String) : Prop :=
  s.root.utf8ByteSize ≤ longestFolderPath ∧ ∃ d₁ l, d.makeFolders s.root = (.ok (), d₁)
    ∧ d₁.locate (s.assetPath master) = .ok l ∧ d₁.entry? l ≠ some .folder

namespace CanHold

theorem exists_save (h : s.CanHold d a.master) (hvalid : isValidAssetName a.master) :
    ∃ d', s.save d a = (.ok (), d') := by
  obtain ⟨hroot, d₁, l, hmade, hl, hplace⟩ := h
  refine ⟨d₁.put l (.file (.text a.render)), ?_⟩
  have hwrite : d₁.write (s.assetPath a.master) (.text a.render)
      = .ok (d₁.put l (.file (.text a.render))) := by
    rw [Disk.write, hl]
    simp only
  rw [FolderStore.save, pathFor_eq_ok hvalid]
  simp only [hmade, Nat.not_lt.2 hroot, if_false, hwrite]

/-- A save takes nothing away that other saves need. -/
theorem of_save (h : s.CanHold d master) (hsave : s.save d a = (.ok (), d')) :
    s.CanHold d' master := by
  obtain ⟨hroot, d₁, l, hmade, hl, hplace⟩ := h
  obtain ⟨-, -, d₂, hmade', hwrite⟩ := exists_of_save hsave
  obtain rfl : d₁ = d₂ := (Prod.mk.inj (hmade.symm.trans hmade')).2
  have hkeeps : Disk.Keeps (fun _ => True) d₁ d' := Disk.keeps_write hwrite fun _ _ => trivial
  refine ⟨hroot, d', l, Disk.makeFolders_again hmade hkeeps, hkeeps.locate hl, ?_⟩
  obtain ⟨l', -, -, rfl⟩ := Disk.exists_of_write hwrite
  rw [Disk.entry?_put, if_neg (by simp [Disk.not_isBase_of_entry?_ne hplace])]
  split
  · simp
  · exact hplace

end CanHold

/-! ## Represented stores -/

/-- The location of the file of any master. -/
def IsAssetFile (s : FolderStore) (l : Location) : Prop :=
  ∃ master, s.IsFileOf master l

/-- A file with another ending, such as one that goes with an asset, is not that of a master. -/
theorem IsAssetFile.endsWith {l : Location} (h : s.IsAssetFile l) :
    Disk.EndsWith ".json".toList l := by
  obtain ⟨master, -, hl⟩ := h
  have hends : ".json".toList <:+ (assetFileName master).toList :=
    ⟨master.toList, by rw [assetFileName, String.toList_append]⟩
  exact Disk.endsWith_destination (hends.trans (Path.suffix_join s.root _)) (by decide) (by decide) hl

/-- The files of the assets hold what is stored in memory, and all other files are those of a first
disk. -/
structure Represents (s : FolderStore) (d₀ d : Disk) (m : MemoryStore) : Prop where
  isValid : ∀ {master a}, m.load master = some a → isValidAssetName master
  readText : ∀ {master a}, m.load master = some a → d.readText (s.assetPath master) = .ok a.render
  parse? : ∀ {master a}, m.load master = some a → Asset.parse? a.render = some a
  stored : ∀ {master l content}, s.IsFileOf master l → d.entry? l = some (.file content) →
    ∃ a, m.load master = some a ∧ content = .text a.render
  keeps : Disk.Keeps s.IsAssetFile d₀ d

theorem represents_empty
    (h : ∀ master l content, s.IsFileOf master l → d.entry? l ≠ some (.file content)) :
    s.Represents d d .empty where
  isValid h := by cases h
  readText h := by cases h
  parse? h := by cases h
  stored hl hcontent := absurd hcontent (h _ _ _ hl)
  keeps := .refl d

/-- The text of a file is the content of the entry that its path leads to. -/
theorem eq_of_readText {text : String} {l : Location} {content : Content}
    (h : d.readText (s.assetPath master) = .ok text) (hl : s.IsFileOf master l)
    (hcontent : d.entry? l = some (.file content)) : content = .text text := by
  obtain ⟨l', hl', hentry⟩ := Disk.exists_of_read (Disk.read_of_readText h)
  obtain rfl := Option.some.inj ((Disk.destination_of_locate hl').symm.trans hl.2)
  rw [hentry] at hcontent
  cases hcontent
  rfl

namespace Represents

/-- A file is there exactly for each stored asset. -/
theorem entry?_eq_some_iff (h : s.Represents d₀ d m) {l : Location} (hl : s.IsFileOf master l)
    {content : Content} :
    d.entry? l = some (.file content) ↔ ∃ a, m.load master = some a ∧ content = .text a.render := by
  refine ⟨h.stored hl, ?_⟩
  rintro ⟨a, ha, rfl⟩
  obtain ⟨l', hl', hentry⟩ := Disk.exists_of_read (Disk.read_of_readText (h.readText ha))
  obtain rfl := Option.some.inj ((Disk.destination_of_locate hl').symm.trans hl.2)
  exact hentry

/-- What is stored is loaded, and nothing is found where nothing is stored. -/
theorem load (h : s.Represents d₀ d m) (hvalid : isValidAssetName master)
    (hhold : s.CanHold d master) : s.load d master = .ok (m.load master) := by
  cases hstored : m.load master with
  | some a => rw [load_of_readText hvalid (h.readText hstored), h.parse? hstored]
  | none =>
    obtain ⟨-, d₁, l, hmade, hl, hplace⟩ := hhold
    have hkeeps : Disk.Keeps (fun _ => False) d d₁ := (Disk.keeps_makeFolders d s.root).of_eq hmade
    have hmissing : d.readText (s.assetPath master) = .error .notFound := by
      rcases hkeeps.locate_before hl with hlocate | hlocate
      · cases hentry : d.entry? l with
        | none => simp [Disk.readText, Disk.read, Disk.find, hlocate, hentry]
        | some e =>
          cases e with
          | folder => exact absurd (hkeeps.folder hentry) hplace
          | file content =>
            obtain ⟨a, ha, -⟩ := h.stored ⟨hvalid, Disk.destination_of_locate hlocate⟩ hentry
            rw [hstored] at ha
            cases ha
      · simp [Disk.readText, Disk.read, Disk.find, hlocate]
    rw [load_eq hvalid, hmissing]

theorem save (h : s.Represents d₀ d m) (hparse : Asset.parse? a.render = some a)
    (hsave : s.save d a = (.ok (), d')) : s.Represents d₀ d' (m.save a) := by
  obtain ⟨hvalid, -⟩ := exists_of_save hsave
  have hkeeps : Disk.Keeps (s.IsFileOf a.master) d d' := (keeps_save s d a).of_eq hsave
  have hload (master : String) : (m.save a).load master
      = if master = a.master then some a else m.load master := by
    simp only [MemoryStore.load, MemoryStore.save, SortedMap.get?_insert,
      Std.LawfulEqOrd.compare_eq_iff_eq]
  -- The file of any other master is left as it was.
  have hother {master : String} {l : Location} (hne : master ≠ a.master) (hl : s.IsFileOf master l) :
      ¬ s.IsFileOf a.master l := fun hl' => hne (hl.master_eq hl')
  refine ⟨fun {master b} hb => ?_, fun {master b} hb => ?_, fun {master b} hb => ?_,
    fun {master l content} hl hcontent => ?_, h.keeps.trans (hkeeps.mono fun l hl => ⟨_, hl⟩)⟩
  · rw [hload] at hb
    split at hb
    · rename_i heq
      exact heq ▸ hvalid
    · exact h.isValid hb
  · rw [hload] at hb
    split at hb
    · rename_i heq
      cases hb
      rw [heq]
      exact readText_of_save hsave
    · rename_i hne
      exact hkeeps.readText (fun l hl => hother hne ⟨h.isValid hb, hl⟩) (h.readText hb)
  · rw [hload] at hb
    split at hb
    · cases hb
      exact hparse
    · exact h.parse? hb
  · rw [hload]
    split
    · rename_i heq
      exact ⟨a, rfl, eq_of_readText (readText_of_save hsave) (heq ▸ hl) hcontent⟩
    · rename_i hne
      exact h.stored hl ((hkeeps.file (hother hne hl)).1 hcontent)

/-- A call gets the answer of the store in memory, and leaves room for further ones. -/
theorem answer (h : s.Represents d₀ d m) {call : StoreCall} (hcall : call.IsStorable)
    (hfloats : ∀ x ∈ call.floats, x.isFinite → x.ReadsBack) (hhold : s.CanHold d call.master) :
    (s.answer call d).1 = .ok (MemoryStore.answer call m).1
      ∧ s.Represents d₀ (s.answer call d).2 (MemoryStore.answer call m).2
      ∧ ∀ master, s.CanHold d master → s.CanHold (s.answer call d).2 master := by
  cases call with
  | load master =>
    have hload := h.load hcall hhold
    exact ⟨by rw [FolderStore.answer, hload]; rfl, h, fun _ hmaster => hmaster⟩
  | save a =>
    obtain ⟨hvalid, hstorable⟩ := hcall
    have hparse : Asset.parse? a.render = some a :=
      Asset.parse?_render hstorable.fitsFile fun x hx => hfloats x hx (hstorable.hasFiniteFloats x hx)
    obtain ⟨d', hsave⟩ := hhold.exists_save hvalid
    rw [FolderStore.answer, hsave]
    exact ⟨rfl, h.save hparse hsave, fun _ hmaster => hmaster.of_save hsave⟩

/-- Calls in any order get the answers of the store in memory. -/
theorem answers (h : s.Represents d₀ d m) {calls : List StoreCall}
    (hcalls : ∀ call ∈ calls, call.IsStorable)
    (hfloats : ∀ call ∈ calls, ∀ x ∈ call.floats, x.isFinite → x.ReadsBack)
    (hhold : ∀ call ∈ calls, s.CanHold d call.master) :
    (StoreCall.runAll s.answer calls d).1
        = (StoreCall.runAll MemoryStore.answer calls m).1.map .ok
      ∧ s.Represents d₀ (StoreCall.runAll s.answer calls d).2
        (StoreCall.runAll MemoryStore.answer calls m).2 := by
  induction calls generalizing d m with
  | nil => exact ⟨rfl, h⟩
  | cons call calls ih =>
    rw [List.forall_mem_cons] at hcalls hfloats hhold
    obtain ⟨hanswer, hnext, hroom⟩ := h.answer hcalls.1 hfloats.1 hhold.1
    obtain ⟨hanswers, hlast⟩ := ih hnext hcalls.2 hfloats.2 fun call hcall =>
      hroom call.master (hhold.2 call hcall)
    refine ⟨?_, hlast⟩
    simp only [StoreCall.runAll, List.map_cons, hanswer, hanswers]

end Represents

/-! ## Refinement -/

/-- Different names have different paths. -/
theorem eq_of_pathFor_eq {m m' path : String} (h : s.pathFor m = .ok path)
    (h' : s.pathFor m' = .ok path) : m = m' := by
  obtain ⟨hm, rfl⟩ := eq_of_pathFor_eq_ok h
  obtain ⟨hm', heq⟩ := eq_of_pathFor_eq_ok h'
  have hname := congrArg Path.fileName? heq
  rw [assetPath, assetPath, Path.fileName?_join (isName_assetFileName hm),
    Path.fileName?_join (isName_assetFileName hm'), Option.some.injEq] at hname
  exact assetFileName_inj hname

end FolderStore

/-- The folder store refines the memory store. On a disk without files of assets, where the system lets
the store keep the masters that the calls are about, calls in any order get from a folder exactly the
answers that they get from memory. Behind them there is a file for each stored asset, which holds its
text, and all other files are those of the beginning. Each save changes at most the file of its master,
which no other master shares, and is the same where it goes through a temporary file; calls about names
that cannot name assets fail and change nothing. -/
theorem folder_store_refines_memory {s : FolderStore} {d : Disk}
    (hempty : ∀ master l content, s.IsFileOf master l → d.entry? l ≠ some (.file content))
    {calls : List StoreCall} (hcalls : ∀ call ∈ calls, call.IsStorable)
    (hfloats : ∀ call ∈ calls, ∀ x ∈ call.floats, x.isFinite → x.ReadsBack)
    (hhold : ∀ call ∈ calls, s.CanHold d call.master) :
    (StoreCall.runAll s.answer calls d).1
        = (StoreCall.runAll MemoryStore.answer calls .empty).1.map .ok
      ∧ (∀ l content, Disk.entry? (StoreCall.runAll s.answer calls d).2 l = some (.file content)
        ↔ (∃ master a, s.IsFileOf master l ∧ content = .text a.render
            ∧ (StoreCall.runAll MemoryStore.answer calls .empty).2.load master = some a)
          ∨ ¬ s.IsAssetFile l ∧ d.entry? l = some (.file content))
      ∧ (∀ d a l, Disk.Changes d (s.save d a).2 l → s.IsFileOf a.master l)
      ∧ (∀ temporary d a, s.HasRoomFor temporary d → s.saveThrough temporary d a = s.save d a)
      ∧ (∀ m m' path, s.pathFor m = .ok path → s.pathFor m' = .ok path → m = m')
      ∧ (∀ m m' l, s.IsFileOf m l → s.IsFileOf m' l → m = m')
      ∧ ∀ master, ¬ isValidAssetName master →
        (∀ d, s.load d master = .error (.invalidMasterName master))
          ∧ ∀ d a, a.master = master → s.save d a = (.error (.invalidMasterName master), d) := by
  obtain ⟨hanswers, hlast⟩ :=
    (FolderStore.represents_empty hempty).answers hcalls hfloats hhold
  refine ⟨hanswers, fun l content => ?_, fun d a l hl => (s.keeps_save d a).of_changes hl,
    fun temporary d a hroom => FolderStore.saveThrough_eq_save hroom a,
    fun m m' path => FolderStore.eq_of_pathFor_eq, fun m m' l hl => hl.master_eq,
    fun master hmaster => ⟨FolderStore.load_of_not_isValidAssetName hmaster s, ?_⟩⟩
  · by_cases hl : s.IsAssetFile l
    · obtain ⟨master, hmaster⟩ := hl
      rw [hlast.entry?_eq_some_iff hmaster]
      constructor
      · rintro ⟨a, ha, rfl⟩
        exact .inl ⟨master, a, hmaster, rfl, ha⟩
      · rintro (⟨master', a, hmaster', rfl, ha⟩ | ⟨hnot, -⟩)
        · exact ⟨a, hmaster.master_eq hmaster' ▸ ha, rfl⟩
        · exact absurd ⟨master, hmaster⟩ hnot
    · rw [hlast.keeps.file hl]
      constructor
      · exact fun hcontent => .inr ⟨hl, hcontent⟩
      · rintro (⟨master, a, hmaster, -⟩ | ⟨-, hcontent⟩)
        · exact absurd ⟨master, hmaster⟩ hl
        · exact hcontent
  · rintro d a rfl
    exact FolderStore.save_of_not_isValidAssetName hmaster s d

/-- A folder for assets with a file that is none. -/
def sidecarDisk : Disk where
  entries := [(#["assets"], .folder),
    (#["assets", "Item.json.meta"], .file (.text "guid: 1234"))]
  nodup := by simp

/-- An asset with nested values of many kinds. -/
def swordAsset : Asset where
  master := "Item"
  fields := ["id", "name", "tags"]
  records := [⟨[.int (-1), .text "Sword \"of\" dawn\n",
    .array [.char '剣', .array [.float ⟨0x3FF8000000000000⟩, .empty]]]⟩]

/-- Calls about two masters, one of which is saved twice. -/
def mixedCalls : List StoreCall :=
  [.load "Item", .save swordAsset, .save ⟨"Shop", ["id"], []⟩, .load "Item",
    .save ⟨"Item", ["id"], [⟨[.bool true]⟩]⟩, .load "Item", .load "Shop"]

theorem folder_store_refines_memory_mixed :
    (StoreCall.runAll (FolderStore.answer ⟨"assets"⟩) mixedCalls sidecarDisk).1
        = [.ok (.loaded none), .ok .saved, .ok .saved, .ok (.loaded (some swordAsset)), .ok .saved,
          .ok (.loaded (some ⟨"Item", ["id"], [⟨[.bool true]⟩]⟩)),
          .ok (.loaded (some ⟨"Shop", ["id"], []⟩))]
      ∧ Disk.entry? (StoreCall.runAll (FolderStore.answer ⟨"assets"⟩) mixedCalls sidecarDisk).2
          #["assets", "Item.json.meta"] = some (.file (.text "guid: 1234")) := by
  have hmeta : ¬ FolderStore.IsAssetFile ⟨"assets"⟩ #["assets", "Item.json.meta"] := by
    rintro h
    obtain ⟨name, hname, hends⟩ := h.endsWith
    cases hname
    exact absurd hends (by decide)
  have hempty : ∀ master l content, FolderStore.IsFileOf ⟨"assets"⟩ master l →
      sidecarDisk.entry? l ≠ some (.file content) := by
    intro master l content hl hentry
    obtain rfl : l = #["assets", "Item.json.meta"] := by
      unfold Disk.entry? at hentry
      split at hentry
      · cases hentry
      · by_contra hne
        by_cases hroot : l = #["assets"]
        · simp [sidecarDisk, hroot] at hentry
        · simp [sidecarDisk, List.lookup_cons, beq_eq_false_iff_ne.2 hne,
            beq_eq_false_iff_ne.2 hroot] at hentry
    exact hmeta ⟨master, hl⟩
  have hcalls : ∀ call ∈ mixedCalls, call.IsStorable := by
    simp [mixedCalls, StoreCall.IsStorable, swordAsset, Asset.IsStorable, MasterRecord.IsStorable,
      FieldValue.IsStorable, FieldValue.FitsIn, FieldValue.floats, FieldValue.floatsOfList, valueDepth]
    decide +kernel
  have hfloats : ∀ call ∈ mixedCalls, ∀ x ∈ call.floats, x.isFinite → x.ReadsBack := by
    decide +kernel
  have hhold : ∀ call ∈ mixedCalls, FolderStore.CanHold ⟨"assets"⟩ sidecarDisk call.master := by
    have hitem : FolderStore.CanHold ⟨"assets"⟩ sidecarDisk "Item" :=
      ⟨by decide +kernel, _, #["assets", "Item.json"], eq_mk_of_fst_eq (by decide +kernel),
        by decide +kernel, by decide +kernel⟩
    have hshop : FolderStore.CanHold ⟨"assets"⟩ sidecarDisk "Shop" :=
      ⟨by decide +kernel, _, #["assets", "Shop.json"], eq_mk_of_fst_eq (by decide +kernel),
        by decide +kernel, by decide +kernel⟩
    simp [mixedCalls, StoreCall.master, swordAsset, hitem, hshop]
  obtain ⟨hanswers, hfiles, -⟩ := folder_store_refines_memory hempty hcalls hfloats hhold
  refine ⟨?_, ?_⟩
  · rw [hanswers]
    decide +kernel
  · exact (hfiles _ _).2 (.inr ⟨hmeta, by decide +kernel⟩)

end MasterData
