-- SUMMARY: Exactly which workbooks a folder lists, in whatever order the system enumerates it.
import Mathlib.Data.List.TakeWhile
import MasterData.Proofs.Workbook.Opening

/-! # Listed workbooks

The system enumerates a folder in an order of its own, which may change from one moment to the next. A
listing of the workbooks does not show it: it gives the names of the files directly inside that have no
tilde and end in the extension of a format, in any mixture of cases, each once and in increasing order.
Main statements: `Workbook.listInBy_eq` and `Workbook.exists_names_of_find`.
-/

namespace MasterData

/-- An order in which the system enumerates folders. It may depend on the folder and on all that is on
the disk. -/
structure Enumeration where
  order : Disk → String → List (String × Entry) → List (String × Entry)
  perm : ∀ d folder entries, (order d folder entries).Perm entries

namespace Enumeration

/-- Folders enumerated as the disk keeps them. -/
def forwards : Enumeration where
  order _ _ entries := entries
  perm _ _ entries := .refl entries

/-- Folders enumerated from their last entry to their first. -/
def backwards : Enumeration where
  order _ _ entries := entries.reverse
  perm _ _ entries := List.reverse_perm entries

end Enumeration

/-- What is directly inside a folder, as the system enumerates it. -/
def Disk.listBy (o : Enumeration) (d : Disk) (folder : String) :
    Except Denial (List (String × Entry)) :=
  (d.list folder).map (o.order d folder)

/-- A listing is that of a folder that is found: its names, and the files directly inside. -/
theorem Disk.exists_of_list {d : Disk} {folder : String} {entries : List (String × Entry)}
    (h : d.list folder = .ok entries) :
    ∃ f, d.find folder = .ok (f, .folder) ∧ (entries.map (·.1)).Nodup
      ∧ ∀ name c, (name, .file c) ∈ entries ↔ d.entry? (f.push name) = some (.file c) := by
  obtain ⟨f, hf⟩ := exists_find_of_list h
  obtain ⟨entries', h', hnodup, hfiles⟩ := exists_list hf
  obtain rfl := Except.ok.inj (h.symm.trans h')
  exact ⟨f, hf, hnodup, hfiles⟩

/-- What is selected from a folder by name does not depend on the order of enumeration. -/
theorem Enumeration.selectFiles_order (o : Enumeration) (p : String → Bool) {d : Disk}
    {folder : String} {entries : List (String × Entry)} (h : d.list folder = .ok entries) :
    Disk.selectFiles p (o.order d folder entries) = Disk.selectFiles p entries := by
  obtain ⟨f, -, hnodup, -⟩ := Disk.exists_of_list h
  have hperm := o.perm d folder entries
  exact Disk.selectFiles_congr ((hperm.map (·.1)).nodup_iff.2 hnodup) hnodup
    fun name => by simp only [hperm.mem_iff]

/-! ## Extensions -/

namespace WorkbookFormat

theorem isSome_ofExtension?_iff {extension : String} :
    (ofExtension? extension).isSome ↔ ∃ format : WorkbookFormat, lower extension = format.extension := by
  rw [ofExtension?, List.find?_isSome]
  constructor
  · rintro ⟨format, -, hformat⟩
    exact ⟨format, (of_decide_eq_true hformat).symm⟩
  · rintro ⟨format, hformat⟩
    exact ⟨format, by cases format <;> decide, decide_eq_true hformat.symm⟩

theorem no_dot_of_lower {extension : String} {format : WorkbookFormat}
    (h : lower extension = format.extension) : '.' ∉ extension.toList := by
  intro hdot
  have hmem : '.' ∈ (lower extension).toList := by
    rw [lower, String.toList_ofList]
    exact List.mem_map.2 ⟨'.', hdot, by decide⟩
  rw [h] at hmem
  revert hmem
  cases format <;> decide

theorem length_of_lower {extension : String} {format : WorkbookFormat}
    (h : lower extension = format.extension) : 2 < extension.toList.length := by
  have hlength : extension.toList.length = format.extension.toList.length := by
    rw [← h, lower, String.toList_ofList, List.length_map]
  rw [hlength]
  cases format <;> decide

end WorkbookFormat

/-! ## Workbooks in a folder -/

/-- The name of a workbook: it has no tilde and ends in the extension of a format, in any mixture of
cases, behind something else and a dot. -/
def Workbook.IsWorkbookName (name : String) : Prop :=
  '~' ∉ name.toList ∧ ∃ stem extension, ∃ format : WorkbookFormat,
    stem ≠ "" ∧ name = stem ++ "." ++ extension
      ∧ WorkbookFormat.lower extension = format.extension

namespace Workbook

variable {d : Disk} {folder name : String} {f : Location}

theorem isWorkbookName_iff (hslash : '/' ∉ name.toList) :
    isWorkbookName name ↔ IsWorkbookName name := by
  unfold isWorkbookName IsWorkbookName
  rw [Bool.and_eq_true, Bool.not_eq_true', List.contains_eq_mem, decide_eq_false_iff_not]
  refine and_congr_right fun _ => ?_
  constructor
  · intro h
    obtain ⟨format, hformat⟩ := Option.isSome_iff_exists.1 h
    obtain ⟨extension, hextension, hknown⟩ := Option.bind_eq_some_iff.1 hformat
    obtain ⟨file, hfile, hextensionOf⟩ := Option.bind_eq_some_iff.1 hextension
    obtain rfl := Path.eq_of_fileName? hslash hfile
    obtain ⟨stem, hstem, hname, -⟩ := Path.extensionOf?_eq_some_iff.1 hextensionOf
    obtain ⟨format, hlower⟩ := WorkbookFormat.isSome_ofExtension?_iff.1 (by rw [hknown]; rfl)
    exact ⟨stem, extension, format, hstem, hname, hlower⟩
  · rintro ⟨stem, extension, format, hstem, hname, hlower⟩
    have hextension : Path.extensionOf? name = some extension :=
      Path.extensionOf?_eq_some_iff.2
        ⟨stem, hstem, hname, WorkbookFormat.no_dot_of_lower hlower⟩
    have hlength : 2 < name.toList.length := by
      have := WorkbookFormat.length_of_lower hlower
      rw [hname, String.toList_append, List.length_append]
      omega
    have hfile : Path.fileName? (Path.join "" name) = some name :=
      Path.fileName?_join (Path.isName_of_lt_length hslash hlength)
    rw [Path.join_empty] at hfile
    rw [WorkbookFormat.ofPath?, Path.extension?, hfile, Option.bind_some, hextension,
      Option.bind_some]
    exact WorkbookFormat.isSome_ofExtension?_iff.2 ⟨format, hlower⟩

/-- The paths of the workbooks directly inside a folder, which the system enumerates in some order. -/
def listInBy (o : Enumeration) (d : Disk) (folder : String) : Except WorkbookError (List String) :=
  match d.listBy o folder with
  | .ok entries => .ok ((workbookNames entries).map (Path.join folder))
  | .error _ => .error .system

/-- The order of enumeration does not show in a listing. -/
theorem listInBy_eq (o : Enumeration) (d : Disk) (folder : String) :
    listInBy o d folder = listIn d folder := by
  unfold listInBy listIn Disk.listBy
  cases hlist : d.list folder with
  | error e => rfl
  | ok entries =>
    have hnames : workbookNames (o.order d folder entries) = workbookNames entries :=
      o.selectFiles_order isWorkbookName hlist
    simp only [Except.map, hnames]

/-- A folder that is found lists its workbooks: each once, in increasing order. -/
theorem exists_names_of_find (hd : d.HasNamedFiles folder) (hf : d.find folder = .ok (f, .folder)) :
    ∃ names : List String, listIn d folder = .ok (names.map (Path.join folder))
      ∧ names.Pairwise (· < ·)
      ∧ ∀ name, name ∈ names
        ↔ (∃ content, d.entry? (f.push name) = some (.file content)) ∧ IsWorkbookName name := by
  obtain ⟨entries, hlist, hnodup, hfiles⟩ := Disk.exists_list hf
  refine ⟨Disk.selectFiles isWorkbookName entries, ?_, Disk.pairwise_selectFiles _ hnodup,
    fun name => ?_⟩
  · unfold listIn
    rw [hlist]
    rfl
  · rw [Disk.mem_selectFiles, and_comm]
    simp only [hfiles]
    refine and_congr_right fun ⟨content, hcontent⟩ => isWorkbookName_iff ?_
    exact hd f name content (Disk.destination_of_find hf) hcontent

end Workbook

end MasterData
