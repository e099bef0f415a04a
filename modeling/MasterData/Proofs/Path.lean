-- SUMMARY: The segments of joined paths, and the extensions of names.
import Mathlib.Data.List.Induction
import Mathlib.Data.List.TakeWhile
import MasterData.Path

/-! # Segments of joined paths

Joining a name to a folder adds that name as the last segment and changes nothing before it; the parent
of the joined path has the segments before the name, less the idle ones at their end. The extension of a
name is what stands behind its last dot. Main statements: `segments_join`, `fileName?_join`,
`exists_parent?_join` and `extensionOf?_eq_some_iff`.
-/

namespace MasterData.Path

/-! ## Splitting -/

theorem splitSlashes_ne_nil (cs : List Char) : splitSlashes cs ≠ [] := by
  cases cs with
  | nil => simp [splitSlashes]
  | cons c cs =>
    simp only [splitSlashes]
    split
    · simp
    · split <;> simp

theorem splitSlashes_cons {c : Char} (hc : c ≠ '/') {cs piece : List Char} {rest : List (List Char)}
    (h : splitSlashes cs = piece :: rest) : splitSlashes (c :: cs) = (c :: piece) :: rest := by
  simp [splitSlashes, hc, h]

/-- A tail without slashes ends the last piece. -/
theorem exists_splitSlashes_append (cs : List Char) {tail : List Char} (htail : '/' ∉ tail) :
    ∃ before piece, splitSlashes (cs ++ tail) = before ++ [piece ++ tail] := by
  induction cs with
  | nil =>
    refine ⟨[], [], ?_⟩
    induction tail with
    | nil => rfl
    | cons c tail ih =>
      have hc : c ≠ '/' := fun h => htail (by simp [h])
      exact splitSlashes_cons hc (ih fun h => htail (List.mem_cons_of_mem _ h))
  | cons c cs ih =>
    obtain ⟨before, piece, ih⟩ := ih
    by_cases hc : c = '/'
    · exact ⟨[] :: before, piece, by simp [splitSlashes, hc, ih]⟩
    · -- The character goes to the first piece, which is the last one where no slash came before.
      cases before with
      | nil => exact ⟨[], c :: piece, splitSlashes_cons hc ih⟩
      | cons b before => exact ⟨(c :: b) :: before, piece, splitSlashes_cons hc ih⟩

theorem splitSlashes_of_no_slash {cs : List Char} (h : '/' ∉ cs) : splitSlashes cs = [cs] := by
  induction cs with
  | nil => rfl
  | cons c cs ih =>
    have hc : c ≠ '/' := fun heq => h (by simp [heq])
    exact splitSlashes_cons hc (ih fun hmem => h (List.mem_cons_of_mem _ hmem))

theorem splitSlashes_append_slash (cs : List Char) {name : List Char} (h : '/' ∉ name) :
    splitSlashes (cs ++ '/' :: name) = splitSlashes cs ++ [name] := by
  induction cs with
  | nil => simp [splitSlashes, splitSlashes_of_no_slash h]
  | cons c cs ih =>
    by_cases hc : c = '/'
    · simp [splitSlashes, hc, ih]
    · obtain ⟨piece, rest, hsplit⟩ := List.exists_cons_of_ne_nil (splitSlashes_ne_nil cs)
      rw [List.cons_append, splitSlashes_cons hc (ih.trans (by rw [hsplit]; rfl)),
        splitSlashes_cons hc hsplit]
      rfl

theorem no_slash_of_mem_splitSlashes {cs piece : List Char} (h : piece ∈ splitSlashes cs) :
    '/' ∉ piece := by
  induction cs generalizing piece with
  | nil => simp_all [splitSlashes]
  | cons c cs ih =>
    by_cases hc : c = '/'
    · simp only [splitSlashes, hc, if_true, List.mem_cons] at h
      rcases h with rfl | h
      · simp
      · exact ih h
    · obtain ⟨first, rest, hsplit⟩ := List.exists_cons_of_ne_nil (splitSlashes_ne_nil cs)
      rw [hsplit] at ih
      rw [splitSlashes_cons hc hsplit, List.mem_cons] at h
      rcases h with rfl | h
      · have hfirst := ih (List.mem_cons_self ..)
        simp [Ne.symm hc, hfirst]
      · exact ih (List.mem_cons_of_mem _ h)

/-! ## Names -/

/-- A text that names one step down. -/
structure IsName (name : String) : Prop where
  no_slash : '/' ∉ name.toList
  not_idle : isIdle name = false
  ne_up : name ≠ ".."

/-- The segments that name no step down have at most two characters. -/
theorem isName_of_lt_length {name : String} (h : '/' ∉ name.toList)
    (hlength : 2 < name.toList.length) : IsName name := by
  have hlong (s : String) (hs : s.toList.length ≤ 2) : name ≠ s := by
    rintro rfl
    omega
  refine ⟨h, ?_, hlong ".." (by decide)⟩
  simp [isIdle, hlong "" (by decide), hlong "." (by decide)]

theorem segments_of_no_slash {name : String} (h : '/' ∉ name.toList) : segments name = [name] := by
  rw [segments, splitSlashes_of_no_slash h]
  simp

theorem segments_ne_nil (path : String) : segments path ≠ [] := by
  simp [segments, splitSlashes_ne_nil]

theorem no_slash_of_mem_segments {path segment : String} (h : segment ∈ segments path) :
    '/' ∉ segment.toList := by
  obtain ⟨piece, hpiece, rfl⟩ := List.mem_map.1 h
  rw [String.toList_ofList]
  exact no_slash_of_mem_splitSlashes hpiece

theorem not_isAbsolute_of_no_slash {name : String} (h : '/' ∉ name.toList) :
    isAbsolute name = false := by
  simp only [isAbsolute, decide_eq_false_iff_not]
  exact fun hhead => h (List.mem_of_mem_head? hhead)

theorem segments_append_slash (folder : String) {name : String} (h : '/' ∉ name.toList) :
    segments (folder ++ "/" ++ name) = segments folder ++ [name] := by
  have htoList : (folder ++ "/" ++ name).toList = folder.toList ++ '/' :: name.toList := by
    simp [String.toList_append]
  rw [segments, htoList, splitSlashes_append_slash _ h]
  simp [segments]

/-- The segments of a folder with a name joined to it; a slash at the end of the folder only made
room for the name. -/
theorem segments_join {folder name : String} (h : '/' ∉ name.toList) (hfolder : folder ≠ "") :
    ∃ before ≠ [], segments (join folder name) = before ++ [name]
      ∧ (segments folder = before ∨ segments folder = before ++ [""]) := by
  have habsolute := not_isAbsolute_of_no_slash h
  by_cases hlast : folder.toList.getLast? = some '/'
  · -- The slash is already there: what stands before it is the folder that the name goes into.
    obtain ⟨cs, hcs⟩ := List.getLast?_eq_some_iff.1 hlast
    obtain rfl : folder = String.ofList cs ++ "/" := by
      rw [← String.toList_inj, hcs]
      simp [String.toList_append]
    refine ⟨segments (String.ofList cs), segments_ne_nil _, ?_, .inr ?_⟩
    · rw [join, habsolute]
      simp only [Bool.false_eq_true, hfolder, or_self, if_false, hlast, if_true]
      exact segments_append_slash _ h
    · have h : segments (String.ofList cs ++ "/" ++ "") = segments (String.ofList cs) ++ [""] :=
        segments_append_slash _ (by simp)
      rwa [String.append_empty] at h
  · refine ⟨segments folder, segments_ne_nil _, ?_, .inl rfl⟩
    rw [join, habsolute]
    simp only [Bool.false_eq_true, hfolder, or_self, if_false, hlast]
    exact segments_append_slash _ h

theorem join_empty {name : String} : join "" name = name := by
  simp [join]

theorem join_ne_empty {path : String} (folder : String) (h : path ≠ "") : join folder path ≠ "" := by
  unfold join
  split
  · exact h
  · split <;> simp [h]

theorem isAbsolute_join {folder name : String} (h : '/' ∉ name.toList) (hfolder : folder ≠ "") :
    isAbsolute (join folder name) = isAbsolute folder := by
  have habsolute := not_isAbsolute_of_no_slash h
  have hne : folder.toList ≠ [] := fun heq => hfolder (String.toList_eq_nil_iff.1 heq)
  obtain ⟨c, cs, hc⟩ := List.exists_cons_of_ne_nil hne
  rw [join, habsolute]
  simp only [Bool.false_eq_true, hfolder, or_self, if_false]
  split <;> simp [isAbsolute, String.toList_append, hc]

/-! ## File names -/

theorem fileName?_join {folder name : String} (h : IsName name) :
    fileName? (join folder name) = some name := by
  have hname : ¬ (name = "" ∨ name = "." ∨ name = "..") := by
    have := h.not_idle
    simp only [isIdle, Bool.or_eq_false_iff, decide_eq_false_iff_not] at this
    simp [this, h.ne_up]
  by_cases hfolder : folder = ""
  · rw [hfolder, join_empty, fileName?, segments_of_no_slash h.no_slash]
    simp [hname]
  · obtain ⟨before, hne, hsegments, -⟩ := segments_join h.no_slash hfolder
    obtain ⟨first, rest, rfl⟩ := List.exists_cons_of_ne_nil hne
    rw [fileName?, hsegments]
    simp [h.not_idle, hname]

/-- The file name of a path is one of its segments. -/
theorem isName_of_fileName? {path name : String} (h : fileName? path = some name) : IsName name := by
  unfold fileName? at h
  split at h
  · cases h
  · rename_i first rest hsegments
    simp only at h
    split at h
    · cases h
    · rename_i hname
      simp only [Option.some.injEq] at h
      rw [h] at hname
      simp only [not_or] at hname
      -- The name is the last segment that moves, or the first one when all others are idle.
      have hmem : name ∈ segments path := by
        rw [hsegments, ← h]
        cases hhead : (rest.reverse.dropWhile isIdle).head? with
        | none => simp
        | some last =>
          have hlast := (List.dropWhile_sublist isIdle).mem (List.mem_of_mem_head? hhead)
          simp only [Option.getD_some]
          exact List.mem_cons_of_mem _ (List.mem_reverse.1 hlast)
      exact ⟨no_slash_of_mem_segments hmem, by simp [isIdle, hname], hname.2.2⟩

theorem eq_of_fileName? {name file : String} (h : '/' ∉ name.toList)
    (hfile : fileName? name = some file) : file = name := by
  rw [fileName?, segments_of_no_slash h] at hfile
  by_cases hname : name = "" ∨ name = "." ∨ name = ".."
  · simp [hname] at hfile
  · simpa [hname, eq_comm] using hfile

/-! ## Parents -/

theorem intercalate_splitSlashes (cs : List Char) : ['/'].intercalate (splitSlashes cs) = cs := by
  induction cs with
  | nil => rfl
  | cons c cs ih =>
    obtain ⟨piece, rest, hsplit⟩ := List.exists_cons_of_ne_nil (splitSlashes_ne_nil cs)
    rw [hsplit] at ih
    by_cases hc : c = '/'
    · rw [hc, splitSlashes, if_pos rfl, hsplit, List.intercalate_cons_cons, ih]
      rfl
    · rw [splitSlashes_cons hc hsplit]
      cases rest with
      | nil => simpa using ih
      | cons next rest =>
        rw [List.intercalate_cons_cons] at ih ⊢
        rw [List.cons_append, List.cons_append, ih]

/-- A path is its segments with slashes between them. -/
theorem intercalate_segments (path : String) : "/".intercalate (segments path) = path := by
  have hmap : (segments path).map String.toList = splitSlashes path.toList := by
    simp [segments, Function.comp_def]
  rw [← String.toList_inj, String.toList_intercalate, hmap]
  exact intercalate_splitSlashes path.toList

theorem intercalate_append {before after : List String} (hbefore : before ≠ []) (hafter : after ≠ []) :
    "/".intercalate (before ++ after)
      = "/".intercalate before ++ ("/" ++ "/".intercalate after) := by
  obtain ⟨next, after, rfl⟩ := List.exists_cons_of_ne_nil hafter
  induction before with
  | nil => exact absurd rfl hbefore
  | cons first before ih =>
    cases before with
    | nil => simp [String.intercalate_cons_cons, String.append_assoc]
    | cons second before =>
      rw [List.cons_append, List.cons_append, String.intercalate_cons_cons,
        String.intercalate_cons_cons, ← List.cons_append, ih (by simp)]
      simp only [String.append_assoc]

theorem segments_intercalate {pieces : List String} (hne : pieces ≠ [])
    (h : ∀ piece ∈ pieces, '/' ∉ piece.toList) : segments ("/".intercalate pieces) = pieces := by
  induction pieces using List.reverseRecOn with
  | nil => exact absurd rfl hne
  | append_singleton before name ih =>
    have hname : '/' ∉ name.toList := h name (by simp)
    by_cases hbefore : before = []
    · subst hbefore
      simpa using segments_of_no_slash hname
    · rw [intercalate_append hbefore (by simp), ← String.append_assoc, String.intercalate_singleton,
        segments_append_slash _ hname, ih hbefore fun piece hp => h piece (by simp [hp])]

/-- The idle segments at the end of a list. -/
theorem exists_idle_end (segments : List String) :
    ∃ kept idle, segments = kept ++ idle ∧ (∀ segment ∈ idle, isIdle segment)
      ∧ ∀ segment ∈ kept.getLast?, isIdle segment = false := by
  refine ⟨(segments.reverse.dropWhile isIdle).reverse, (segments.reverse.takeWhile isIdle).reverse,
    ?_, ?_, ?_⟩
  · rw [← List.reverse_append, List.takeWhile_append_dropWhile, List.reverse_reverse]
  · intro segment hsegment
    exact List.all_eq_true.1 List.all_takeWhile segment (List.mem_reverse.1 hsegment)
  · intro segment hsegment
    have hhead := List.head?_dropWhile_not isIdle segments.reverse
    rw [List.getLast?_reverse, Option.mem_def] at hsegment
    rw [hsegment] at hhead
    exact hhead

theorem parent?_of_segments {path first name : String} {kept idle : List String}
    (hpath : segments path = first :: (kept ++ idle) ++ [name]) (hname : isIdle name = false)
    (hidle : ∀ segment ∈ idle, isIdle segment)
    (hkept : ∀ segment ∈ kept.getLast?, isIdle segment = false) :
    parent? path
      = some (if kept = [] ∧ first = "" then "/" else "/".intercalate (first :: kept)) := by
  have hname' : (kept ++ idle ++ [name]).reverse.dropWhile isIdle = name :: (kept ++ idle).reverse := by
    simp [hname]
  have hidle' : (kept ++ idle).reverse.dropWhile isIdle = kept.reverse := by
    rw [List.reverse_append, List.dropWhile_append_of_pos fun s hs => hidle s (List.mem_reverse.1 hs)]
    cases hlast : kept.reverse with
    | nil => rfl
    | cons last rest =>
      rw [List.dropWhile_cons_of_neg]
      have := hkept last (by simp [← List.head?_reverse, hlast])
      simp [this]
  rw [parent?, hpath, List.cons_append]
  simp only [hname', hidle', List.reverse_reverse]
  cases kept with
  | nil => by_cases hfirst : first = "" <;> simp [hfirst]
  | cons second kept => simp

/-- Only a first segment can be a dot at the end: any other one would be idle. -/
theorem eq_dot_of_endsInDot {path first : String} {kept : List String}
    (hpath : segments path = first :: kept)
    (hkept : ∀ segment ∈ kept.getLast?, isIdle segment = false) (hdot : endsInDot path) :
    path = "." := by
  rw [endsInDot, decide_eq_true_eq, hpath] at hdot
  cases hlast : kept.getLast? with
  | none =>
    obtain rfl := List.getLast?_eq_none_iff.1 hlast
    have hfirst := List.mem_of_find?_eq_some hdot
    rw [List.reverse_singleton, List.mem_singleton] at hfirst
    rw [← intercalate_segments path, hpath, ← hfirst, String.intercalate_singleton]
  | some last =>
    obtain ⟨before, rfl⟩ := List.getLast?_eq_some_iff.1 hlast
    have hidle := hkept last hlast
    have hne : last ≠ "" := by
      rintro rfl
      cases hidle
    rw [← List.cons_append, List.reverse_append, List.reverse_singleton, List.singleton_append,
      List.find?_cons_of_pos (by simpa using hne), Option.some.injEq] at hdot
    rw [hdot] at hidle
    cases hidle

/-- The parent of a name in a folder is a beginning of the path. It has the segments before the name up
to the last one that is not idle; only where nothing else stands before the name, it is the root. -/
theorem exists_parent?_join {folder name : String} (h : IsName name) (hfolder : folder ≠ "") :
    ∃ first kept idle parent tail, segments (join folder name) = first :: (kept ++ idle) ++ [name]
      ∧ (∀ segment ∈ idle, isIdle segment) ∧ (∀ segment ∈ kept.getLast?, isIdle segment = false)
      ∧ parent? (join folder name) = some parent ∧ join folder name = parent ++ tail ∧ parent ≠ ""
      ∧ (segments parent = first :: kept ∨ parent = "/" ∧ first = "" ∧ kept = []) := by
  obtain ⟨before, hne, hsegments, -⟩ := segments_join h.no_slash hfolder
  obtain ⟨first, rest, rfl⟩ := List.exists_cons_of_ne_nil hne
  obtain ⟨kept, idle, rfl, hidle, hkept⟩ := exists_idle_end rest
  have hparent := parent?_of_segments hsegments h.not_idle hidle hkept
  have hpath : join folder name
      = "/".intercalate (first :: kept) ++ ("/" ++ "/".intercalate (idle ++ [name])) := by
    rw [← intercalate_append (by simp) (by simp), ← intercalate_segments (join folder name),
      hsegments]
    simp
  split at hparent
  · rename_i hroot
    obtain ⟨rfl, rfl⟩ := hroot
    refine ⟨"", [], idle, _, "/".intercalate (idle ++ [name]), hsegments, hidle, hkept, hparent, ?_,
      by decide, .inr ⟨rfl, rfl, rfl⟩⟩
    simpa using hpath
  · rename_i hroot
    have hpieces : segments ("/".intercalate (first :: kept)) = first :: kept := by
      refine segments_intercalate (by simp) fun segment hsegment => ?_
      have hmem : segment ∈ segments (join folder name) := by
        rw [hsegments, List.cons_append, List.append_assoc, ← List.cons_append]
        exact List.mem_append_left _ hsegment
      exact no_slash_of_mem_segments hmem
    have hne : "/".intercalate (first :: kept) ≠ "" := by
      intro heq
      rw [heq] at hpieces
      obtain ⟨rfl, rfl⟩ := List.cons.inj hpieces
      exact hroot ⟨rfl, rfl⟩
    exact ⟨first, kept, idle, _, _, hsegments, hidle, hkept, hparent, hpath, hne, .inl hpieces⟩

/-! ## Extensions -/

section LastDot

variable {cs stem rest : List Char}

theorem takeWhile_reverse_append_dot (h : '.' ∉ rest) :
    (stem ++ '.' :: rest).reverse.takeWhile (fun c => decide (c ≠ '.')) = rest.reverse := by
  have hrest : ∀ c ∈ rest.reverse, decide (c ≠ '.') = true := by
    intro c hc
    rw [decide_eq_true_eq]
    rintro rfl
    exact h (List.mem_reverse.1 hc)
  rw [List.reverse_append, List.reverse_cons, List.append_assoc, List.takeWhile_append_of_pos hrest,
    List.singleton_append, List.takeWhile_cons_of_neg (by simp), List.append_nil]

/-- Characters not all of which stand behind the last dot hold a dot, and are split there. -/
theorem exists_append_dot (h : (cs.reverse.takeWhile fun c => decide (c ≠ '.')).length < cs.length) :
    ∃ stem, cs = stem ++ '.' :: (cs.reverse.takeWhile fun c => decide (c ≠ '.')).reverse := by
  have hsplit := List.takeWhile_append_dropWhile (p := fun c => decide (c ≠ '.')) (l := cs.reverse)
  have hne : cs.reverse.dropWhile (fun c => decide (c ≠ '.')) ≠ [] := by
    intro hnil
    rw [hnil, List.append_nil] at hsplit
    rw [hsplit, List.length_reverse] at h
    exact lt_irrefl _ h
  obtain ⟨c, stem, hrest⟩ := List.exists_cons_of_ne_nil hne
  have hc : c = '.' := by
    have hhead := List.head_dropWhile_not (fun c => decide (c ≠ '.')) hne
    simpa only [hrest, List.head_cons, decide_eq_false_iff_not, ne_eq, not_not] using hhead
  refine ⟨stem.reverse, ?_⟩
  have hreversed := congrArg List.reverse hsplit
  rw [hrest, hc, List.reverse_reverse, List.reverse_append, List.reverse_cons] at hreversed
  simpa using hreversed.symm

end LastDot

/-- The extension of a name is what stands behind its last dot, with something before that. -/
theorem extensionOf?_eq_some_iff {name extension : String} :
    extensionOf? name = some extension
      ↔ ∃ stem, stem ≠ "" ∧ name = stem ++ "." ++ extension ∧ '.' ∉ extension.toList := by
  unfold extensionOf?
  simp only
  constructor
  · intro h
    split at h
    · rename_i hlength
      rw [Option.some.injEq, ← String.toList_inj, String.toList_ofList] at h
      obtain ⟨stem, hname⟩ := exists_append_dot (Nat.lt_of_succ_lt hlength)
      rw [h] at hname
      have hnodot : '.' ∉ extension.toList := by
        rw [← h, List.mem_reverse]
        intro hmem
        simpa using List.mem_takeWhile_imp hmem
      refine ⟨String.ofList stem, ?_, ?_, hnodot⟩
      · intro hempty
        have hstem : stem = [] := by simpa using congrArg String.toList hempty
        have hextension := congrArg List.length h
        have hlengths := congrArg List.length hname
        simp only [hstem, List.nil_append, List.length_cons, List.length_reverse]
          at hlengths hextension
        omega
      · rw [← String.toList_inj, hname]
        simp [String.toList_append]
    · cases h
  · rintro ⟨stem, hstem, rfl, hnodot⟩
    have hname : (stem ++ "." ++ extension).toList = stem.toList ++ '.' :: extension.toList := by
      simp [String.toList_append]
    have hlength : 0 < stem.toList.length :=
      List.length_pos_iff.2 (mt String.toList_eq_nil_iff.1 hstem)
    rw [hname, takeWhile_reverse_append_dot hnodot, List.reverse_reverse, String.ofList_toList, if_pos]
    simp only [List.length_append, List.length_cons, List.length_reverse]
    omega

end MasterData.Path
