-- SUMMARY: The lines of a rendered source are those of its items.
import MasterData.Code.Layout

/-! # Lines of generated source

A source is rendered as one text. Read line by line it gives back the lines of its items in order, as
long as no line is broken. What stands before an item does not matter for the lines behind it.
Main statements: `Code.lines_render` and `Code.lines_render_append`.
-/

namespace MasterData

/-! ## Lines of a text -/

namespace Text

/-- A text without an end of a line inside. -/
def IsUnbroken (s : String) : Prop := ∀ c ∈ s.toList, c ≠ '\n' ∧ c ≠ '\r'

/-- A text that is written out is checked on its characters. -/
theorem isUnbroken_ofList {cs : List Char} (h : cs.all fun c => c ≠ '\n' ∧ c ≠ '\r') :
    IsUnbroken (String.ofList cs) := by
  simpa [IsUnbroken] using h

theorem isUnbroken_append {s t : String} :
    IsUnbroken (s ++ t) ↔ IsUnbroken s ∧ IsUnbroken t := by
  simp only [IsUnbroken, String.toList_append, List.forall_mem_append]

theorem splitLineFeeds_append (cs ds : List Char) :
    splitLineFeeds (cs ++ '\n' :: ds) = splitLineFeeds cs ++ splitLineFeeds ds := by
  induction cs with
  | nil => simp [splitLineFeeds]
  | cons c cs ih =>
    rw [List.cons_append, splitLineFeeds, splitLineFeeds, ih]
    obtain ⟨piece, rest, hsplit⟩ := List.exists_cons_of_ne_nil (splitLineFeeds_ne_nil cs)
    rw [hsplit]
    split <;> rfl

theorem linesOfPieces_append (pieces : List (List Char)) {rest : List (List Char)}
    (h : rest ≠ []) :
    linesOfPieces (pieces ++ rest) = pieces.map dropCarriageReturn ++ linesOfPieces rest := by
  induction pieces with
  | nil => rfl
  | cons piece pieces ih =>
    rw [List.cons_append, linesOfPieces, ih, List.map_cons, List.cons_append]
    exact fun hnil => h (List.append_eq_nil_iff.1 hnil).2

/-- What follows a line feed starts a line. -/
theorem lines_append_lineFeed (s t : String) :
    lines (s ++ "\n" ++ t) = lines (s ++ "\n") ++ lines t := by
  have hs : splitLineFeeds (s ++ "\n").toList = splitLineFeeds s.toList ++ [[]] := by
    rw [String.toList_append]
    exact splitLineFeeds_append s.toList []
  have hst : splitLineFeeds (s ++ "\n" ++ t).toList
      = splitLineFeeds s.toList ++ splitLineFeeds t.toList := by
    rw [String.toList_append, String.toList_append, List.append_assoc]
    exact splitLineFeeds_append s.toList t.toList
  rw [lines, lines, lines, hs, hst, linesOfPieces_append _ (splitLineFeeds_ne_nil _),
    linesOfPieces_append _ (by simp), List.map_append, linesOfPieces, if_pos rfl, List.append_nil]

theorem splitLineFeeds_of_isUnbroken {cs : List Char} (h : ∀ c ∈ cs, c ≠ '\n' ∧ c ≠ '\r') :
    splitLineFeeds cs = [cs] := by
  induction cs with
  | nil => rfl
  | cons c cs ih =>
    rw [List.forall_mem_cons] at h
    rw [splitLineFeeds, if_neg h.1.1, ih h.2]

/-- Without an end of a line a text is one line, or none. -/
theorem lines_eq_of_isUnbroken {s : String} (h : IsUnbroken s) :
    lines s = if s = "" then [] else [s] := by
  rw [lines, splitLineFeeds_of_isUnbroken h, linesOfPieces]
  by_cases hs : s = ""
  · rw [if_pos (String.toList_eq_nil_iff.2 hs), if_pos hs, List.map_nil]
  · rw [if_neg (mt String.toList_eq_nil_iff.1 hs), if_neg hs, List.map_singleton,
      String.ofList_toList]

theorem isUnbroken_trimEnd {s : String} (h : IsUnbroken s) : IsUnbroken (trimEnd s) := by
  intro c hc
  rw [trimEnd, String.toList_ofList, trimRight, List.mem_reverse] at hc
  exact h c (List.mem_reverse.1 ((List.dropWhile_sublist _).mem hc))

/-- An unbroken text and a line feed are one line. -/
theorem lines_of_isUnbroken {s : String} (h : IsUnbroken s) : lines (s ++ "\n") = [s] := by
  have hdrop : dropCarriageReturn s.toList = s.toList :=
    if_neg fun hlast => (h _ (List.mem_of_getLast? hlast)).2 rfl
  rw [lines, String.toList_append]
  have hsplit := splitLineFeeds_append s.toList []
  rw [splitLineFeeds_of_isUnbroken h] at hsplit
  rw [show "\n".toList = '\n' :: [] from rfl, hsplit]
  simp [splitLineFeeds, linesOfPieces, hdrop]

theorem lines_join {ls : List String} (h : ∀ l ∈ ls, IsUnbroken l) :
    lines (String.join (ls.map (· ++ "\n"))) = ls := by
  induction ls with
  | nil => rfl
  | cons l ls ih =>
    rw [List.forall_mem_cons] at h
    rw [List.map_cons, String.join_cons, lines_append_lineFeed, lines_of_isUnbroken h.1, ih h.2]
    rfl

end Text

/-! ## Lines of items -/

namespace Code

/-- A line at a depth without its end. -/
def indented (depth : Nat) (text : String) : String :=
  if text = "" then "" else String.ofList (List.replicate (4 * depth) ' ') ++ text

/-- The lines of an item without their indentation. -/
def Item.contents : Item → List String
  | line text => [text]
  | blank => [""]
  | openBlock text => [text]
  | closeBlock text => [text]
  | doc text => (Text.lines text).map (commentLine "///")
  | innerDoc text => (Text.lines text).map (commentLine "//!")

/-- The text that an item was made with. -/
def Item.written : Item → String
  | line text => text
  | blank => ""
  | openBlock text => text
  | closeBlock text => text
  | doc text => text
  | innerDoc text => text

/-- An item without an end of a line in its text. -/
def Item.IsUnbroken (item : Item) : Prop := Text.IsUnbroken item.written

/-- The depth of the lines of an item that starts at a depth. -/
def Item.ownDepth (depth : Nat) : Item → Nat
  | closeBlock _ => depth - 1
  | _ => depth

/-- The lines of an item at a depth. -/
def Item.lines (depth : Nat) (item : Item) : List String :=
  item.contents.map (indented (item.ownDepth depth))

/-- The lines of the items that start at a depth. -/
def linesOf (depth : Nat) : List Item → List String
  | [] => []
  | item :: rest => item.lines depth ++ linesOf (item.depthAfter depth) rest

/-- The depth behind items that start at a depth. -/
def depthBehind (depth : Nat) (items : List Item) : Nat :=
  items.foldl (fun depth item => item.depthAfter depth) depth

theorem lineAt_eq (depth : Nat) (text : String) : lineAt depth text = indented depth text ++ "\n" := by
  unfold lineAt indented
  split
  · rfl
  · rfl

theorem Item.text_eq (depth : Nat) (item : Item) :
    item.text depth = String.join ((item.lines depth).map (· ++ "\n")) := by
  cases item <;>
    simp [Item.text, Item.lines, Item.contents, Item.ownDepth, comment, lineAt_eq, Function.comp_def]

theorem join_texts (depth : Nat) (items : List Item) :
    String.join (texts depth items) = String.join ((linesOf depth items).map (· ++ "\n")) := by
  induction items generalizing depth with
  | nil => rfl
  | cons item rest ih =>
    rw [texts, linesOf, String.join_cons, ih, Item.text_eq, List.map_append, String.join_append]

theorem contents_map_line {α : Type} (f : α → String) (xs : List α) :
    (xs.map fun x => Item.line (f x)).flatMap Item.contents = xs.map f := by
  induction xs with
  | nil => rfl
  | cons x xs ih => rw [List.map_cons, List.flatMap_cons, ih]; rfl

theorem linesOf_append (depth : Nat) (items rest : List Item) :
    linesOf depth (items ++ rest) = linesOf depth items ++ linesOf (depthBehind depth items) rest := by
  induction items generalizing depth with
  | nil => rfl
  | cons item items ih => rw [List.cons_append, linesOf, linesOf, ih, List.append_assoc]; rfl

theorem texts_append (depth : Nat) (items rest : List Item) :
    texts depth (items ++ rest) = texts depth items ++ texts (depthBehind depth items) rest := by
  induction items generalizing depth with
  | nil => rfl
  | cons item items ih => rw [List.cons_append, texts, texts, ih]; rfl

/-! ## Unbroken items -/

theorem isUnbroken_indented {text : String} (h : Text.IsUnbroken text) (depth : Nat) :
    Text.IsUnbroken (indented depth text) := by
  unfold indented
  split
  · exact Text.isUnbroken_ofList (by decide)
  · refine Text.isUnbroken_append.2 ⟨fun c hc => ?_, h⟩
    rw [String.toList_ofList] at hc
    rw [List.eq_of_mem_replicate hc]
    decide

theorem isUnbroken_comment {marker text : String} (hmarker : Text.IsUnbroken marker)
    (h : Text.IsUnbroken text) :
    ∀ line ∈ (Text.lines text).map (commentLine marker), Text.IsUnbroken line := by
  rw [Text.lines_eq_of_isUnbroken h]
  split
  · simp
  · refine List.forall_mem_singleton.2 ?_
    unfold commentLine
    simp only
    split
    · exact hmarker
    · simp only [Text.isUnbroken_append, hmarker, Text.isUnbroken_trimEnd h, and_true, true_and]
      exact Text.isUnbroken_ofList (by decide)

theorem Item.IsUnbroken.contents {item : Item} (h : item.IsUnbroken) :
    ∀ text ∈ item.contents, Text.IsUnbroken text := by
  cases item with
  | line text => exact List.forall_mem_singleton.2 h
  | blank => exact List.forall_mem_singleton.2 h
  | openBlock text => exact List.forall_mem_singleton.2 h
  | closeBlock text => exact List.forall_mem_singleton.2 h
  | doc text => exact isUnbroken_comment (Text.isUnbroken_ofList (by decide)) h
  | innerDoc text => exact isUnbroken_comment (Text.isUnbroken_ofList (by decide)) h

theorem isUnbroken_of_mem_linesOf {items : List Item} (h : ∀ item ∈ items, item.IsUnbroken)
    (depth : Nat) : ∀ l ∈ linesOf depth items, Text.IsUnbroken l := by
  induction items generalizing depth with
  | nil => simp [linesOf]
  | cons item rest ih =>
    rw [List.forall_mem_cons] at h
    rw [linesOf, List.forall_mem_append]
    refine ⟨fun l hl => ?_, ih h.2 _⟩
    obtain ⟨text, htext, rfl⟩ := List.mem_map.1 hl
    exact isUnbroken_indented (h.1.contents text htext) _

/-! ## Rendered sources -/

/-- The lines of a rendered source are those of its items. -/
theorem lines_render {items : List Item} (h : ∀ item ∈ items, item.IsUnbroken) :
    Text.lines (render items) = linesOf 0 items := by
  rw [render, join_texts, Text.lines_join (isUnbroken_of_mem_linesOf h 0)]

/-- The lines of the items inside a block, whatever stands before it. -/
theorem lines_render_append (items : List Item) (text : String) {rest : List Item}
    (h : ∀ item ∈ rest, item.IsUnbroken) :
    Text.lines (render (items ++ .openBlock text :: rest))
      = Text.lines (render (items ++ [.openBlock text]))
        ++ linesOf (depthBehind 0 (items ++ [.openBlock text])) rest := by
  have hbefore : render (items ++ [.openBlock text])
      = String.join (texts 0 items) ++ indented (depthBehind 0 items) text ++ "\n" := by
    rw [render, texts_append, String.join_append, String.append_assoc, ← lineAt_eq]
    simp [texts, Item.text]
  have hall : render (items ++ .openBlock text :: rest)
      = render (items ++ [.openBlock text])
        ++ String.join ((linesOf (depthBehind 0 (items ++ [.openBlock text])) rest).map
          (· ++ "\n")) := by
    rw [List.append_cons, render, texts_append, String.join_append, ← join_texts, render]
  rw [hall, hbefore, Text.lines_append_lineFeed,
    Text.lines_join (isUnbroken_of_mem_linesOf h _)]

end Code

end MasterData
