-- SUMMARY: A text cell decodes to an array whole: each piece between commas is an element, or there is none.
import MasterData.Proofs.Config.Members
import MasterData.Proofs.Project.ConfiguredEnums
import MasterData.Proofs.Record.TypedIndex

/-! # Array cells

A text is split at its commas in exactly one way. It decodes to an array if each piece spells an element
and there are as many pieces as the kind fixes; the array then has one element for each piece, in order.
In all other cases it does not decode, so an array is never shortened. Texts without commas are found
again in their join, and so are the members of an enumeration, whatever white space is around them.
Main statement: `FieldKind.array_cells_decode_whole`.
-/

namespace MasterData.FieldKind

/-! ## Pieces -/

/-- Texts without commas that make up a text, in order and with commas between them. -/
structure ArePieces (s : String) (pieces : List String) : Prop where
  ne_nil : pieces ≠ []
  no_comma : ∀ piece ∈ pieces, ',' ∉ piece.toList
  join : ",".intercalate pieces = s

/-- The pieces between the commas of a text. -/
def pieces (s : String) : List String :=
  (splitCommas s.toList).map String.ofList

theorem splitCommas_eq_splitOn (cs : List Char) : splitCommas cs = cs.splitOn ',' := by
  induction cs with
  | nil => rw [splitCommas, List.splitOn_nil]
  | cons c cs ih =>
    rw [splitCommas, ih, List.splitOn_cons_eq_if_modifyHead]
    simp only [beq_iff_eq]
    obtain ⟨piece, rest, hcons⟩ := List.exists_cons_of_ne_nil (List.splitOn_ne_nil ',' cs)
    rw [hcons, List.modifyHead_cons]

theorem no_comma_of_mem_splitCommas {cs : List Char} : ∀ piece ∈ splitCommas cs, ',' ∉ piece := by
  induction cs with
  | nil => simp [splitCommas]
  | cons c cs ih =>
    unfold splitCommas
    split
    · exact List.forall_mem_cons.2 ⟨List.not_mem_nil, ih⟩
    · rename_i hc
      have hfirst {piece : List Char} (h : ',' ∉ piece) : ',' ∉ c :: piece := by
        rw [List.mem_cons, not_or]
        exact ⟨fun heq => hc heq.symm, h⟩
      split
      · exact List.forall_mem_singleton.2 (hfirst List.not_mem_nil)
      · rename_i hrest
        rw [hrest, List.forall_mem_cons] at ih
        exact List.forall_mem_cons.2 ⟨hfirst ih.1, ih.2⟩

theorem arePieces_pieces (s : String) : ArePieces s (pieces s) where
  ne_nil := by
    rw [pieces, ne_eq, List.map_eq_nil_iff, splitCommas_eq_splitOn]
    exact List.splitOn_ne_nil ',' s.toList
  no_comma := by
    refine List.forall_mem_map.2 fun piece hpiece => ?_
    rw [String.toList_ofList]
    exact no_comma_of_mem_splitCommas piece hpiece
  join := by
    have hmap : (pieces s).map String.toList = splitCommas s.toList := by
      simp [pieces, Function.comp_def]
    rw [← String.toList_inj, String.toList_intercalate, hmap, splitCommas_eq_splitOn]
    exact List.intercalate_splitOn ','

/-- The pieces of a text are the only ones. -/
theorem arePieces_iff {s : String} {ps : List String} : ArePieces s ps ↔ ps = pieces s := by
  constructor
  · rintro ⟨hne, hcomma, rfl⟩
    have hsplit : splitCommas (",".intercalate ps).toList = ps.map String.toList := by
      rw [String.toList_intercalate, splitCommas_eq_splitOn]
      exact List.splitOn_intercalate ',' (by simpa using hcomma) (by simpa using hne)
    rw [pieces, hsplit]
    simp [Function.comp_def]
  · rintro rfl
    exact arePieces_pieces s

/-! ## Elements -/

/-- A piece of a text spells an element of a scalar kind. -/
inductive Spells : FieldKind → String → FieldValue → Prop where
  /-- The literal of a double, with any white space around it, spells what the double is cast to. -/
  | number {p : Primitive} {piece : String} {x : Double}
    (h : Double.ofLiteral? (Text.trim piece) = some x) : Spells (.primitive p) piece (p.cast x)
  /-- A text is taken as it is, with the white space around it. -/
  | text (piece : String) : Spells .string piece (.text piece)
  /-- A truth value by name, in any case and with any white space around it. -/
  | truth {piece : String} {b : Bool}
    (h : String.ofList ((Text.trim piece).toList.map Char.toLower) = toString b) :
    Spells .boolean piece (.bool b)
  /-- A member, with any white space around it. -/
  | member {name : String} {members : List String} {piece : String}
    (h : Text.trim piece ∈ members) :
    Spells (.enumeration name members) piece (.text (Text.trim piece))

theorem boolOfText?_eq_some_iff {s : String} {b : Bool} :
    boolOfText? s = some b
      ↔ String.ofList ((Text.trim s).toList.map Char.toLower) = toString b := by
  unfold boolOfText?
  simp only
  split
  · rename_i htrue
    rw [htrue]
    cases b <;> decide
  · rename_i htrue
    split
    · rename_i hfalse
      rw [hfalse]
      cases b <;> decide
    · rename_i hfalse
      refine ⟨nofun, fun h => ?_⟩
      cases b with
      | true => exact absurd h htrue
      | false => exact absurd h hfalse

theorem parseElement?_eq_some_iff {kind : FieldKind} {piece : String} {v : FieldValue} :
    kind.parseElement? piece = some v ↔ kind.Spells piece v := by
  constructor
  · intro h
    cases kind with
    | primitive p =>
      rw [parseElement?, Option.map_eq_some_iff] at h
      obtain ⟨x, hx, rfl⟩ := h
      exact .number hx
    | string =>
      rw [parseElement?, Option.some.injEq] at h
      exact h ▸ .text piece
    | boolean =>
      rw [parseElement?, Option.map_eq_some_iff] at h
      obtain ⟨b, hb, rfl⟩ := h
      exact .truth (boolOfText?_eq_some_iff.1 hb)
    | enumeration name members =>
      rw [parseElement?, Option.map_eq_some_iff] at h
      obtain ⟨m, hm, rfl⟩ := h
      have heq := List.find?_some hm
      obtain rfl : m = Text.trim piece := of_decide_eq_true heq
      exact .member (List.mem_of_find?_eq_some hm)
    | array _ _ | opaqueType _ => cases h
  · intro h
    cases h with
    | number hx => rw [parseElement?, hx, Option.map_some]
    | text => rfl
    | truth hb => rw [parseElement?, boolOfText?_eq_some_iff.2 hb, Option.map_some]
    | member hm => rw [parseElement?, find?_member hm, Option.map_some]

/-! ## Cells -/

section Cells

variable {element : FieldKind} {length : Option Nat} {sheet : Sheet} {a : Address} {s : String}

theorem decodeElements?_eq_some_iff {items : List FieldValue} (hs : Text.isBlankText s = false) :
    element.decodeElements? (.text s) = some items
      ↔ List.Forall₂ element.Spells (pieces s) items := by
  have hpieces : element.decodeElements? (.text s)
      = (splitCommas s.toList).mapM fun piece => element.parseElement? (String.ofList piece) := by
    rw [decodeElements?, hs]
    rfl
  rw [hpieces, Json.mapM_eq_some_iff, pieces, List.forall₂_map_left_iff]
  simp only [parseElement?_eq_some_iff]

/-- A text cell decodes to an array of what its pieces spell, if there are as many as are fixed. -/
theorem decode?_array_eq_some_iff (hs : Text.isBlankText s = false)
    (hcell : sheet.cell? a = some (.text s)) {v : FieldValue} :
    (array element length).decode? sheet a = some v
      ↔ (∀ n ∈ length, (pieces s).length = n)
        ∧ ∃ items, List.Forall₂ element.Spells (pieces s) items ∧ v = .array items := by
  have hlength (items : List FieldValue) :
      length.all (· = items.length) = true ↔ ∀ n ∈ length, items.length = n := by
    cases length <;> simp [eq_comm]
  simp only [decode?, hcell, Option.bind_eq_bind, Option.bind_some, Option.bind_eq_some_iff,
    decodeElements?_eq_some_iff hs, Option.ite_none_right_eq_some, hlength, Option.some.injEq]
  constructor
  · rintro ⟨items, hitems, hn, rfl⟩
    exact ⟨hitems.length_eq ▸ hn, items, hitems, rfl⟩
  · rintro ⟨hn, items, hitems, rfl⟩
    exact ⟨items, hitems, hitems.length_eq ▸ hn, rfl⟩

/-- A text cell does not decode to an array if a piece spells nothing or their number is another one. -/
theorem decode?_array_eq_none_iff (hs : Text.isBlankText s = false)
    (hcell : sheet.cell? a = some (.text s)) :
    (array element length).decode? sheet a = none
      ↔ (∃ piece ∈ pieces s, ∀ v, ¬ element.Spells piece v)
        ∨ ∃ n ∈ length, (pieces s).length ≠ n := by
  have hall : (∃ items, List.Forall₂ element.Spells (pieces s) items)
      ↔ ∀ piece ∈ pieces s, ∃ v, element.Spells piece v := by
    refine ⟨fun ⟨items, hitems⟩ piece hpiece => ?_, Json.exists_forall₂⟩
    obtain ⟨i, hi, rfl⟩ := List.getElem_of_mem hpiece
    exact ⟨_, hitems.get hi (hitems.length_eq ▸ hi)⟩
  rw [Option.eq_none_iff_forall_ne_some]
  simp only [ne_eq, decode?_array_eq_some_iff hs hcell]
  constructor
  · intro hnone
    by_contra hno
    push Not at hno
    obtain ⟨items, hitems⟩ := hall.2 hno.1
    exact hnone _ ⟨hno.2, items, hitems, rfl⟩
  · rintro hfault v ⟨hn, items, hitems, rfl⟩
    rcases hfault with ⟨piece, hpiece, hspells⟩ | ⟨n, hmem, hne⟩
    · obtain ⟨v, hv⟩ := hall.1 ⟨items, hitems⟩ piece hpiece
      exact hspells v hv
    · exact hne (hn n hmem)

end Cells

/-! ## Joined lists -/

/-- A text with white space around another one. -/
def IsPadded (text padded : String) : Prop :=
  ∃ before after, Text.isBlankText before = true ∧ Text.isBlankText after = true
    ∧ padded = before ++ text ++ after

theorem IsPadded.trim {text padded : String} (h : IsPadded text padded) :
    Text.trim padded = Text.trim text := by
  obtain ⟨before, after, hbefore, hafter, rfl⟩ := h
  exact Text.trim_append hbefore hafter text

theorem IsPadded.no_comma {text padded : String} (h : IsPadded text padded)
    (htext : ',' ∉ text.toList) : ',' ∉ padded.toList := by
  obtain ⟨before, after, hbefore, hafter, rfl⟩ := h
  have hblank {s : String} (hs : Text.isBlankText s = true) : ',' ∉ s.toList := fun hmem =>
    absurd (List.all_eq_true.1 hs _ hmem) (by decide)
  simp [hblank hbefore, hblank hafter, htext]

/-- A join with a comma in it is not blank. -/
theorem isBlankText_intercalate {ps : List String} (hne : ps ≠ [])
    (hps : ∀ piece ∈ ps, Text.isBlankText piece = false) :
    Text.isBlankText (",".intercalate ps) = false := by
  cases ps with
  | nil => exact absurd rfl hne
  | cons first rest =>
    cases rest with
    | nil =>
      rw [String.intercalate_singleton]
      exact hps first (List.mem_singleton_self _)
    | cons second rest =>
      have hcomma : Text.isBlank ',' = false := by decide
      simp [String.intercalate_cons_cons, Text.isBlankText, hcomma]

section Lists

variable {length : Option Nat} {sheet : Sheet} {a : Address}

/-- The pieces of a join of texts without commas are the texts. -/
theorem pieces_intercalate {ps : List String} (hne : ps ≠ [])
    (hcomma : ∀ piece ∈ ps, ',' ∉ piece.toList) : pieces (",".intercalate ps) = ps :=
  (arePieces_iff.1 ⟨hne, hcomma, rfl⟩).symm

theorem decode?_array_intercalate {element : FieldKind} {ps : List String}
    {items : List FieldValue} (hne : ps ≠ []) (hcomma : ∀ piece ∈ ps, ',' ∉ piece.toList)
    (hblank : Text.isBlankText (",".intercalate ps) = false) (hlength : ∀ n ∈ length, ps.length = n)
    (hitems : List.Forall₂ element.Spells ps items)
    (hcell : sheet.cell? a = some (.text (",".intercalate ps))) :
    (array element length).decode? sheet a = some (.array items) := by
  rw [decode?_array_eq_some_iff hblank hcell, pieces_intercalate hne hcomma]
  exact ⟨hlength, items, hitems, rfl⟩

end Lists

/-- A member of an enumeration of a valid configuration is spelled by itself with any white space around
it, and by no text that is blank or holds a comma. -/
theorem spells_of_isPadded {c : Config} (hc : c.IsValid) {name member padded : String}
    {members : List String} (hname : (name, members) ∈ c.types.enums.toList)
    (hmember : member ∈ members) (h : IsPadded member padded) :
    (enumeration name members).Spells padded (.text member) ∧ ',' ∉ padded.toList
      ∧ Text.isBlankText padded = false := by
  have hidentifier := hc.isIdentifier_member hname member hmember
  have htrim : Text.trim padded = member := h.trim.trans (Naming.trim_of_isIdentifier hidentifier)
  have hcomma : ',' ∉ member.toList := fun hmem =>
    absurd (Naming.isWordChar_of_isIdentifier hidentifier _ hmem) (by decide)
  refine ⟨?_, h.no_comma hcomma, Bool.eq_false_iff.2 fun hblank => ?_⟩
  · have hspells : (enumeration name members).Spells padded (.text (Text.trim padded)) :=
      .member (htrim ▸ hmember)
    rwa [htrim] at hspells
  · obtain rfl : member = "" := htrim.symm.trans (Text.trim_eq_empty_iff.2 hblank)
    exact absurd hidentifier (by decide)

/-- Arrays decode all or nothing. A text that is not blank has exactly one list of pieces. A cell with it
decodes to an array exactly if each piece spells an element and their number is the length that the kind
fixes, if it fixes one; the array then has what the pieces spell, in order. It does not decode exactly if
a piece spells nothing or the number is another one. So a list of texts without commas is decoded from its
join, if that is not blank, and a list of members of an enumeration of a valid configuration from its join
with any white space around the members. -/
theorem array_cells_decode_whole :
    (∀ (element : FieldKind) (length : Option Nat) (s : String), Text.isBlankText s = false →
      ∃ pieces, (∀ ps, ArePieces s ps ↔ ps = pieces)
        ∧ ∀ (sheet : Sheet) (a : Address), sheet.cell? a = some (.text s) →
          (∀ v, (array element length).decode? sheet a = some v
            ↔ (∀ n ∈ length, pieces.length = n)
              ∧ ∃ items, List.Forall₂ element.Spells pieces items ∧ v = .array items)
          ∧ ((array element length).decode? sheet a = none
            ↔ (∃ piece ∈ pieces, ∀ v, ¬ element.Spells piece v)
              ∨ ∃ n ∈ length, pieces.length ≠ n))
      ∧ (∀ (texts : List String) (length : Option Nat), texts ≠ [] →
        (∀ text ∈ texts, ',' ∉ text.toList) →
        Text.isBlankText (",".intercalate texts) = false → (∀ n ∈ length, texts.length = n) →
        ∀ (sheet : Sheet) (a : Address), sheet.cell? a = some (.text (",".intercalate texts)) →
          (array .string length).decode? sheet a = some (.array (texts.map .text)))
      ∧ ∀ (c : Config), c.IsValid → ∀ name members, (name, members) ∈ c.types.enums.toList →
        ∀ (chosen padded : List String) (length : Option Nat), chosen ≠ [] →
        (∀ member ∈ chosen, member ∈ members) → List.Forall₂ IsPadded chosen padded →
        (∀ n ∈ length, chosen.length = n) →
        ∀ (sheet : Sheet) (a : Address), sheet.cell? a = some (.text (",".intercalate padded)) →
          (array (.enumeration name members) length).decode? sheet a
            = some (.array (chosen.map .text)) := by
  refine ⟨fun element length s hs => ⟨pieces s, fun ps => arePieces_iff, fun sheet a hcell =>
    ⟨fun v => decode?_array_eq_some_iff hs hcell, decode?_array_eq_none_iff hs hcell⟩⟩,
    fun texts length hne hcomma hblank hlength sheet a hcell => ?_,
    fun c hc name members hname chosen padded length hne hchosen hpadded hlength sheet a hcell => ?_⟩
  · refine decode?_array_intercalate hne hcomma hblank hlength ?_ hcell
    exact List.forall₂_map_right_iff.2 (List.forall₂_same.2 fun text _ => .text text)
  · have hspelled : List.Forall₂ (fun piece member =>
        (enumeration name members).Spells piece (.text member) ∧ ',' ∉ piece.toList
          ∧ Text.isBlankText piece = false) padded chosen := by
      clear hcell hlength hne
      induction hpadded with
      | nil => exact .nil
      | cons hfirst _ ih =>
        rw [List.forall_mem_cons] at hchosen
        exact .cons (spells_of_isPadded hc hname hchosen.1 hfirst) (ih hchosen.2)
    have hpieces : ∀ piece ∈ padded, ',' ∉ piece.toList ∧ Text.isBlankText piece = false := by
      intro piece hpiece
      obtain ⟨i, hi, rfl⟩ := List.getElem_of_mem hpiece
      exact (hspelled.get hi (hspelled.length_eq ▸ hi)).2
    have hne' : padded ≠ [] := by
      rintro rfl
      cases hpadded
      exact hne rfl
    refine decode?_array_intercalate hne' (fun piece hpiece => (hpieces piece hpiece).1)
      (isBlankText_intercalate hne' fun piece hpiece => (hpieces piece hpiece).2)
      (hpadded.length_eq ▸ hlength) ?_ hcell
    exact List.forall₂_map_right_iff.2 (hspelled.imp fun _ _ h => h.1)

theorem array_cells_decode_whole_trailingComma :
    let sheet := ((((Sheet.named "Loot").set ⟨4, 0⟩ (.text "3, 4,5")).set ⟨4, 1⟩
      (.text "0.5,1.5,")).set ⟨4, 2⟩ (.text " a,,b")).set ⟨4, 3⟩ (.text "\t Water,Fire ")
    (array (.primitive .i32) none).decode? sheet ⟨4, 0⟩ = some (.array [.int 3, .int 4, .int 5])
      ∧ (array (.primitive .f32) (some 2)).decode? sheet ⟨4, 1⟩ = none
      ∧ (array .string (some 3)).decode? sheet ⟨4, 2⟩
        = some (.array [.text " a", .text "", .text "b"])
      ∧ (array (.enumeration "Element" ["Fire", "Water"]) none).decode? sheet ⟨4, 3⟩
        = some (.array [.text "Water", .text "Fire"]) := by
  intro sheet
  obtain ⟨hwhole, htexts, hmembers⟩ := array_cells_decode_whole
  have hconfig : elementConfig.IsValid := by decide +kernel
  have hpadded : List.Forall₂ IsPadded ["Water", "Fire"] ["\t Water", "Fire "] :=
    .cons ⟨"\t ", "", by decide, rfl, by decide⟩ (.cons ⟨"", " ", rfl, by decide, by decide⟩ .nil)
  refine ⟨?_, ?_,
    htexts [" a", "", "b"] (some 3) (by decide) (by decide) (by decide) (by decide) sheet _
      (by decide +kernel),
    hmembers elementConfig hconfig "Element" ["Fire", "Water"] (by decide +kernel)
      ["Water", "Fire"] ["\t Water", "Fire "] none (by decide) (by decide) hpadded nofun sheet _
      (by decide +kernel)⟩
  · obtain ⟨pieces, hpieces, hcells⟩ := hwhole (.primitive .i32) none "3, 4,5" (by decide)
    obtain rfl := (hpieces ["3", " 4", "5"]).1 ⟨by decide, by decide, by decide⟩
    have hspells {piece : String} {i : Int64} (h : (Double.ofLiteral? (Text.trim piece)).map
        Primitive.i32.cast = some (.int i)) : (primitive .i32).Spells piece (.int i) :=
      parseElement?_eq_some_iff.1 h
    refine ((hcells sheet _ (by decide +kernel)).1 _).2 ⟨nofun, _, ?_, rfl⟩
    exact .cons (hspells (by decide +kernel)) (.cons (hspells (by decide +kernel))
      (.cons (hspells (by decide +kernel)) .nil))
  · obtain ⟨pieces, hpieces, hcells⟩ := hwhole (.primitive .f32) (some 2) "0.5,1.5," (by decide)
    obtain rfl := (hpieces ["0.5", "1.5", ""]).1 ⟨by decide, by decide, by decide⟩
    exact (hcells sheet _ (by decide +kernel)).2.2 (.inr ⟨2, rfl, by decide⟩)

end MasterData.FieldKind
