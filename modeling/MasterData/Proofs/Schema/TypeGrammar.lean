-- SUMMARY: The grammar of declared types, and the kind of each of its forms.
import Mathlib.Data.List.TakeWhile
import MasterData.Proofs.Schema.Extract
import MasterData.Proofs.SortedMap
import MasterData.Proofs.Text.Trimming

/-! # The grammar of declared types

A declared type, without the white space around it, is an element name before empty brackets, an element
name and a length in brackets, or a name on its own. A name stands for a built-in kind, else for the
primitive of an alias, else for an enumeration, and is opaque if it stands for none. An array of what is
opaque is opaque as a whole, as is one whose length is not written in plain digits or is too great. A
table whose names hold no brackets and are not blank adds no further form.
Main statement: `TypeTable.classify_by_grammar`.
-/

namespace MasterData.TypeTable

/-! ## Forms -/

/-- Whether a text holds no character that arrays are written with. -/
def isUnmarked (text : String) : Bool := !text.toList.any isArrayMark

/-- Whether a text is not blank and holds no character that arrays are written with. -/
def isPlainName (name : String) : Bool := !Text.isBlankText name && isUnmarked name

/-- A text that declares an array of a fixed length: an element name and decimal digits of any script in
brackets, a semicolon between them and any white space around both. -/
structure IsFixedArray (text element digits : String) : Prop where
  exists_eq : ∃ inner outer, text = "[" ++ inner ++ ";" ++ outer ++ "]"
    ∧ Text.trim inner = element ∧ Text.trim outer = digits ∧ isUnmarked inner = true
  element_ne_empty : element ≠ ""
  digits_ne_empty : digits ≠ ""
  isDecimalDigit : digits.toList.all Text.isDecimalDigit = true

theorem isUnmarked_iff {text : String} :
    isUnmarked text = true ↔ text.toList.any isArrayMark = false := by
  rw [isUnmarked, Bool.not_eq_true']

theorem isPlainName_iff {name : String} : isPlainName name = true
    ↔ Text.isBlankText name = false ∧ name.toList.any isArrayMark = false := by
  rw [isPlainName, Bool.and_eq_true, Bool.not_eq_true', isUnmarked_iff]

/-- A table whose names are not blank and hold no character of an array. -/
def HasPlainNames (t : TypeTable) : Prop :=
  ∀ name ∈ t.aliases.keys ++ t.enums.keys, isPlainName name = true

instance (t : TypeTable) : Decidable t.HasPlainNames :=
  inferInstanceAs (Decidable (∀ _ ∈ _, _))

/-! ## Names -/

/-- The built-in names with their kinds. -/
def builtInKinds : List (String × FieldKind) := [
  ("string", .string), ("String", .string), ("str", .string),
  ("bool", .boolean), ("boolean", .boolean),
  ("byte", .primitive .u8), ("u8", .primitive .u8),
  ("sbyte", .primitive .i8), ("i8", .primitive .i8),
  ("short", .primitive .i16), ("i16", .primitive .i16),
  ("ushort", .primitive .u16), ("u16", .primitive .u16),
  ("int", .primitive .i32), ("i32", .primitive .i32),
  ("uint", .primitive .u32), ("u32", .primitive .u32),
  ("long", .primitive .i64), ("i64", .primitive .i64),
  ("ulong", .primitive .u64), ("u64", .primitive .u64),
  ("float", .primitive .f32), ("f32", .primitive .f32),
  ("double", .primitive .f64), ("f64", .primitive .f64),
  ("char", .primitive .char)]

/-- The scalar kind that a name stands for. -/
def scalar? (t : TypeTable) (name : String) : Option FieldKind :=
  (builtInKinds.lookup name).or
    (((t.aliases.get? name).map .primitive).or ((t.enums.get? name).map (.enumeration name)))

/-- The built-in kind of a name as the reader looks for it. -/
def builtIn? (name : String) : Option FieldKind :=
  if ["string", "String", "str"].contains name then some .string
  else if ["bool", "boolean"].contains name then some .boolean
  else (Primitive.ofName? name).map .primitive

theorem builtIn?_eq_lookup (name : String) : builtIn? name = builtInKinds.lookup name := by
  by_cases hmem : name ∈ builtInKinds.map (·.1)
  · have hlisted : ∀ name ∈ builtInKinds.map (·.1), builtIn? name = builtInKinds.lookup name := by
      decide
    exact hlisted name hmem
  · have hlookup : builtInKinds.lookup name = none :=
      List.lookup_eq_none_iff.2 fun p hp => bne_iff_ne.2 fun (heq : name = p.1) =>
        hmem (heq ▸ List.mem_map_of_mem hp)
    have hwords : ∀ word ∈ ["string", "String", "str"] ++ ["bool", "boolean"],
        word ∈ builtInKinds.map (·.1) := by
      decide
    have hspelled : ∀ p ∈ Primitive.all, p.typeName ∈ builtInKinds.map (·.1)
        ∧ p.authorName ∈ builtInKinds.map (·.1) := by
      decide
    have hprimitive : Primitive.ofName? name = none := by
      refine List.find?_eq_none.2 fun p hp hname => hmem ?_
      rw [Bool.or_eq_true, decide_eq_true_eq, decide_eq_true_eq] at hname
      rcases hname with rfl | rfl
      · exact (hspelled p hp).1
      · exact (hspelled p hp).2
    have htext : ["string", "String", "str"].contains name = false := by
      simpa using fun h => hmem (hwords name (List.mem_append_left _ h))
    have htruth : ["bool", "boolean"].contains name = false := by
      simpa using fun h => hmem (hwords name (List.mem_append_right _ h))
    rw [builtIn?, htext, htruth, hprimitive, hlookup]
    rfl

theorem classifyScalar_eq (t : TypeTable) (name : String) :
    t.classifyScalar name = (t.scalar? name).getD (.opaqueType name) := by
  rw [scalar?, ← builtIn?_eq_lookup, builtIn?, classifyScalar]
  split
  · rfl
  · split
    · rfl
    · cases Primitive.ofName? name with
      | some p => rfl
      | none =>
        cases t.aliases.get? name with
        | some p => rfl
        | none => cases t.enums.get? name <;> rfl

theorem isScalar_of_mem_builtInKinds : ∀ p ∈ builtInKinds, p.2.isScalar = true := by
  decide

/-- Names stand for scalars only. -/
theorem isScalar_of_scalar? {t : TypeTable} {name : String} {kind : FieldKind}
    (h : t.scalar? name = some kind) : kind.isScalar = true := by
  rw [scalar?, Option.or_eq_some_iff, Option.or_eq_some_iff] at h
  rcases h with hbuilt | ⟨-, halias | ⟨-, henum⟩⟩
  · obtain ⟨before, after, hsplit, -⟩ := List.lookup_eq_some_iff.1 hbuilt
    exact isScalar_of_mem_builtInKinds (name, kind) (by simp [hsplit])
  · obtain ⟨p, -, rfl⟩ := Option.map_eq_some_iff.1 halias
    rfl
  · obtain ⟨members, -, rfl⟩ := Option.map_eq_some_iff.1 henum
    rfl

theorem arrayOf_eq (t : TypeTable) (declared element : String) (length : Option Nat) :
    t.arrayOf declared element length
      = ((t.scalar? element).map (.array · length)).getD (.opaqueType declared) := by
  rw [arrayOf, classifyScalar_eq]
  cases hkind : t.scalar? element with
  | none => rfl
  | some kind => exact if_pos (isScalar_of_scalar? hkind)

theorem HasPlainNames.of_mem_aliases {t : TypeTable} (h : t.HasPlainNames) {name : String}
    {p : Primitive} (hname : t.aliases.get? name = some p) :
    isPlainName name = true := by
  refine h name (List.mem_append_left _ ?_)
  exact List.mem_map_of_mem (SortedMap.get?_eq_some_iff.1 hname)

theorem HasPlainNames.of_mem_enums {t : TypeTable} (h : t.HasPlainNames) {name : String}
    {members : List String} (hname : t.enums.get? name = some members) :
    isPlainName name = true := by
  refine h name (List.mem_append_right _ ?_)
  exact List.mem_map_of_mem (SortedMap.get?_eq_some_iff.1 hname)

theorem isPlainName_of_mem_builtInKinds : ∀ p ∈ builtInKinds, isPlainName p.1 = true := by
  decide

/-- A name that stands for a kind is plain. -/
theorem HasPlainNames.of_scalar? {t : TypeTable} (h : t.HasPlainNames) {name : String}
    {kind : FieldKind} (hname : t.scalar? name = some kind) :
    isPlainName name = true := by
  rw [scalar?, Option.or_eq_some_iff, Option.or_eq_some_iff] at hname
  rcases hname with hbuilt | ⟨-, halias | ⟨-, henum⟩⟩
  · obtain ⟨before, after, hsplit, -⟩ := List.lookup_eq_some_iff.1 hbuilt
    exact isPlainName_of_mem_builtInKinds (name, kind) (by simp [hsplit])
  · obtain ⟨p, hp, -⟩ := Option.map_eq_some_iff.1 halias
    exact h.of_mem_aliases hp
  · obtain ⟨members, hmembers, -⟩ := Option.map_eq_some_iff.1 henum
    exact h.of_mem_enums hmembers

/-! ## Arrays -/

theorem openArrayElement?_eq_some_iff {cs element : List Char} :
    openArrayElement? cs = some element ↔ cs = element ++ ['[', ']'] := by
  unfold openArrayElement?
  constructor
  · intro h
    split at h
    · rename_i rest heq
      obtain rfl := Option.some.inj h
      have hcs := congrArg List.reverse heq
      simpa using hcs
    · cases h
  · rintro rfl
    simp

/-- The element is what trimming leaves; where that is nothing, it is blank. -/
theorem elementName?_eq_some {inner element : List Char} (h : elementName? inner = some element) :
    inner.any isArrayMark = false
      ∧ (element = Text.trimRight (Text.trimLeft inner) ∧ element ≠ []
        ∨ ∀ c ∈ element, Text.isBlank c = true) := by
  unfold elementName? at h
  split at h
  · cases h
  · rename_i hmarks
    refine ⟨Bool.eq_false_of_not_eq_true hmarks, ?_⟩
    split at h
    · rename_i hblank
      obtain ⟨last, hlast, rfl⟩ := Option.map_eq_some_iff.1 h
      have htrim : Text.trim (String.ofList inner) = "" := by
        rw [Text.trim, String.toList_ofList, hblank]
      have hall := Text.trim_eq_empty_iff.1 htrim
      rw [Text.isBlankText, String.toList_ofList, List.all_eq_true] at hall
      exact .inr (List.forall_mem_singleton.2 (hall last (List.mem_of_getLast? hlast)))
    · rename_i hname
      obtain rfl := Option.some.inj h
      exact .inl ⟨rfl, hname⟩

theorem elementName?_of_ne_nil {inner : List Char} (hmarks : inner.any isArrayMark = false)
    (hne : Text.trimRight (Text.trimLeft inner) ≠ []) :
    elementName? inner = some (Text.trimRight (Text.trimLeft inner)) := by
  rw [elementName?, hmarks, if_neg (by decide)]
  split
  · rename_i hnil
    exact absurd hnil hne
  · rfl

/-- The parts of a fixed array stand on both sides of its first semicolon. -/
theorem fixedArrayParts?_eq_some_iff {cs element digits : List Char} :
    fixedArrayParts? cs = some (element, digits)
      ↔ ∃ inner outer, cs = '[' :: inner ++ ';' :: outer ++ [']'] ∧ ';' ∉ inner
        ∧ Text.trimRight (Text.trimLeft outer) = digits ∧ digits ≠ []
        ∧ digits.all Text.isDecimalDigit = true ∧ elementName? inner = some element := by
  constructor
  · intro h
    unfold fixedArrayParts? at h
    split at h
    · rename_i inside
      split at h
      · rename_i reversed hreversed
        simp only at h
        split at h
        · rename_i semicolon tail htail
          split at h
          · rename_i hdigits
            obtain ⟨name, hname, heq⟩ := Option.map_eq_some_iff.1 h
            obtain ⟨rfl, rfl⟩ := Prod.mk.inj heq
            have hinside : inside = reversed.reverse ++ [']'] := by
              have hboth := congrArg List.reverse hreversed
              rwa [List.reverse_reverse, List.reverse_cons] at hboth
            have hsemicolon : semicolon = ';' := by
              have hfirst := List.head?_dropWhile_not (· ≠ ';') reversed.reverse
              rw [htail] at hfirst
              simpa using hfirst
            have hparts := List.takeWhile_append_dropWhile (p := (· ≠ ';')) (l := reversed.reverse)
            rw [htail, hsemicolon] at hparts
            refine ⟨_, tail, ?_, fun hmem => ?_, rfl, hdigits.1, hdigits.2, hname⟩
            · rw [hinside, List.cons_append, hparts, List.cons_append]
            · simpa using List.mem_takeWhile_imp hmem
          · cases h
        · cases h
      · cases h
    · cases h
  · rintro ⟨inner, outer, rfl, hinner, rfl, hne, hall, hname⟩
    have hreverse : (inner ++ ';' :: outer ++ [']']).reverse
        = ']' :: (inner ++ ';' :: outer).reverse := by simp
    have hbefore : ∀ c ∈ inner, decide (c ≠ ';') = true := fun c hc =>
      decide_eq_true fun heq => hinner (heq ▸ hc)
    have htake : (inner ++ ';' :: outer).takeWhile (· ≠ ';') = inner := by
      rw [List.takeWhile_append_of_pos hbefore]
      simp
    have hdrop : (inner ++ ';' :: outer).dropWhile (· ≠ ';') = ';' :: outer := by
      rw [List.dropWhile_append_of_pos hbefore]
      simp
    simp only [fixedArrayParts?, List.cons_append, hreverse, List.reverse_reverse, htake, hdrop]
    rw [if_pos ⟨hne, hall⟩, hname]
    rfl

/-! ## Kinds of the forms -/

section Forms

variable (t : TypeTable) {declared : String}

/-- The length that digits stand for: plain digits of a number that is not too great. -/
def lengthOf? (digits : String) : Option Nat :=
  if digits.toList.all Char.isDigit ∧ Nat.ofDigitChars 10 digits.toList 0 ≤ 32 then
    some (Nat.ofDigitChars 10 digits.toList 0)
  else none

theorem arrayLength?_eq_lengthOf? (digits : String) :
    arrayLength? digits.toList = lengthOf? digits := by
  have hvalue : Double.digitsValue digits.toList = Nat.ofDigitChars 10 digits.toList 0 := rfl
  rw [arrayLength?, lengthOf?, hvalue]
  by_cases hall : digits.toList.all Char.isDigit = true
  · rw [if_pos hall, Option.filter_some]
    by_cases hsmall : Nat.ofDigitChars 10 digits.toList 0 ≤ 32
    · exact (if_pos (decide_eq_true hsmall)).trans (if_pos ⟨hall, hsmall⟩).symm
    · exact (if_neg fun h => hsmall (of_decide_eq_true h)).trans (if_neg fun h => hsmall h.2).symm
  · rw [if_neg hall, if_neg fun h => hall h.1]

theorem classify_of_open {element : String} (h : Text.trim declared = element ++ "[]") :
    t.classify declared
      = ((t.scalar? (Text.trim element)).map (.array · none)).getD
          (.opaqueType (Text.trim declared)) := by
  have hopen : openArrayElement? (Text.trim declared).toList = some element.toList := by
    rw [openArrayElement?_eq_some_iff, h, String.toList_append]
    rfl
  simp only [classify, hopen, String.ofList_toList, arrayOf_eq]

/-- A fixed array ends in a digit or white space before its bracket, so it is no array of any length. -/
theorem IsFixedArray.parts {text element digits : String} (h : IsFixedArray text element digits) :
    openArrayElement? text.toList = none
      ∧ fixedArrayParts? text.toList = some (element.toList, digits.toList) := by
  obtain ⟨⟨inner, outer, rfl, rfl, rfl, hunmarked⟩, helement, hdigits, hall⟩ := h
  have hmarks := isUnmarked_iff.1 hunmarked
  have htext : ("[" ++ inner ++ ";" ++ outer ++ "]").toList
      = '[' :: inner.toList ++ ';' :: outer.toList ++ [']'] := by
    simp
  have houter : ∀ c ∈ outer.toList, c ≠ '[' := by
    obtain ⟨before, after, hbefore, hafter, heq⟩ := Text.exists_trim outer
    rw [Text.isBlankText, List.all_eq_true] at hbefore hafter
    rw [heq, String.toList_append, String.toList_append]
    rintro c hc rfl
    rcases List.mem_append.1 hc with hc | hc
    · rcases List.mem_append.1 hc with hc | hc
      · exact absurd (hbefore _ hc) (by decide)
      · exact absurd (List.all_eq_true.1 hall _ hc) (by decide)
    · exact absurd (hafter _ hc) (by decide)
  rw [htext]
  constructor
  · refine Option.eq_none_iff_forall_ne_some.2 fun element' hopen => ?_
    rw [openArrayElement?_eq_some_iff, List.append_cons element', List.append_left_inj] at hopen
    -- What stands before the last bracket would be the other one, but it belongs to the digits.
    have hlast := congrArg List.getLast? hopen
    rw [List.getLast?_append_of_ne_nil _ (List.cons_ne_nil _ _), List.getLast?_concat] at hlast
    rcases List.mem_cons.1 (List.mem_of_getLast? hlast) with heq | hmem
    · cases heq
    · exact houter _ hmem rfl
  · refine fixedArrayParts?_eq_some_iff.2 ⟨inner.toList, outer.toList, rfl, fun hmem => ?_,
      (Text.toList_trim outer).symm, ?_, hall, ?_⟩
    · exact List.any_eq_false.1 hmarks ';' hmem (by decide)
    · simpa using hdigits
    · rw [Text.toList_trim]
      exact elementName?_of_ne_nil hmarks (by rw [← Text.toList_trim]; simpa using helement)

theorem classify_of_fixed {element digits : String}
    (h : IsFixedArray (Text.trim declared) element digits) :
    t.classify declared
      = ((lengthOf? digits).bind fun n => (t.scalar? element).map (.array · (some n))).getD
          (.opaqueType (Text.trim declared)) := by
  obtain ⟨hopen, hparts⟩ := h.parts
  simp only [classify, hopen, hparts, arrayLength?_eq_lengthOf?, String.ofList_toList, arrayOf_eq]
  cases lengthOf? digits with
  | none => rfl
  | some n => rfl

/-- Brackets around a blank element name are the one text that is read as an array without being one;
no name in it stands for a kind. -/
theorem classify_of_name (ht : t.HasPlainNames)
    (hopen : ∀ element, Text.trim declared ≠ element ++ "[]")
    (hfixed : ∀ element digits, ¬ IsFixedArray (Text.trim declared) element digits) :
    t.classify declared
      = (t.scalar? (Text.trim declared)).getD (.opaqueType (Text.trim declared)) := by
  have hnone : openArrayElement? (Text.trim declared).toList = none := by
    refine Option.eq_none_iff_forall_ne_some.2 fun element helement => ?_
    rw [openArrayElement?_eq_some_iff] at helement
    refine hopen (String.ofList element) (String.toList_inj.1 ?_)
    rw [helement, String.toList_append, String.toList_ofList]
    rfl
  cases hparts : fixedArrayParts? (Text.trim declared).toList with
  | none => simp only [classify, hnone, hparts, classifyScalar_eq]
  | some parts =>
    obtain ⟨element, digits⟩ := parts
    obtain ⟨inner, outer, hcs, -, hdigits, hne, hall, hname⟩ := fixedArrayParts?_eq_some_iff.1 hparts
    obtain ⟨hmarks, ⟨helement, hnotnil⟩ | hblank⟩ := elementName?_eq_some hname
    · refine absurd ?_ (hfixed (String.ofList element) (String.ofList digits))
      refine ⟨⟨String.ofList inner, String.ofList outer, String.toList_inj.1 ?_, ?_, ?_, ?_⟩, ?_, ?_, ?_⟩
      · rw [hcs]
        simp
      · rw [helement, Text.trim, String.toList_ofList]
      · rw [← hdigits, Text.trim, String.toList_ofList]
      · rwa [isUnmarked_iff, String.toList_ofList]
      · simpa using hnotnil
      · simpa using hne
      · rwa [String.toList_ofList]
    · have hunnamed : t.scalar? (String.ofList element) = none := by
        refine Option.eq_none_iff_forall_ne_some.2 fun kind hkind => ?_
        have hfilled := (isPlainName_iff.1 (ht.of_scalar? hkind)).1
        rw [Text.isBlankText, String.toList_ofList, List.all_eq_true.2 hblank] at hfilled
        cases hfilled
      have hbracket : t.scalar? (Text.trim declared) = none := by
        refine Option.eq_none_iff_forall_ne_some.2 fun kind hkind => ?_
        refine List.any_eq_false.1 (isPlainName_iff.1 (ht.of_scalar? hkind)).2 '[' ?_ (by decide)
        rw [hcs]
        exact List.mem_cons_self ..
      simp only [classify, hnone, hparts, arrayOf_eq, hunnamed, hbracket]
      cases arrayLength? digits with
      | none => rfl
      | some n => rfl

/-- Over a table with plain names the kind of a declared type is that of its form. Arrays hold scalars,
the fixed ones at most 32, and white space around a declared type does not count. -/
theorem classify_by_grammar (ht : t.HasPlainNames) (declared : String) :
    (∀ element, Text.trim declared = element ++ "[]" →
        t.classify declared
          = ((t.scalar? (Text.trim element)).map (.array · none)).getD
              (.opaqueType (Text.trim declared)))
      ∧ (∀ element digits, IsFixedArray (Text.trim declared) element digits →
        t.classify declared
          = ((lengthOf? digits).bind fun n => (t.scalar? element).map (.array · (some n))).getD
              (.opaqueType (Text.trim declared)))
      ∧ ((∀ element, Text.trim declared ≠ element ++ "[]") →
        (∀ element digits, ¬ IsFixedArray (Text.trim declared) element digits) →
        t.classify declared
          = (t.scalar? (Text.trim declared)).getD (.opaqueType (Text.trim declared)))
      ∧ (∀ element length, t.classify declared = .array element length →
        element.isScalar = true ∧ ∀ n, length = some n → n ≤ 32)
      ∧ ∀ before after, Text.isBlankText before = true → Text.isBlankText after = true →
        t.classify (before ++ declared ++ after) = t.classify declared := by
  refine ⟨fun element h => t.classify_of_open h, fun element digits h => t.classify_of_fixed h,
    t.classify_of_name ht, fun element length h => ?_, fun before after hbefore hafter => ?_⟩
  · have hdeclarable := t.isDeclarable_classify declared
    refine ⟨hdeclarable.isScalar h, fun n hn => ?_⟩
    rw [hn] at h
    exact hdeclarable.length_le h
  · simp only [classify, Text.trim_append hbefore hafter]

end Forms

/-- A table with an alias and an enumeration. -/
def elementTable : TypeTable :=
  ⟨.ofList [("Int32", .i32)], .ofList [("Element", ["Fire", "Water"])]⟩

theorem classify_by_grammar_element :
    elementTable.HasPlainNames
      ∧ elementTable.classify " [ Element ; 0032 ] "
        = .array (.enumeration "Element" ["Fire", "Water"]) (some 32)
      ∧ elementTable.classify "[Int32; 33]" = .opaqueType "[Int32; 33]"
      ∧ elementTable.classify "Int32 []" = .array (.primitive .i32) none
      ∧ elementTable.classify "Int32" = .primitive .i32 := by
  have hplain : elementTable.HasPlainNames := by decide
  refine ⟨hplain, ?_, ?_, ?_, ?_⟩
  · have hfixed : IsFixedArray (Text.trim " [ Element ; 0032 ] ") "Element" "0032" :=
      ⟨⟨" Element ", " 0032 ", by decide⟩, by decide, by decide, by decide⟩
    rw [(classify_by_grammar _ hplain " [ Element ; 0032 ] ").2.1 "Element" "0032" hfixed]
    decide
  · have hfixed : IsFixedArray (Text.trim "[Int32; 33]") "Int32" "33" :=
      ⟨⟨"Int32", " 33", by decide⟩, by decide, by decide, by decide⟩
    rw [(classify_by_grammar _ hplain "[Int32; 33]").2.1 "Int32" "33" hfixed]
    decide
  · rw [(classify_by_grammar _ hplain "Int32 []").1 "Int32 " (by decide)]
    decide
  · have htrim : Text.trim "Int32" = "Int32" := by decide
    have hopen : ∀ element, Text.trim "Int32" ≠ element ++ "[]" := by
      intro element heq
      have hlast := congrArg (·.toList.getLast?) heq
      simp [htrim] at hlast
    have hfixed : ∀ element digits, ¬ IsFixedArray (Text.trim "Int32") element digits := by
      rintro element digits ⟨⟨inner, outer, heq, -⟩, -⟩
      have hfirst := congrArg (·.toList.head?) heq
      simp [htrim] at hfirst
    rw [(classify_by_grammar _ hplain "Int32").2.2.1 hopen hfixed]
    decide

end MasterData.TypeTable
