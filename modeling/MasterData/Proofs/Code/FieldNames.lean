-- SUMMARY: The fields of a record: which columns get which identifiers, and when two of them clash.
import Mathlib.Data.List.Nodup
import Mathlib.Data.List.Perm.Subperm
import MasterData.Proofs.Code.Naming

/-! # Fields of a record

Each column gets the first form of its identifier that no column before it has: the identifier itself,
or one with a number behind it. So the fields of a record are all different as texts. The language
takes no account of the mark that turns a keyword into an identifier, though, and a keyword with a number
behind the mark may meet a column that has the number in its own name.
Main statement: `fields_differ_unless_numbered_keyword`.
-/

namespace MasterData.Naming

/-! ## Numbered forms -/

/-- An identifier with a number. -/
def numbered (base : String) (n : Nat) : String :=
  base ++ "_" ++ toString n

/-- The forms of an identifier: as it is, and with each number from two on. -/
def form (base : String) : Nat → String
  | 0 => base
  | k + 1 => numbered base (k + 2)

@[simp] theorem form_zero (base : String) : form base 0 = base := rfl

@[simp] theorem form_succ (base : String) (k : Nat) : form base (k + 1) = numbered base (k + 2) := rfl

theorem toList_numbered (base : String) (n : Nat) :
    (numbered base n).toList = base.toList ++ '_' :: Nat.toDigits 10 n := by
  simp [numbered, String.toList_append]

theorem not_mem_toDigits {c : Char} (hc : c.isDigit = false) (n : Nat) : c ∉ Nat.toDigits 10 n := by
  intro h
  rw [Nat.isDigit_of_mem_toDigits (by decide) (by decide) h] at hc
  cases hc

/-- A list is cut at the last of its marks in one way only. -/
theorem append_cons_inj_of_not_mem {α : Type} {a : α} {xs ys ds es : List α} (hd : a ∉ ds)
    (he : a ∉ es) (h : xs ++ a :: ds = ys ++ a :: es) : xs = ys ∧ ds = es := by
  obtain ⟨zs, hys, hds⟩ | ⟨zs, hxs, hes⟩ := List.append_eq_append_iff.1 h
  · cases zs with
    | nil => simp_all
    | cons z zs =>
      obtain ⟨rfl, rfl⟩ := List.cons.inj hds
      simp at hd
  · cases zs with
    | nil => simp_all
    | cons z zs =>
      obtain ⟨rfl, rfl⟩ := List.cons.inj hes
      simp at he

theorem numbered_inj {b c : String} {m n : Nat} (h : numbered b m = numbered c n) :
    b = c ∧ m = n := by
  have hlist := congrArg String.toList h
  rw [toList_numbered, toList_numbered] at hlist
  obtain ⟨hbase, hdigits⟩ := append_cons_inj_of_not_mem (not_mem_toDigits rfl m)
    (not_mem_toDigits rfl n) hlist
  exact ⟨String.toList_inj.1 hbase, Text.toDigits_inj.1 hdigits⟩

theorem underscore_mem_numbered (base : String) (n : Nat) : '_' ∈ (numbered base n).toList := by
  simp [toList_numbered]

theorem ne_numbered (base : String) (n : Nat) : base ≠ numbered base n := by
  intro h
  have hlength := congrArg List.length (congrArg String.toList h)
  rw [toList_numbered] at hlength
  simp at hlength

theorem form_inj {base : String} {i j : Nat} : form base i = form base j ↔ i = j := by
  refine ⟨fun h => ?_, fun h => h ▸ rfl⟩
  match i, j with
  | 0, 0 => rfl
  | 0, j + 1 => exact absurd h (ne_numbered base _)
  | i + 1, 0 => exact absurd h.symm (ne_numbered base _)
  | i + 1, j + 1 =>
    have := (numbered_inj h).2
    omega

/-! ## Free forms -/

/-- The identifier is the first form of the base that is not taken. -/
def IsFirstFree (taken : List String) (base ident : String) : Prop :=
  ∃ k, ident = form base k ∧ form base k ∉ taken ∧ ∀ j < k, form base j ∈ taken

/-- Taken identifiers leave one of more numbers than they are many. -/
theorem exists_numbered_not_mem (taken : List String) (base : String) :
    ∃ n ∈ List.range' 2 (taken.length + 1), numbered base n ∉ taken := by
  by_contra! h
  have hnodup : ((List.range' 2 (taken.length + 1)).map (numbered base)).Nodup :=
    List.Nodup.map (fun _ _ heq => (numbered_inj heq).2) (List.nodup_range' ..)
  have hsubset : (List.range' 2 (taken.length + 1)).map (numbered base) ⊆ taken := by
    intro ident hident
    obtain ⟨n, hn, rfl⟩ := List.mem_map.1 hident
    exact h n hn
  have hlength := (List.subperm_of_subset hnodup hsubset).length_le
  rw [List.length_map, List.length_range'] at hlength
  omega

theorem isFirstFree_freshIdent (taken : List String) (base : String) :
    IsFirstFree taken base (freshIdent taken base) := by
  unfold freshIdent
  split
  · rename_i hbase
    obtain ⟨n, hn, hfree⟩ := exists_numbered_not_mem taken base
    have hsome : ((List.range' 2 (taken.length + 1)).find?
        fun n => !taken.contains (numbered base n)).isSome := by
      rw [List.find?_isSome]
      exact ⟨n, hn, by simpa using hfree⟩
    obtain ⟨n, hfind⟩ := Option.isSome_iff_exists.1 hsome
    obtain ⟨hfree, hrange, hfirst⟩ := List.find?_range'_eq_some.1 hfind
    obtain ⟨k, rfl⟩ : ∃ k, n = k + 2 := ⟨n - 2, by simp at hrange; omega⟩
    refine ⟨k + 1, ?_, by simpa [form] using hfree, fun j hj => ?_⟩
    · simp only [List.find?_map]
      exact congrArg (fun found => (Option.map (numbered base) found).getD base) hfind
    · cases j with
      | zero => simpa using hbase
      | succ j => simpa [form] using hfirst (j + 2) (by omega) (by omega)
  · rename_i hbase
    exact ⟨0, rfl, by simpa using hbase, by simp⟩

/-! ## The fields of columns -/

/-- Each column gets the first form that neither what was taken before nor an earlier column has. -/
theorem exists_getElem?_fieldIdentsFrom (taken : List String) {names : List String} {i : Nat}
    {name : String} (hname : names[i]? = some name) :
    ∃ ident, (fieldIdentsFrom taken names)[i]? = some ident
      ∧ IsFirstFree (taken ++ (fieldIdentsFrom taken names).take i) (fieldIdent name) ident := by
  induction names generalizing taken i with
  | nil => simp at hname
  | cons first rest ih =>
    rw [fieldIdentsFrom]
    cases i with
    | zero =>
      obtain rfl : first = name := by simpa using hname
      refine ⟨_, rfl, ?_⟩
      rw [List.take_zero, List.append_nil]
      exact isFirstFree_freshIdent taken (fieldIdent first)
    | succ i =>
      obtain ⟨ident, hident, k, hform, hfree, hbelow⟩ :=
        ih (freshIdent taken (fieldIdent first) :: taken) (i := i) (by simpa using hname)
      refine ⟨ident, by simpa using hident, k, hform, ?_, fun j hj => ?_⟩
      · simpa [or_left_comm] using hfree
      · simpa [or_left_comm] using hbelow j hj

theorem exists_getElem?_fieldIdents {names : List String} {i : Nat} {name : String}
    (hname : names[i]? = some name) :
    ∃ ident, (fieldIdents names)[i]? = some ident
      ∧ IsFirstFree ((fieldIdents names).take i) (fieldIdent name) ident := by
  obtain ⟨ident, hident, hfree⟩ := exists_getElem?_fieldIdentsFrom [] hname
  exact ⟨ident, hident, hfree⟩

theorem exists_form_of_mem_fieldIdents {names : List String} {ident : String}
    (h : ident ∈ fieldIdents names) : ∃ name ∈ names, ∃ k, ident = form (fieldIdent name) k := by
  obtain ⟨i, hi⟩ := List.mem_iff_getElem?.1 h
  have hlt : i < names.length := by
    have := (List.getElem?_eq_some_iff.1 hi).1
    rwa [length_fieldIdents] at this
  obtain ⟨ident', hident', k, hform, -⟩ :=
    exists_getElem?_fieldIdents (List.getElem?_eq_getElem hlt)
  rw [hi, Option.some.injEq] at hident'
  exact ⟨_, List.getElem_mem hlt, k, hident'.trans hform⟩

/-- Some column has the identifier itself for its field, if not this one. -/
theorem fieldIdent_mem_fieldIdents {names : List String} {name : String} (h : name ∈ names) :
    fieldIdent name ∈ fieldIdents names := by
  obtain ⟨i, hi⟩ := List.mem_iff_getElem?.1 h
  obtain ⟨ident, hident, k, hform, -, hbelow⟩ := exists_getElem?_fieldIdents hi
  cases k with
  | zero => exact List.mem_of_getElem? (hform ▸ hident)
  | succ k => exact List.mem_of_mem_take (hbelow 0 (by omega))

theorem nodup_fieldIdentsFrom (taken names : List String) :
    (fieldIdentsFrom taken names).Nodup
      ∧ ∀ ident ∈ fieldIdentsFrom taken names, ident ∉ taken := by
  induction names generalizing taken with
  | nil => simp [fieldIdentsFrom]
  | cons name rest ih =>
    obtain ⟨hnodup, hdisjoint⟩ := ih (freshIdent taken (fieldIdent name) :: taken)
    obtain ⟨k, hform, hfree, -⟩ := isFirstFree_freshIdent taken (fieldIdent name)
    rw [fieldIdentsFrom]
    refine ⟨List.nodup_cons.2 ⟨fun hmem => ?_, hnodup⟩, List.forall_mem_cons.2 ⟨?_, ?_⟩⟩
    · exact hdisjoint _ hmem (List.mem_cons_self ..)
    · rw [hform]
      exact hfree
    · exact fun ident hident htaken => hdisjoint ident hident (List.mem_cons_of_mem _ htaken)

/-- Of the forms of a base, just the first ones are taken. -/
def TakesFirst (taken : List String) (base : String) (i : Nat) : Prop :=
  ∀ j, form base j ∈ taken ↔ j < i

namespace TakesFirst

variable {taken : List String} {base : String} {i k : Nat}

theorem nil (base : String) : TakesFirst [] base 0 := by
  simp [TakesFirst]

/-- The first free form is the one behind those that are taken. -/
theorem eq_of_first_free (h : TakesFirst taken base i) (hfree : form base k ∉ taken)
    (hbelow : ∀ j < k, form base j ∈ taken) : k = i := by
  have hle : i ≤ k := Nat.le_of_not_lt fun hlt => hfree ((h k).2 hlt)
  have hge : ¬ i < k := fun hlt => Nat.lt_irrefl i ((h i).1 (hbelow i hlt))
  omega

theorem cons_next (h : TakesFirst taken base i) : TakesFirst (form base i :: taken) base (i + 1) := by
  intro j
  rw [List.mem_cons, h j, form_inj]
  omega

theorem cons_other {ident : String} (h : TakesFirst taken base i) (hother : ∀ j, form base j ≠ ident) :
    TakesFirst (ident :: taken) base i := by
  intro j
  rw [List.mem_cons, h j]
  exact or_iff_right (hother j)

end TakesFirst

/-- The step for the forms of one base that no other base shares: the columns with that base get the
next forms, one each. -/
theorem form_mem_fieldIdentsFrom_iff {base : String} {names taken : List String} {i : Nat}
    (hown : ∀ name ∈ names, ∀ k j, form (fieldIdent name) k = form base j → fieldIdent name = base)
    (htaken : TakesFirst taken base i) (j : Nat) :
    form base j ∈ fieldIdentsFrom taken names
      ↔ i ≤ j ∧ j < i + (names.map fieldIdent).count base := by
  induction names generalizing taken i with
  | nil =>
    simp only [fieldIdentsFrom, List.not_mem_nil, List.map_nil, List.count_nil, false_iff]
    omega
  | cons name rest ih =>
    have hrest := fun name hname => hown name (List.mem_cons_of_mem _ hname)
    obtain ⟨k, hform, hfree, hbelow⟩ := isFirstFree_freshIdent taken (fieldIdent name)
    rw [fieldIdentsFrom, List.mem_cons, hform, List.map_cons]
    by_cases hbase : fieldIdent name = base
    · subst hbase
      obtain rfl := htaken.eq_of_first_free hfree hbelow
      rw [ih hrest htaken.cons_next, form_inj, List.count_cons_self]
      omega
    · have hother : ∀ j, form base j ≠ form (fieldIdent name) k := fun j h =>
        hbase (hown name (List.mem_cons_self ..) k j h.symm)
      rw [ih hrest (htaken.cons_other hother), or_iff_right (hother j), List.count_cons_of_ne hbase]

/-! ## Marks -/

/-- An identifier as the language compares it: without the mark of keywords. -/
def unmarked (ident : String) : String :=
  match ident.toList with
  | 'r' :: '#' :: cs => String.ofList cs
  | _ => ident

/-- A keyword that the mark turns into an identifier. -/
def IsRawWord (word : String) : Prop :=
  word ∈ keywords ∧ word ∉ strictKeywords

instance (word : String) : Decidable (IsRawWord word) :=
  inferInstanceAs (Decidable (_ ∧ _))

theorem toList_marked (word : String) : ("r#" ++ word).toList = 'r' :: '#' :: word.toList := by
  rw [String.toList_append]
  rfl

@[simp] theorem unmarked_marked (word : String) : unmarked ("r#" ++ word) = word := by
  rw [unmarked, toList_marked]
  exact String.ofList_toList

theorem unmarked_of_not_mem {ident : String} (h : '#' ∉ ident.toList) : unmarked ident = ident := by
  unfold unmarked
  split
  · rename_i cs heq
    rw [heq] at h
    simp at h
  · rfl

theorem not_mem_of_mem_keywords : ∀ word ∈ keywords, '_' ∉ word.toList ∧ '#' ∉ word.toList := by
  decide

theorem hash_not_mem_snakeCase (name : String) : '#' ∉ (snakeCase name).toList := fun h =>
  absurd (forall_mem_snakeCase (P := (Text.isWordPart · = true)) rfl (List.all_eq_true.1 (by decide))
    (fun _ h _ => Text.isWordPart_of_isAlphanumeric h)
    (fun _ h _ hd => Text.isWordPart_of_mem_lowerCase (Text.isWordPart_of_isAlphanumeric h) hd) name
    '#' h) (by decide)

/-- A strict keyword gets an underscore behind it, another keyword the mark in front. -/
theorem fieldIdent_cases (name : String) :
    (snakeCase name ∈ strictKeywords ∧ fieldIdent name = snakeCase name ++ "_")
      ∨ (IsRawWord (snakeCase name) ∧ fieldIdent name = "r#" ++ snakeCase name)
      ∨ (snakeCase name ∉ keywords ∧ fieldIdent name = snakeCase name) := by
  unfold fieldIdent
  simp only [List.contains_eq_mem, decide_eq_true_eq, isKeyword]
  split
  · rename_i hstrict
    exact .inl ⟨hstrict, rfl⟩
  · rename_i hstrict
    split
    · rename_i hkeyword
      exact .inr (.inl ⟨⟨hkeyword, hstrict⟩, rfl⟩)
    · rename_i hkeyword
      exact .inr (.inr ⟨hkeyword, rfl⟩)

variable {name word : String}

/-- Only a keyword gets the mark. -/
theorem isRawWord_of_hash_mem {name : String} (h : '#' ∈ (fieldIdent name).toList) :
    IsRawWord (snakeCase name) ∧ fieldIdent name = "r#" ++ snakeCase name := by
  obtain ⟨-, heq⟩ | hraw | ⟨-, heq⟩ := fieldIdent_cases name
  · rw [heq, String.toList_append, List.mem_append] at h
    exact absurd h (not_or.2 ⟨hash_not_mem_snakeCase name, by decide⟩)
  · exact hraw
  · rw [heq] at h
    exact absurd h (hash_not_mem_snakeCase name)

theorem ne_keyword_of_underscore_mem {ident : String} (h : '_' ∈ ident.toList)
    (hword : word ∈ keywords) : ident ≠ word :=
  fun heq => (not_mem_of_mem_keywords word hword).1 (heq ▸ h)

/-- No field is a bare keyword. -/
theorem fieldIdent_ne_keyword (hword : word ∈ keywords) : fieldIdent name ≠ word := by
  obtain ⟨-, heq⟩ | ⟨-, heq⟩ | ⟨hname, heq⟩ := fieldIdent_cases name
  · rw [heq]
    exact ne_keyword_of_underscore_mem (by simp [String.toList_append]) hword
  · rw [heq]
    rintro rfl
    exact (not_mem_of_mem_keywords _ hword).2 (by simp)
  · rw [heq]
    rintro rfl
    exact hname hword

theorem fieldIdent_eq_marked_iff (hword : IsRawWord word) :
    fieldIdent name = "r#" ++ word ↔ snakeCase name = word := by
  constructor
  · intro h
    have hhash : '#' ∈ (fieldIdent name).toList := by simp [h]
    simpa using congrArg unmarked ((isRawWord_of_hash_mem hhash).2.symm.trans h)
  · rintro rfl
    obtain ⟨hstrict, -⟩ | ⟨-, heq⟩ | ⟨hplain, -⟩ := fieldIdent_cases name
    · exact absurd hstrict hword.2
    · exact heq
    · exact absurd hword.1 hplain

/-- The last character of a numbered form is a digit. -/
theorem numbered_ne_append_underscore (base ident : String) (n : Nat) :
    numbered base n ≠ ident ++ "_" := by
  intro h
  have hlast := congrArg (fun ident => ident.toList.getLast?) h
  obtain ⟨ds, d, hds⟩ : ∃ ds d, Nat.toDigits 10 n = ds ++ [d] :=
    ⟨_, _, (List.dropLast_concat_getLast Nat.toDigits_ne_nil).symm⟩
  have hd : d.isDigit = true :=
    Nat.isDigit_of_mem_toDigits (b := 10) (n := n) (by decide) (by decide) (by simp [hds])
  simp only [toList_numbered, String.toList_append, hds] at hlast
  rw [← List.cons_append, ← List.append_assoc, List.getLast?_concat] at hlast
  obtain rfl : d = '_' := by simpa using hlast
  cases hd

/-- A keyword with a number is no keyword, so only a column of that name has it for its field. -/
theorem fieldIdent_eq_numbered_iff (hword : word ∈ keywords) (n : Nat) :
    fieldIdent name = numbered word n ↔ snakeCase name = numbered word n := by
  have hnumbered : numbered word n ∉ keywords := fun h =>
    ne_keyword_of_underscore_mem (underscore_mem_numbered word n) h rfl
  constructor
  · intro h
    obtain ⟨-, heq⟩ | ⟨-, heq⟩ | ⟨-, heq⟩ := fieldIdent_cases name
    · exact absurd (h.symm.trans heq) (numbered_ne_append_underscore _ _ _)
    · have hhash : '#' ∈ (numbered word n).toList := by simp [← h, heq]
      have hword := (not_mem_of_mem_keywords word hword).2
      simp [toList_numbered, hword, not_mem_toDigits] at hhash
    · exact heq.symm.trans h
  · intro h
    have hsubset : ∀ word ∈ strictKeywords, word ∈ keywords := by decide
    obtain ⟨hstrict, -⟩ | ⟨⟨hkeyword, -⟩, -⟩ | ⟨-, heq⟩ := fieldIdent_cases name
    · exact absurd (h ▸ hsubset _ hstrict) hnumbered
    · exact absurd (h ▸ hkeyword) hnumbered
    · exact heq.trans h

theorem form_marked (word : String) (k : Nat) : form ("r#" ++ word) k = "r#" ++ form word k := by
  cases k <;> simp [numbered, String.append_assoc]

/-- Only the columns that are a keyword have forms of the marked keyword. -/
theorem fieldIdent_eq_of_form_eq (hword : IsRawWord word) {k j : Nat}
    (h : form (fieldIdent name) k = form ("r#" ++ word) j) : fieldIdent name = "r#" ++ word := by
  match k, j with
  | 0, 0 => exact h
  | k + 1, j + 1 => exact (numbered_inj h).1
  | k + 1, 0 =>
    have hunderscore := underscore_mem_numbered (fieldIdent name) (k + 2)
    rw [show numbered (fieldIdent name) (k + 2) = "r#" ++ word from h, toList_marked] at hunderscore
    simp [(not_mem_of_mem_keywords word hword.1).1] at hunderscore
  | 0, j + 1 =>
    rw [form_zero, form_marked, form_succ] at h
    have hhash : '#' ∈ (fieldIdent name).toList := by simp [h]
    obtain ⟨hraw, heq⟩ := isRawWord_of_hash_mem hhash
    have hname := congrArg unmarked (heq.symm.trans h)
    rw [unmarked_marked, unmarked_marked] at hname
    exact absurd hname.symm
      (ne_keyword_of_underscore_mem (underscore_mem_numbered word (j + 2)) hraw.1)

/-- The forms of a marked keyword that are fields: one for each column that is the keyword. -/
theorem form_marked_mem_fieldIdents_iff (hword : IsRawWord word) (names : List String) (j : Nat) :
    form ("r#" ++ word) j ∈ fieldIdents names ↔ j < (names.map snakeCase).count word := by
  have hcount : (names.map fieldIdent).count ("r#" ++ word) = (names.map snakeCase).count word := by
    simp only [List.count, List.countP_map]
    refine List.countP_congr fun name _ => ?_
    simpa using fieldIdent_eq_marked_iff hword
  rw [fieldIdents, form_mem_fieldIdentsFrom_iff
    (fun name _ k j h => fieldIdent_eq_of_form_eq hword h) (.nil _), hcount]
  omega

/-! ## Clashes -/

/-- A form without the mark compares as it is. -/
theorem unmarked_form_of_hash_not_mem (h : '#' ∉ (fieldIdent name).toList) (k : Nat) :
    unmarked (form (fieldIdent name) k) = form (fieldIdent name) k := by
  refine unmarked_of_not_mem ?_
  cases k with
  | zero => exact h
  | succ k => simp [toList_numbered, h, not_mem_toDigits]

/-- A field without the mark that is a marked one otherwise: a keyword with a number, under its own
name. -/
theorem snakeCase_eq_of_unmarked_eq {a b : String} {i j : Nat} (hraw : IsRawWord (snakeCase a))
    (ha : fieldIdent a = "r#" ++ snakeCase a) (hb : '#' ∉ (fieldIdent b).toList)
    (h : unmarked (form (fieldIdent a) i) = unmarked (form (fieldIdent b) j)) :
    ∃ k, i = k + 1 ∧ snakeCase b = numbered (snakeCase a) (k + 2) := by
  rw [ha, form_marked, unmarked_marked, unmarked_form_of_hash_not_mem hb] at h
  cases i with
  | zero =>
    cases j with
    | zero =>
      rw [form_zero, form_zero] at h
      exact absurd h.symm (fieldIdent_ne_keyword hraw.1)
    | succ j =>
      rw [form_zero, form_succ] at h
      exact absurd h.symm (ne_keyword_of_underscore_mem (underscore_mem_numbered ..) hraw.1)
  | succ i =>
    refine ⟨i, rfl, ?_⟩
    cases j with
    | zero =>
      rw [form_zero, form_succ] at h
      exact (fieldIdent_eq_numbered_iff hraw.1 _).1 h.symm
    | succ j =>
      rw [form_succ, form_succ] at h
      exact absurd (numbered_inj h).1.symm (fieldIdent_ne_keyword hraw.1)

/-- Two fields that differ by the mark alone come from a keyword that enough columns are and from a
column that has its name and the number. -/
theorem exists_of_unmarked_eq {names : List String} {a b : String} {i j : Nat} (hb : b ∈ names)
    (hmem : form (fieldIdent a) i ∈ fieldIdents names) (hmarked : '#' ∈ (fieldIdent a).toList)
    (hplain : '#' ∉ (fieldIdent b).toList)
    (h : unmarked (form (fieldIdent a) i) = unmarked (form (fieldIdent b) j)) :
    ∃ word n, IsRawWord word ∧ 2 ≤ n ∧ n ≤ (names.map snakeCase).count word
      ∧ numbered word n ∈ names.map snakeCase := by
  obtain ⟨hraw, heq⟩ := isRawWord_of_hash_mem hmarked
  obtain ⟨k, rfl, hsnake⟩ := snakeCase_eq_of_unmarked_eq hraw heq hplain h
  rw [heq, form_marked_mem_fieldIdents_iff hraw] at hmem
  exact ⟨snakeCase a, k + 2, hraw, by omega, hmem, List.mem_map.2 ⟨b, hb, hsnake⟩⟩

/-- No two fields differ by the mark alone if no keyword meets a column with its number. -/
theorem eq_of_unmarked_eq {names : List String} {x y : String}
    (hclear : ∀ word n, IsRawWord word → 2 ≤ n → n ≤ (names.map snakeCase).count word →
      numbered word n ∉ names.map snakeCase)
    (hx : x ∈ fieldIdents names) (hy : y ∈ fieldIdents names) (h : unmarked x = unmarked y) :
    x = y := by
  obtain ⟨a, ha, i, rfl⟩ := exists_form_of_mem_fieldIdents hx
  obtain ⟨b, hb, j, rfl⟩ := exists_form_of_mem_fieldIdents hy
  by_cases hmarkedA : '#' ∈ (fieldIdent a).toList <;> by_cases hmarkedB : '#' ∈ (fieldIdent b).toList
  · rw [(isRawWord_of_hash_mem hmarkedA).2, (isRawWord_of_hash_mem hmarkedB).2, form_marked,
      form_marked, unmarked_marked, unmarked_marked] at h
    rw [(isRawWord_of_hash_mem hmarkedA).2, (isRawWord_of_hash_mem hmarkedB).2, form_marked,
      form_marked, h]
  · obtain ⟨word, n, hraw, hn, hcount, hmem⟩ := exists_of_unmarked_eq hb hx hmarkedA hmarkedB h
    exact absurd hmem (hclear word n hraw hn hcount)
  · obtain ⟨word, n, hraw, hn, hcount, hmem⟩ := exists_of_unmarked_eq ha hy hmarkedB hmarkedA h.symm
    exact absurd hmem (hclear word n hraw hn hcount)
  · rwa [unmarked_form_of_hash_not_mem hmarkedA, unmarked_form_of_hash_not_mem hmarkedB] at h

/-- The fields of some columns: one for each column in order, the first form of its own identifier that
no column before it has, so that no two of them are the same text. Under the rules of the language, which
takes no account of the mark, they are all different just if there is no keyword, as the snake case of
at least `n` columns, that another column bears with the number `n`. -/
theorem fields_differ_unless_numbered_keyword (names : List String) :
    (fieldIdents names).length = names.length
      ∧ (∀ i name, names[i]? = some name → ∃ ident, (fieldIdents names)[i]? = some ident
        ∧ IsFirstFree ((fieldIdents names).take i) (fieldIdent name) ident)
      ∧ (fieldIdents names).Nodup
      ∧ (((fieldIdents names).map unmarked).Nodup ↔
        ∀ word n, IsRawWord word → 2 ≤ n → n ≤ (names.map snakeCase).count word →
          numbered word n ∉ names.map snakeCase) := by
  have hnodup : (fieldIdents names).Nodup := (nodup_fieldIdentsFrom [] names).1
  refine ⟨length_fieldIdents names, fun i name hname => exists_getElem?_fieldIdents hname, hnodup, ?_⟩
  rw [List.nodup_map_iff_inj_on hnodup]
  constructor
  · intro hinj word n hraw hn hcount hmem
    obtain ⟨k, rfl⟩ : ∃ k, n = k + 2 := ⟨n - 2, by omega⟩
    obtain ⟨name, hname, hsnake⟩ := List.mem_map.1 hmem
    have hplain : numbered word (k + 2) ∈ fieldIdents names := by
      rw [← (fieldIdent_eq_numbered_iff hraw.1 _).2 hsnake]
      exact fieldIdent_mem_fieldIdents hname
    have hmarked : "r#" ++ numbered word (k + 2) ∈ fieldIdents names := by
      rw [← form_succ, ← form_marked]
      exact (form_marked_mem_fieldIdents_iff hraw names (k + 1)).2 hcount
    have hhash : '#' ∉ (numbered word (k + 2)).toList := by
      simp [toList_numbered, (not_mem_of_mem_keywords word hraw.1).2, not_mem_toDigits]
    have heq := hinj _ hmarked _ hplain (by rw [unmarked_marked, unmarked_of_not_mem hhash])
    exact hhash (heq.subst (motive := fun ident => '#' ∈ ident.toList) (by simp))
  · exact fun hclear x hx y hy h => eq_of_unmarked_eq hclear hx hy h

/-- Two columns named for a keyword, and one that has the number of the second in its name. -/
theorem not_nodup_unmarked_numberedKeyword :
    fieldIdents ["type", "Type", "type_2"] = ["r#type", "r#type_2", "type_2"]
      ∧ ¬ ((fieldIdents ["type", "Type", "type_2"]).map unmarked).Nodup := by
  decide +kernel

end MasterData.Naming
