-- SUMMARY: Keys compare alike as stored values and as values of their types.
import MasterData.Proofs.Index
import MasterData.Proofs.Record.Primitives
import MasterData.Record.Row

/-! # Stored keys and typed keys

An index over stored records compares the stored values of keys, one over rows compares what these are
read as. Both comparisons are partial equivalences, and they agree on the values that cells of a key
column decode to, as none of them is changed by reading. Main statement: `FieldKind.sameKey_decode`.
-/

namespace MasterData

/-! ## Partial equivalence -/

theorem FieldValue.sameKey_iff {a b : FieldValue} :
    a.sameKey b = true ↔ a = b ∧ a.isReflexive = true := by
  simp [sameKey]

theorem FieldValue.sameKey_symm {a b : FieldValue} (h : a.sameKey b) : b.sameKey a := by
  obtain ⟨rfl, ha⟩ := sameKey_iff.1 h
  exact sameKey_iff.2 ⟨rfl, ha⟩

theorem FieldValue.sameKey_trans {a b c : FieldValue} (h : a.sameKey b) (h' : b.sameKey c) :
    a.sameKey c := by
  obtain ⟨rfl, -⟩ := sameKey_iff.1 h
  exact h'

theorem isPartialEquiv_masterRecord : Keyed.IsPartialEquiv MasterRecord where
  symm := FieldValue.sameKey_symm
  trans := FieldValue.sameKey_trans

namespace FieldType

theorem sameKey_primitive {p : Primitive} (a b : p.Value) :
    sameKey (primitive p) a b ↔ a = b := by
  rw [sameKey]
  exact decide_eq_true_iff

theorem sameKey_text (a b : String) : sameKey text a b ↔ a = b := by
  rw [sameKey]
  exact beq_iff_eq

theorem sameKey_bool (a b : Bool) : sameKey bool a b ↔ a = b := by
  rw [sameKey]
  exact beq_iff_eq

theorem sameKey_enumeration {name first : String} {rest : List String}
    (a b : (enumeration name first rest).Value) :
    sameKey (enumeration name first rest) a b ↔ a = b := by
  rw [sameKey]
  exact beq_iff_eq

theorem sameKey_list {element : FieldType} (as bs : (list element).Value) :
    sameKey (list element) as bs = sameKey.go element as bs := by
  rw [sameKey]

theorem sameKey_fixed {element : FieldType} {length : Nat} (as bs : (fixed element length).Value) :
    sameKey (fixed element length) as bs = sameKey.go element as.val bs.val := by
  rw [sameKey]

theorem sameKey_any (a b : FieldValue) : sameKey any a b ↔ a.sameKey b := by
  rw [sameKey]

theorem go_symm {element : FieldType}
    (h : ∀ a b : element.Value, element.sameKey a b → element.sameKey b a)
    {as bs : List element.Value} (hs : sameKey.go element as bs) : sameKey.go element bs as := by
  induction as generalizing bs with
  | nil => cases bs <;> simp_all [sameKey.go]
  | cons a as ih =>
    cases bs with
    | nil => simp [sameKey.go] at hs
    | cons b bs =>
      simp only [sameKey.go, Bool.and_eq_true] at hs ⊢
      exact ⟨h a b hs.1, ih hs.2⟩

theorem go_trans {element : FieldType}
    (h : ∀ a b c : element.Value, element.sameKey a b → element.sameKey b c → element.sameKey a c)
    {as bs cs : List element.Value} (hs : sameKey.go element as bs)
    (hs' : sameKey.go element bs cs) : sameKey.go element as cs := by
  induction as generalizing bs cs with
  | nil => cases bs <;> cases cs <;> simp_all [sameKey.go]
  | cons a as ih =>
    cases bs with
    | nil => simp [sameKey.go] at hs
    | cons b bs =>
      cases cs with
      | nil => simp [sameKey.go] at hs'
      | cons c cs =>
        simp only [sameKey.go, Bool.and_eq_true] at hs hs' ⊢
        exact ⟨h a b c hs.1 hs'.1, ih hs.2 hs'.2⟩

theorem sameKey_symm (t : FieldType) (a b : t.Value) (h : t.sameKey a b) : t.sameKey b a := by
  induction t with
  | primitive p => exact (sameKey_primitive _ _).2 ((sameKey_primitive _ _).1 h).symm
  | text => exact (sameKey_text _ _).2 ((sameKey_text _ _).1 h).symm
  | bool => exact (sameKey_bool _ _).2 ((sameKey_bool _ _).1 h).symm
  | enumeration _ _ _ => exact (sameKey_enumeration _ _).2 ((sameKey_enumeration _ _).1 h).symm
  | list element ih =>
    rw [sameKey_list] at h ⊢
    exact go_symm ih h
  | fixed element _ ih =>
    rw [sameKey_fixed] at h ⊢
    exact go_symm ih h
  | any => exact (sameKey_any _ _).2 (FieldValue.sameKey_symm ((sameKey_any _ _).1 h))

theorem sameKey_trans (t : FieldType) (a b c : t.Value) (h : t.sameKey a b) (h' : t.sameKey b c) :
    t.sameKey a c := by
  induction t with
  | primitive p =>
    exact (sameKey_primitive _ _).2
      (((sameKey_primitive _ _).1 h).trans ((sameKey_primitive _ _).1 h'))
  | text => exact (sameKey_text _ _).2 (((sameKey_text _ _).1 h).trans ((sameKey_text _ _).1 h'))
  | bool => exact (sameKey_bool _ _).2 (((sameKey_bool _ _).1 h).trans ((sameKey_bool _ _).1 h'))
  | enumeration _ _ _ =>
    exact (sameKey_enumeration _ _).2
      (((sameKey_enumeration _ _).1 h).trans ((sameKey_enumeration _ _).1 h'))
  | list element ih =>
    rw [sameKey_list] at h h' ⊢
    exact go_trans ih h h'
  | fixed element _ ih =>
    rw [sameKey_fixed] at h h' ⊢
    exact go_trans ih h h'
  | any =>
    exact (sameKey_any _ _).2
      (FieldValue.sameKey_trans ((sameKey_any _ _).1 h) ((sameKey_any _ _).1 h'))

end FieldType

/-- Keys of one type compare as the type says. -/
theorem Row.sameKey_mk (t : FieldType) (a b : t.Value) :
    Keyed.sameKey (ρ := Row) (⟨t, a⟩ : TypedValue) (⟨t, b⟩ : TypedValue) = t.sameKey a b := by
  simp [Keyed.sameKey]

theorem Row.type_eq_of_sameKey {a b : TypedValue} (h : Keyed.sameKey (ρ := Row) a b) :
    a.1 = b.1 := by
  by_contra hne
  simp [Keyed.sameKey, hne] at h

theorem isPartialEquiv_row : Keyed.IsPartialEquiv Row where
  symm := by
    rintro ⟨t, a⟩ ⟨u, b⟩ h
    obtain rfl : t = u := Row.type_eq_of_sameKey h
    rw [Row.sameKey_mk] at h ⊢
    exact t.sameKey_symm a b h
  trans := by
    rintro ⟨t, a⟩ ⟨u, b⟩ ⟨v, c⟩ h h'
    obtain rfl : t = u := Row.type_eq_of_sameKey h
    obtain rfl : t = v := Row.type_eq_of_sameKey h'
    rw [Row.sameKey_mk] at h h' ⊢
    exact t.sameKey_trans a b c h h'

/-! ## Keys of a kind -/

/-- A value that the cells of a key column decode to. -/
inductive FieldKind.IsKey : FieldKind → FieldValue → Prop where
  | number (p : Primitive) (hp : p.isFloat = false) (x : Double) : IsKey (.primitive p) (p.cast x)
  | text (s : String) : IsKey .string (.text s)
  | bool (b : Bool) : IsKey .boolean (.bool b)
  | member (name : String) {members : List String} {m : String} (hm : m ∈ members) :
    IsKey (.enumeration name members) (.text m)

theorem Primitive.isReflexive_cast {p : Primitive} (hp : p.isFloat = false) (x : Double) :
    (p.cast x).isReflexive = true := by
  cases p <;> first | rfl | cases hp

namespace FieldType

theorem eq_getElem_of_memberIndex? {first m : String} {rest : List String}
    {i : Fin (rest.length + 1)} (h : memberIndex? first rest m = some i) :
    (first :: rest)[i.val] = m := by
  obtain ⟨j, hj, rfl⟩ := Option.map_eq_some_iff.1 h
  exact (List.finIdxOf?_eq_some_iff.1 hj).1

theorem exists_memberIndex? {first m : String} {rest : List String} (h : m ∈ first :: rest) :
    ∃ i, memberIndex? first rest m = some i := by
  refine Option.isSome_iff_exists.1 ?_
  rw [memberIndex?, Option.isSome_map, List.isSome_finIdxOf?]
  simpa using h

theorem memberIndex?_eq_none {first m : String} {rest : List String} (h : m ∉ first :: rest) :
    memberIndex? first rest m = none := by
  rw [memberIndex?, List.finIdxOf?_eq_none_iff.2 h, Option.map_none]

theorem memberIndex?_first (first : String) (rest : List String) :
    memberIndex? first rest first = some 0 := by
  simp [memberIndex?, List.finIdxOf?_cons]

theorem decode_of_read? {t : FieldType} {v : FieldValue} {a : t.Value} (h : t.read? v = some a) :
    t.decode (some v) = a := by
  rw [decode, Option.bind_some, h, Option.getD_some]

theorem decode_primitive {p : Primitive} {v : FieldValue} {a : p.Value} (h : p.read? v = some a) :
    (primitive p).decode (some v) = a :=
  decode_of_read? (by rw [read?]; exact h)

theorem decode_text (s : String) : text.decode (some (.text s)) = s :=
  decode_of_read? (by rw [read?]; rfl)

theorem decode_bool (b : Bool) : bool.decode (some (.bool b)) = b :=
  decode_of_read? (by rw [read?])

theorem read?_member {name first m : String} {rest : List String} {i : Fin (rest.length + 1)}
    (h : memberIndex? first rest m = some i) :
    (enumeration name first rest).read? (.text m) = some i := by
  rw [read?]
  exact h

theorem decode_member {name first m : String} {rest : List String} {i : Fin (rest.length + 1)}
    (h : memberIndex? first rest m = some i) :
    (enumeration name first rest).decode (some (.text m)) = i :=
  decode_of_read? (read?_member h)

end FieldType

/-- Keys of a kind compare alike as stored values and as values of the type of the kind. -/
theorem FieldKind.sameKey_decode {kind : FieldKind} {t : FieldType}
    (ht : FieldType.ofKind? kind = some t) {v w : FieldValue} (hv : kind.IsKey v)
    (hw : kind.IsKey w) : t.sameKey (t.decode (some v)) (t.decode (some w)) = v.sameKey w := by
  rw [Bool.eq_iff_iff, FieldValue.sameKey_iff]
  cases hv with
  | number p hp x =>
    cases hw with
    | number _ _ y =>
      cases ht
      obtain ⟨a, ha, hsa⟩ := Primitive.exists_stored_of_conforms hp (p.conforms_cast x)
      obtain ⟨b, hb, hsb⟩ := Primitive.exists_stored_of_conforms hp (p.conforms_cast y)
      rw [FieldType.decode_primitive ha, FieldType.decode_primitive hb]
      -- What is read has the cast as its stored form, so neither direction loses a bit.
      refine (FieldType.sameKey_primitive a b).trans ⟨?_, ?_⟩
      · rintro rfl
        exact ⟨hsa.symm.trans hsb, p.isReflexive_cast hp x⟩
      · rintro ⟨heq, -⟩
        rw [heq, hb] at ha
        exact (Option.some.inj ha).symm
  | text s =>
    cases hw with
    | text s' =>
      cases ht
      rw [FieldType.decode_text, FieldType.decode_text]
      refine (FieldType.sameKey_text s s').trans ?_
      simp [FieldValue.isReflexive]
  | bool b =>
    cases hw with
    | bool b' =>
      cases ht
      rw [FieldType.decode_bool, FieldType.decode_bool]
      refine (FieldType.sameKey_bool b b').trans ?_
      simp [FieldValue.isReflexive]
  | @member name members m hm =>
    cases hw with
    | @member _ _ m' hm' =>
      cases members with
      | nil => cases hm
      | cons first rest =>
        cases ht
        obtain ⟨i, hi⟩ := FieldType.exists_memberIndex? hm
        obtain ⟨j, hj⟩ := FieldType.exists_memberIndex? hm'
        rw [FieldType.decode_member hi, FieldType.decode_member hj]
        refine (FieldType.sameKey_enumeration i j).trans ⟨?_, ?_⟩
        · rintro rfl
          have heq := (FieldType.eq_getElem_of_memberIndex? hi).symm.trans
            (FieldType.eq_getElem_of_memberIndex? hj)
          exact ⟨by rw [heq], rfl⟩
        · rintro ⟨heq, -⟩
          cases heq
          rw [hi] at hj
          exact Option.some.inj hj

/-! ## Known keys -/

namespace FieldKind

/-- A key as its readers know it: where an enumeration has no such member, its first one. -/
def knownKey (kind : FieldKind) (v : FieldValue) : FieldValue :=
  match kind with
  | .enumeration _ members => if ∃ m ∈ members, v = .text m then v else kind.zero
  | _ => v

theorem knownKey_of_isKey {kind : FieldKind} {v : FieldValue} (h : kind.IsKey v) :
    kind.knownKey v = v := by
  cases h with
  | member name hm => exact if_pos ⟨_, hm, rfl⟩
  | number _ _ _ | text _ | bool _ => rfl

/-- A key and what it is known as are read alike. -/
theorem decode_knownKey {kind : FieldKind} {t : FieldType} (ht : FieldType.ofKind? kind = some t)
    (v : FieldValue) : t.decode (some (kind.knownKey v)) = t.decode (some v) := by
  cases kind with
  | enumeration name members =>
    cases members with
    | nil => cases ht
    | cons first rest =>
      cases ht
      by_cases hv : ∃ m ∈ first :: rest, v = .text m
      · rw [knownKey, if_pos hv]
      · -- What names no member is not read, and an enumeration starts out as its first member.
        have hread : (FieldType.enumeration name first rest).read? v = none := by
          cases v with
          | text m =>
            rw [FieldType.read?]
            exact FieldType.memberIndex?_eq_none fun hm => hv ⟨m, hm, rfl⟩
          | _ =>
            rw [FieldType.read?]
            rfl
        rw [knownKey, if_neg hv]
        refine (FieldType.decode_member (FieldType.memberIndex?_first first rest)).trans ?_
        rw [FieldType.decode, Option.bind_some, hread]
        rfl
  | _ => rfl

/-- The value of a key column is known as a key of its kind, whatever stands in for a cell that does
not decode: only the cells of enumerations may not. -/
theorem isKey_knownKey {kind : FieldKind} {t : FieldType} (ht : FieldType.ofKind? kind = some t)
    (hkind : kind.isHashable) (sheet : Sheet) (a : Address) (standIn : FieldValue) :
    kind.IsKey (kind.knownKey ((kind.decode? sheet a).getD standIn)) := by
  cases kind with
  | primitive p => exact .number p (by simpa [isHashable] using hkind) _
  | string => exact .text _
  | boolean => exact .bool _
  | enumeration name members =>
    cases members with
    | nil => cases ht
    | cons first rest =>
      rw [knownKey]
      split
      · rename_i hv
        obtain ⟨m, hm, heq⟩ := hv
        rw [heq]
        exact .member name hm
      · exact .member name (List.mem_cons_self ..)
  | array _ _ => cases hkind
  | opaqueType _ => cases hkind

end FieldKind

end MasterData
