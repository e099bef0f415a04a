-- SUMMARY: Conforming values are read at the types of their kinds, and told apart by what is read.
import MasterData.Proofs.Config.Validation
import MasterData.Proofs.Record.Conformity
import MasterData.Proofs.Record.RowType
import MasterData.Proofs.Record.TypedIndex

/-! # Conforming values as applications read them

What materializing stores conforms to the kind of its column, and applications read it at the type that
generated code declares for the kind. Every conforming value is read there, so that the default of the
type never stands in for one; values without floats are told apart by what is read; and the zero of a kind
is read as the default of its type. Main statement: `typed_values_read_faithfully`.
-/

namespace MasterData

/-! ## Values without floats -/

namespace FieldValue

mutual

/-- Whether no float stands in a value. -/
def isFloatFree : FieldValue → Bool
  | float _ => false
  | array items => areFloatFree items
  | _ => true

def areFloatFree : List FieldValue → Bool
  | [] => true
  | item :: rest => item.isFloatFree && areFloatFree rest

end

end FieldValue

/-! ## Reading -/

namespace Primitive

/-- A value of a type is read, and without floats it is the stored form of what is read. -/
theorem exists_read?_of_conforms {p : Primitive} {v : FieldValue} (hv : p.Conforms v) :
    ∃ a, p.read? v = some a ∧ (v.isFloatFree → p.stored a = v) := by
  cases hp : p.isFloat with
  | false =>
    obtain ⟨a, ha, hstored⟩ := exists_stored_of_conforms hp hv
    exact ⟨a, ha, fun _ => hstored⟩
  | true =>
    cases p with
    | f32 | f64 =>
      cases v with
      | float x => exact ⟨_, rfl, nofun⟩
      | _ => cases hv
    | _ => cases hp

theorem read?_cast_zero (p : Primitive) : p.read? (p.cast .zero) = some p.default := by
  cases p <;> decide +kernel

end Primitive

namespace FieldType

/-- The stored form of a value. -/
def stored : (t : FieldType) → t.Value → FieldValue
  | primitive p, a => p.stored a
  | text, (s : String) => .text s
  | bool, (b : Bool) => .bool b
  | enumeration _ first rest, (i : Fin _) => .text (first :: rest)[i.val]
  | list element, (as : List element.Value) => .array (as.map element.stored)
  | fixed element _, as => .array (as.val.map element.stored)
  | any, (v : FieldValue) => v

/-- A list is read if its items are. -/
theorem read?_list_eq_some_iff {element : FieldType} {items : List FieldValue}
    {as : List element.Value} :
    (list element).read? (.array items) = some as
      ↔ List.Forall₂ (fun v a => element.read? v = some a) items as := by
  rw [read?]
  exact Json.mapM_eq_some_iff

theorem read?_fixed_eq_some {element : FieldType} {length : Nat} {items : List FieldValue}
    {as : List element.Value} (h : List.Forall₂ (fun v a => element.read? v = some a) items as)
    (hlength : as.length = length) :
    (fixed element length).read? (.array items) = some ⟨as, hlength⟩ := by
  rw [read?, FieldValue.asArray?, Option.bind_some, Json.mapM_eq_some_iff.2 h]
  exact dif_pos hlength

/-- Items that are read with their stored forms make a list with its stored form. -/
theorem map_stored_eq {element : FieldType} {items : List FieldValue} {as : List element.Value}
    (h : List.Forall₂ (fun v a => v.isFloatFree → element.stored a = v) items as)
    (hfree : FieldValue.areFloatFree items) : as.map element.stored = items := by
  induction h with
  | nil => rfl
  | cons hitem _ ih =>
    rw [FieldValue.areFloatFree, Bool.and_eq_true] at hfree
    rw [List.map_cons, hitem hfree.1, ih hfree.2]

end FieldType

namespace FieldKind

/-- The step for arrays: if the items are read, each with its stored form, then so is the array. -/
theorem exists_read?_array {element : FieldKind} {length : Option Nat} {t : FieldType}
    (ht : FieldType.ofKind? (.array element length) = some t) {items : List FieldValue}
    (hlength : ∀ n ∈ length, items.length = n)
    (hitems : ∀ u, FieldType.ofKind? element = some u →
      ∀ item ∈ items, ∃ a, u.read? item = some a ∧ (item.isFloatFree → u.stored a = item)) :
    ∃ a, t.read? (.array items) = some a
      ∧ ((FieldValue.array items).isFloatFree → t.stored a = .array items) := by
  cases length with
  | none =>
    obtain ⟨u, hu, rfl⟩ := Option.map_eq_some_iff.1 ht
    obtain ⟨as, has⟩ := Json.exists_forall₂ (hitems u hu)
    refine ⟨as, FieldType.read?_list_eq_some_iff.2 (has.imp fun _ _ h => h.1), fun hfree => ?_⟩
    exact congrArg FieldValue.array (FieldType.map_stored_eq (has.imp fun _ _ h => h.2) hfree)
  | some n =>
    obtain ⟨u, hu, rfl⟩ := Option.map_eq_some_iff.1 ht
    obtain ⟨as, has⟩ := Json.exists_forall₂ (hitems u hu)
    refine ⟨_, FieldType.read?_fixed_eq_some (has.imp fun _ _ h => h.1)
      (has.length_eq.symm.trans (hlength n rfl)), fun hfree => ?_⟩
    exact congrArg FieldValue.array (FieldType.map_stored_eq (has.imp fun _ _ h => h.2) hfree)

/-- Every conforming value is read, and without floats it is the stored form of what is read. -/
theorem exists_read?_of_conforms {kind : FieldKind} {t : FieldType}
    (ht : FieldType.ofKind? kind = some t) {v : FieldValue} (hv : kind.Conforms v) :
    ∃ a, t.read? v = some a ∧ (v.isFloatFree → t.stored a = v) := by
  induction kind generalizing t v with
  | primitive p =>
    cases ht
    exact Primitive.exists_read?_of_conforms hv
  | string =>
    cases ht
    cases v with
    | text s => exact ⟨s, rfl, fun _ => rfl⟩
    | _ => cases hv
  | boolean =>
    cases ht
    cases v with
    | bool b => exact ⟨b, rfl, fun _ => rfl⟩
    | _ => cases hv
  | enumeration name members =>
    cases members with
    | nil => cases ht
    | cons first rest =>
      cases ht
      cases v with
      | text m =>
        obtain ⟨i, hi⟩ := FieldType.exists_memberIndex? hv
        exact ⟨i, FieldType.read?_member hi,
          fun _ => congrArg FieldValue.text (FieldType.eq_getElem_of_memberIndex? hi)⟩
      | _ => cases hv
  | array element length ih =>
    cases v with
    | array items => exact exists_read?_array ht hv.1 fun u hu item hitem => ih hu (hv.2 item hitem)
    | _ => cases hv
  | opaqueType name =>
    cases ht
    exact ⟨v, rfl, fun _ => rfl⟩

/-- The default does not stand in for a conforming value. -/
theorem read?_eq_decode {kind : FieldKind} {t : FieldType} (ht : FieldType.ofKind? kind = some t)
    {v : FieldValue} (hv : kind.Conforms v) : t.read? v = some (t.decode (some v)) := by
  obtain ⟨a, ha, -⟩ := exists_read?_of_conforms ht hv
  rw [FieldType.decode_of_read? ha, ha]

/-- The zero of a kind is read as the default of its type. -/
theorem read?_zero {kind : FieldKind} {t : FieldType} (ht : FieldType.ofKind? kind = some t) :
    t.read? kind.zero = some t.default := by
  induction kind generalizing t with
  | primitive p =>
    cases ht
    exact p.read?_cast_zero
  | string | boolean | opaqueType _ =>
    cases ht
    rfl
  | enumeration name members =>
    cases members with
    | nil => cases ht
    | cons first rest =>
      cases ht
      exact FieldType.read?_member (FieldType.memberIndex?_first first rest)
  | array element length ih =>
    rw [zero]
    cases length with
    | none =>
      obtain ⟨u, hu, rfl⟩ := Option.map_eq_some_iff.1 ht
      exact FieldType.read?_list_eq_some_iff.2 .nil
    | some n =>
      obtain ⟨u, hu, rfl⟩ := Option.map_eq_some_iff.1 ht
      have hitems : List.Forall₂ (fun v a => u.read? v = some a) (.replicate n element.zero)
          (.replicate n u.default) := by
        -- The induction is on the length alone, so what ties it to the type goes first.
        clear ht
        induction n with
        | zero => exact .nil
        | succ n hrest => exact .cons (ih hu) hrest
      exact FieldType.read?_fixed_eq_some hitems List.length_replicate

end FieldKind

/-! ## Types of declared kinds -/

/-- Applications understand what is stored. Under a valid configuration every declared kind has a type,
which is written and declared in generated code as the kind demands. At this type every conforming value
of a record is read, so that the default never stands in for it; conforming values without floats that are
read alike are the same; and the zero of the kind is read as the default of the type. -/
theorem typed_values_read_faithfully {c : Config} (hc : c.IsValid) (declared : String) :
    let kind := c.typeTable.classify declared
    ∃ type, FieldType.ofKind? kind = some type
      ∧ type.sourceText = Naming.fieldType kind
      ∧ type.enum? = RecordModule.enumOfKind? (RecordModule.scalarKind kind)
      ∧ (∀ (r : MasterRecord) (i : Nat) v, r.values[i]? = some v → kind.Conforms v →
        type.read? v = some (type.decode r.values[i]?))
      ∧ (∀ v w, kind.Conforms v → kind.Conforms w → v.isFloatFree → w.isFloatFree →
        type.decode (some v) = type.decode (some w) → v = w)
      ∧ type.read? kind.zero = some type.default := by
  intro kind
  have hkind : kind.IsDeclarable := c.typeTable.isDeclarable_classify declared
  obtain ⟨type, htype⟩ := FieldType.exists_ofKind? hkind fun name members hname =>
    hc.members_ne_nil (c.typeTable.get?_of_classify hname)
  -- From here on only the kind counts, and not the text that declares it.
  clear_value kind
  refine ⟨type, htype, FieldType.sourceText_of_ofKind? htype, FieldType.enum?_of_ofKind? hkind htype,
    fun r i v hv hconforms => ?_, fun v w hv hw hfree hfree' heq => ?_, FieldKind.read?_zero htype⟩
  · rw [hv]
    exact FieldKind.read?_eq_decode htype hconforms
  · obtain ⟨a, ha, hstored⟩ := FieldKind.exists_read?_of_conforms htype hv
    obtain ⟨b, hb, hstored'⟩ := FieldKind.exists_read?_of_conforms htype hw
    rw [FieldType.decode_of_read? ha, FieldType.decode_of_read? hb] at heq
    rw [← hstored hfree, ← hstored' hfree', heq]

theorem typed_values_read_faithfully_elements :
    let kind := elementConfig.typeTable.classify "[Element; 2]"
    let v : FieldValue := .array [.text "Water", .text "Fire"]
    ∃ type, FieldType.ofKind? kind = some type ∧ type.sourceText = "[Element; 2]"
      ∧ type.read? v = some (type.decode (some v))
      ∧ (∀ w, kind.Conforms w → w.isFloatFree → type.decode (some v) = type.decode (some w) → v = w)
      ∧ type.read? (.array [.text "Fire", .text "Fire"]) = some type.default := by
  have hc : elementConfig.IsValid := by decide +kernel
  have hkind : elementConfig.typeTable.classify "[Element; 2]"
      = .array (.enumeration "Element" ["Fire", "Water"]) (some 2) := by
    decide +kernel
  have hv : (elementConfig.typeTable.classify "[Element; 2]").Conforms
      (.array [.text "Water", .text "Fire"]) := by
    rw [hkind]
    simp [FieldKind.Conforms]
  obtain ⟨type, htype, htext, -, hread, hinjective, hzero⟩ :=
    typed_values_read_faithfully hc "[Element; 2]"
  refine ⟨type, htype, ?_, hread ⟨[.array [.text "Water", .text "Fire"]]⟩ 0 _ rfl hv,
    fun w hw hfree => hinjective _ w hv hw rfl hfree, ?_⟩
  · rw [htext, hkind]
    decide +kernel
  · rw [hkind] at hzero
    exact hzero

/-! ## Rows of materialized records -/

theorem RowType.forall₂_read? {columns : List Column} {fields : List (String × FieldType)}
    {values : List FieldValue}
    (hfields : List.Forall₂ (fun (c : Column) f => f.1 = c.fieldName
      ∧ FieldType.ofKind? c.kind = some f.2) columns fields)
    (hvalues : List.Forall₂ (fun (c : Column) v => c.kind.Conforms v) columns values) :
    List.Forall₂ (fun (f : String × FieldType) v => f.2.read? v = some (f.2.decode (some v))) fields
      values := by
  induction hfields generalizing values with
  | nil =>
    cases hvalues
    exact .nil
  | cons hfield _ ih =>
    cases hvalues with
    | cons hv hrest => exact .cons (FieldKind.read?_eq_decode hfield.2 hv) (ih hrest)

/-- What is materialized is read field by field at the row type of its schema, whatever conforming
values it carried over. -/
theorem MasterSchema.IsWellFormed.read?_of_mem_materialize {c : Config} {s : MasterSchema}
    (hs : s.IsWellFormed c.typeTable) (hc : c.IsValid) {sheet : Sheet} {first last : UInt32}
    {prior : Option Asset} (hprior : ∀ a ∈ prior, s.CanCarry a) :
    ∃ t, RowType.ofSchema? s = some t ∧ ∀ r ∈ s.materialize sheet first last prior,
      List.Forall₂ (fun (f : String × FieldType) v => f.2.read? v = some (f.2.decode (some v)))
        t.fields r.values := by
  obtain ⟨-, t, -, ht, -⟩ := hs.exists_rowType hc
  exact ⟨t, ht, fun r hr => RowType.forall₂_read? (RowType.isOf_ofSchema? ht).fields
    (conforms_of_mem_materialize hprior hr)⟩

end MasterData
