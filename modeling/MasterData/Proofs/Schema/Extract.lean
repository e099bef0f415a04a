-- SUMMARY: What holds of every schema that a header block gives.
import Mathlib.Tactic.ByContra
import MasterData.Schema.Extract

/-! # Extracted schemas

All that the later stages rely on about a schema was established when it was extracted: it has fields,
their names differ, their kinds are those that declarations stand for, and the first of them can be a
key. Main statement: `MasterSchema.isExtracted_of_extract`.
-/

namespace MasterData

/-! ## Kinds -/

/-- A kind that a declaration can stand for: its arrays hold scalars, and the fixed ones are not too
long. -/
structure FieldKind.IsDeclarable (kind : FieldKind) : Prop where
  isScalar : ∀ {element length}, kind = .array element length → element.isScalar
  length_le : ∀ {element n}, kind = .array element (some n) → n ≤ TypeTable.maxArrayLength

namespace TypeTable

variable (t : TypeTable)

theorem classifyScalar_ne_array (name : String) (element : FieldKind) (length : Option Nat) :
    t.classifyScalar name ≠ .array element length := by
  unfold classifyScalar
  repeat' split
  all_goals simp

theorem isDeclarable_classifyScalar (name : String) : (t.classifyScalar name).IsDeclarable where
  isScalar h := absurd h (t.classifyScalar_ne_array name _ _)
  length_le h := absurd h (t.classifyScalar_ne_array name _ _)

theorem isDeclarable_opaqueType (name : String) : (FieldKind.opaqueType name).IsDeclarable where
  isScalar h := by cases h
  length_le h := by cases h

theorem isDeclarable_arrayOf (declared element : String) {length : Option Nat}
    (hlength : ∀ n, length = some n → n ≤ maxArrayLength) :
    (t.arrayOf declared element length).IsDeclarable := by
  simp only [arrayOf]
  split
  · rename_i hscalar
    refine ⟨fun h => ?_, fun h => ?_⟩
    · cases h
      exact hscalar
    · cases h
      exact hlength _ rfl
  · exact isDeclarable_opaqueType declared

theorem le_of_arrayLength? {digits : List Char} {n : Nat} (h : arrayLength? digits = some n) :
    n ≤ maxArrayLength := by
  unfold arrayLength? at h
  split at h
  · have hn := (Option.filter_eq_some_iff.1 h).2
    simpa using hn
  · cases h

theorem isDeclarable_classify (declared : String) : (t.classify declared).IsDeclarable := by
  simp only [classify]
  split
  · exact t.isDeclarable_arrayOf _ _ (by simp)
  · split
    · split
      · rename_i hlength
        refine t.isDeclarable_arrayOf _ _ fun n hn => ?_
        exact le_of_arrayLength? (hlength.trans hn)
      · exact isDeclarable_opaqueType _
    · exact t.isDeclarable_classifyScalar _

end TypeTable

/-! ## Columns -/

namespace MasterSchema

theorem kind_of_column? {t : TypeTable} {sheet : Sheet} {row col : UInt32} {c : Column}
    (h : column? t sheet row col = some c) : c.kind = t.classify c.declaredType := by
  simp only [column?] at h
  split at h
  · cases h
  · rw [Option.some.injEq] at h
    rw [← h]

/-- Columns that pass are passed on as they are. Their names differ from each other and from those
seen before, and those in the column of the anchor can be keys. -/
theorem checkColumns_eq_ok {sheet : String} {anchor : Address} {seen : List String}
    {columns checked : List Column} (h : checkColumns sheet anchor seen columns = .ok checked) :
    checked = columns ∧ (columns.map (·.fieldName)).Nodup
      ∧ (∀ c ∈ columns, c.fieldName ∉ seen)
      ∧ ∀ c ∈ columns, c.column = anchor.col → c.kind.isHashable := by
  induction columns generalizing seen checked with
  | nil =>
    cases h
    simp
  | cons c rest ih =>
    unfold checkColumns at h
    split at h
    · cases h
    · rename_i hseen
      split at h
      · cases h
      · rename_i hkey
        cases hrest : checkColumns sheet anchor (c.fieldName :: seen) rest with
        | error e =>
          rw [hrest] at h
          cases h
        | ok checkedRest =>
          rw [hrest] at h
          cases h
          -- The rest was checked with this name among those seen, so `hfresh` speaks of it too.
          obtain ⟨rfl, hnodup, hfresh, hhashable⟩ := ih hrest
          have hc : ∀ d ∈ checkedRest, d.fieldName ≠ c.fieldName := fun d hd heq =>
            hfresh d hd (by simp [heq])
          refine ⟨rfl, ?_, ?_, ?_⟩
          · rw [List.map_cons, List.nodup_cons]
            refine ⟨fun hmem => ?_, hnodup⟩
            obtain ⟨d, hd, heq⟩ := List.mem_map.1 hmem
            exact hc d hd heq
          · rintro d hd
            rcases List.mem_cons.1 hd with rfl | hd
            · simpa using hseen
            · exact fun hmem => hfresh d hd (List.mem_cons_of_mem _ hmem)
          · rintro d hd hcol
            rcases List.mem_cons.1 hd with rfl | hd
            · by_contra hhash
              exact hkey ⟨hcol, by simpa using hhash⟩
            · exact hhashable d hd hcol

/-! ## Schemas -/

/-- What is known of a schema without its sheet. -/
structure IsWellFormed (t : TypeTable) (s : MasterSchema) : Prop where
  fields_ne_nil : s.fields ≠ []
  nodup_fieldNames : s.fieldNames.Nodup
  kind_eq : ∀ c ∈ s.fields, c.kind = t.classify c.declaredType
  isHashable_key : ∀ c ∈ s.keyField?, c.kind.isHashable

/-- A schema that the header block at a place of a sheet gives. -/
structure IsExtracted (t : TypeTable) (workbook : String) (sheet : Sheet) (anchor : Address)
    (s : MasterSchema) : Prop extends s.IsWellFormed t where
  source_eq : s.source = ⟨workbook, sheet.name⟩
  anchor_eq : s.anchor = anchor
  /-- The rows of the header block are rows of a sheet. -/
  row_lt : anchor.row.toNat + headerRows < UInt32.size
  dataStartRow_eq : s.dataStartRow = anchor.row + 4

theorem IsWellFormed.isDeclarable {t : TypeTable} {s : MasterSchema} (h : s.IsWellFormed t) :
    ∀ c ∈ s.fields, c.kind.IsDeclarable := by
  intro c hc
  rw [h.kind_eq c hc]
  exact t.isDeclarable_classify c.declaredType

theorem isExtracted_of_extract {t : TypeTable} {workbook : String} {sheet : Sheet}
    {anchor : Address} {s : MasterSchema} (h : extract t workbook sheet anchor = .ok (some s)) :
    s.IsExtracted t workbook sheet anchor := by
  simp only [extract] at h
  split at h
  · cases h
  · rename_i hrow
    split at h
    · cases h
    · rename_i key columns hcolumns
      split at h
      · cases h
      · rename_i hkey
        cases hchecked : checkColumns sheet.name anchor [] (key :: columns) with
        | error e =>
          rw [hchecked] at h
          cases h
        | ok fields =>
          simp only [hchecked, Except.map, Except.ok.injEq, Option.some.injEq] at h
          subst h
          obtain ⟨rfl, hnodup, -, hhashable⟩ := checkColumns_eq_ok hchecked
          -- Every field comes from a cell of the header block, and that is where its kind is set.
          have hkind : ∀ c ∈ key :: columns, c.kind = t.classify c.declaredType := by
            intro c hc
            rw [← hcolumns] at hc
            obtain ⟨col, -, hcol⟩ := List.mem_filterMap.1 hc
            exact kind_of_column? hcol
          refine ⟨⟨by simp, hnodup, hkind, ?_⟩, rfl, rfl, by simp_all, rfl⟩
          intro c hc
          cases hc
          exact hhashable key (by simp) (by simpa using hkey)

end MasterSchema

end MasterData
