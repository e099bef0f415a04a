-- SUMMARY: Extraction reads the header block below the anchor and nothing else of the columns.
import Mathlib.Tactic.SplitIfs
import MasterData.Proofs.Schema.Extract
import MasterData.Proofs.Sheet

/-! # Header blocks

Extraction looks at the stored cells of the type row, which are few, and adds row numbers that have an
end. Here the rows of the block are counted without one, and its columns are all those from the anchor to
the last type, stored or not. What extraction gives is settled by them: nothing where a part is missing,
the error of the first column that is refused, or else the schema with just these columns. Main
statement: `MasterSchema.extract_reads_block`.
-/

namespace MasterData

/-! ## Rows -/

/-- The rows of the block below an anchor, none of them past the last row of a sheet. -/
structure HeaderRows (anchor : Address) where
  types : UInt32
  names : UInt32
  descriptions : UInt32
  firstRecord : UInt32
  toNat_types : types.toNat = anchor.row.toNat + 1
  toNat_names : names.toNat = anchor.row.toNat + 2
  toNat_descriptions : descriptions.toNat = anchor.row.toNat + 3
  toNat_firstRecord : firstRecord.toNat = anchor.row.toNat + MasterSchema.headerRows

namespace HeaderRows

variable {anchor : Address}

theorem add_eq_of_toNat {row row' n : UInt32} (h : row'.toNat = row.toNat + n.toNat) :
    row + n = row' := by
  refine UInt32.toNat_inj.1 ?_
  rw [UInt32.toNat_add, ← h, Nat.mod_eq_of_lt row'.toNat_lt]

theorem add_eq_types (rows : HeaderRows anchor) : anchor.row + 1 = rows.types :=
  add_eq_of_toNat rows.toNat_types

theorem add_eq_names (rows : HeaderRows anchor) : anchor.row + 2 = rows.names :=
  add_eq_of_toNat rows.toNat_names

theorem add_eq_descriptions (rows : HeaderRows anchor) : anchor.row + 3 = rows.descriptions :=
  add_eq_of_toNat rows.toNat_descriptions

theorem add_eq_firstRecord (rows : HeaderRows anchor) : anchor.row + 4 = rows.firstRecord :=
  add_eq_of_toNat rows.toNat_firstRecord

theorem lt_size (rows : HeaderRows anchor) :
    anchor.row.toNat + MasterSchema.headerRows < UInt32.size :=
  rows.toNat_firstRecord ▸ rows.firstRecord.toNat_lt

/-- A block that fits has its rows. -/
theorem exists_of_lt_size (h : anchor.row.toNat + MasterSchema.headerRows < UInt32.size) :
    Nonempty (HeaderRows anchor) := by
  have hrow (n : UInt32) (hn : n.toNat ≤ MasterSchema.headerRows) :
      (anchor.row + n).toNat = anchor.row.toNat + n.toNat := by
    rw [UInt32.toNat_add]
    exact Nat.mod_eq_of_lt (by simp only [UInt32.size] at h; omega)
  exact ⟨⟨anchor.row + 1, anchor.row + 2, anchor.row + 3, anchor.row + 4, hrow 1 (by decide),
    hrow 2 (by decide), hrow 3 (by decide), hrow 4 (by decide)⟩⟩

/-! ## Columns -/

/-- The declared type at a column of the block. -/
def typeAt (rows : HeaderRows anchor) (sheet : Sheet) (col : UInt32) : String :=
  Text.trim (sheet.textAt ⟨rows.types, col⟩)

/-- The field name at a column of the block. -/
def nameAt (rows : HeaderRows anchor) (sheet : Sheet) (col : UInt32) : String :=
  Text.trim (sheet.textAt ⟨rows.names, col⟩)

/-- The description at a column of the block, with the blanks around it. -/
def descriptionAt (rows : HeaderRows anchor) (sheet : Sheet) (col : UInt32) : String :=
  sheet.textAt ⟨rows.descriptions, col⟩

/-- The column has a type and a name, and is what the rows of the block say of it. -/
structure Declares (rows : HeaderRows anchor) (t : TypeTable) (sheet : Sheet) (c : Column) : Prop where
  declaredType_eq : c.declaredType = rows.typeAt sheet c.column
  fieldName_eq : c.fieldName = rows.nameAt sheet c.column
  description_eq : c.description = rows.descriptionAt sheet c.column
  kind_eq : c.kind = t.classify c.declaredType
  isComplete : c.declaredType ≠ "" ∧ c.fieldName ≠ ""

/-- The columns of the block from the anchor to a last one that have a type and a name, from left to
right. -/
structure AreColumns (rows : HeaderRows anchor) (t : TypeTable) (sheet : Sheet) (last : UInt32)
    (columns : List Column) : Prop where
  increasing : columns.Pairwise (·.column < ·.column)
  mem_iff : ∀ c, c ∈ columns ↔ anchor.col ≤ c.column ∧ c.column ≤ last ∧ rows.Declares t sheet c

/-- Why a column is refused behind those before it: one of them has its name, or it is the key and its
values cannot be keys. -/
def refusal? (rows : HeaderRows anchor) (sheet : Sheet) (before : List Column) (c : Column) :
    Option HeaderError :=
  if c.fieldName ∈ before.map (·.fieldName) then some (.duplicateField sheet.name c.fieldName)
  else if c.column = anchor.col ∧ c.kind.isHashable = false then
    some (.unsupportedKeyType sheet.name (Address.label ⟨rows.types, c.column⟩) c.declaredType)
  else none

/-- A declared type stands in a cell that holds something. -/
theorem Declares.isSome_cell? {rows : HeaderRows anchor} {t : TypeTable} {sheet : Sheet} {c : Column}
    (hc : rows.Declares t sheet c) : (sheet.cell? ⟨rows.types, c.column⟩).isSome := by
  cases hcell : sheet.cell? ⟨rows.types, c.column⟩ with
  | some cell => rfl
  | none =>
    have htype : rows.typeAt sheet c.column = "" := by
      rw [typeAt, Sheet.textAt, hcell]
      decide
    exact absurd (hc.declaredType_eq.trans htype) hc.isComplete.1

/-- No column is refused behind those before it. -/
def Accepts (rows : HeaderRows anchor) (sheet : Sheet) (columns : List Column) : Prop :=
  ∀ before c after, columns = before ++ c :: after → rows.refusal? sheet before c = none

/-- The first column that is refused is refused with an error. -/
def Refuses (rows : HeaderRows anchor) (sheet : Sheet) (columns : List Column) (e : HeaderError) :
    Prop :=
  ∃ before c after, columns = before ++ c :: after
    ∧ rows.Accepts sheet before ∧ rows.refusal? sheet before c = some e

variable {rows : HeaderRows anchor} {t : TypeTable} {sheet : Sheet} {columns : List Column}
  {e : HeaderError}

theorem accepts_nil (rows : HeaderRows anchor) (sheet : Sheet) : rows.Accepts sheet [] := by
  intro before c after h
  simp at h

theorem Accepts.append_singleton {c : Column} (h : rows.Accepts sheet columns)
    (hc : rows.refusal? sheet columns c = none) : rows.Accepts sheet (columns ++ [c]) := by
  intro before c' after heq
  rcases List.eq_nil_or_concat after with rfl | ⟨after, d, rfl⟩
  · obtain ⟨rfl, hlast⟩ := List.append_inj' heq rfl
    obtain rfl := List.singleton_inj.1 hlast
    exact hc
  · rw [List.concat_eq_append, ← List.cons_append, ← List.append_assoc] at heq
    exact h before c' after (List.append_inj' heq rfl).1

theorem Refuses.not_accepts (h : rows.Refuses sheet columns e) : ¬ rows.Accepts sheet columns := by
  obtain ⟨before, c, after, heq, -, hc⟩ := h
  intro haccepts
  simp [haccepts before c after heq] at hc

/-- Columns that are accepted end where one is refused. -/
theorem Accepts.eq_nil_of_refusal? {before between after rest : List Column} {c : Column}
    (h : rows.Accepts sheet (before ++ between)) (hc : rows.refusal? sheet before c = some e)
    (hrest : c :: after = between ++ rest) : between = [] := by
  cases between with
  | nil => rfl
  | cons d between =>
    cases hrest
    simp [h before c between rfl] at hc

/-- There is one first column that is refused. -/
theorem Refuses.unique {e' : HeaderError} (h : rows.Refuses sheet columns e)
    (h' : rows.Refuses sheet columns e') : e = e' := by
  obtain ⟨before, c, after, heq, haccepts, hc⟩ := h
  obtain ⟨before', c', after', heq', haccepts', hc'⟩ := h'
  rcases List.append_eq_append_iff.1 (heq.symm.trans heq') with ⟨between, rfl, hrest⟩ |
    ⟨between, rfl, hrest⟩
  · obtain rfl := haccepts'.eq_nil_of_refusal? hc hrest
    cases hrest
    rw [List.append_nil, hc] at hc'
    exact Option.some.inj hc'
  · obtain rfl := haccepts.eq_nil_of_refusal? hc' hrest
    cases hrest
    rw [List.append_nil, hc'] at hc
    exact (Option.some.inj hc).symm

end HeaderRows

/-! ## Checking columns -/

namespace MasterSchema

variable {anchor : Address} {sheet : Sheet} {t : TypeTable}

/-- One step of the check: a column is refused or joins those before it. -/
theorem checkColumns_cons (rows : HeaderRows anchor) (done : List Column) (c : Column)
    (rest : List Column) :
    checkColumns sheet.name anchor (done.reverse.map (·.fieldName)) (c :: rest)
      = match rows.refusal? sheet done c with
        | some e => .error e
        | none =>
          (checkColumns sheet.name anchor ((done ++ [c]).reverse.map (·.fieldName)) rest).map
            (c :: ·) := by
  have hseen : (done.reverse.map (·.fieldName)).contains c.fieldName
      ↔ c.fieldName ∈ done.map (·.fieldName) := by
    simp
  rw [checkColumns, HeaderRows.refusal?, rows.add_eq_types]
  simp only [hseen, Bool.not_eq_true']
  split_ifs <;> simp

/-- The run of the check: behind columns that are accepted it goes through if all are, and ends with the
error of the first one that is refused. -/
theorem checkColumns_cases (rows : HeaderRows anchor) {done : List Column}
    (hdone : rows.Accepts sheet done) (columns : List Column) :
    (rows.Accepts sheet (done ++ columns)
        ∧ checkColumns sheet.name anchor (done.reverse.map (·.fieldName)) columns = .ok columns)
      ∨ ∃ e, rows.Refuses sheet (done ++ columns) e
        ∧ checkColumns sheet.name anchor (done.reverse.map (·.fieldName)) columns = .error e := by
  induction columns generalizing done with
  | nil => exact .inl ⟨by rwa [List.append_nil], rfl⟩
  | cons c rest ih =>
    rw [checkColumns_cons rows]
    cases hc : rows.refusal? sheet done c with
    | some e => exact .inr ⟨e, ⟨done, c, rest, rfl, hdone, hc⟩, rfl⟩
    | none =>
      have hrest := ih (hdone.append_singleton hc)
      rw [List.append_assoc, List.singleton_append] at hrest
      rcases hrest with ⟨haccepts, hcheck⟩ | ⟨e, hrefuses, hcheck⟩
      · exact .inl ⟨haccepts, by rw [hcheck]; rfl⟩
      · exact .inr ⟨e, hrefuses, by rw [hcheck]; rfl⟩

theorem checkColumns_nil_cases (rows : HeaderRows anchor) (sheet : Sheet) (columns : List Column) :
    (rows.Accepts sheet columns ∧ checkColumns sheet.name anchor [] columns = .ok columns)
      ∨ ∃ e, rows.Refuses sheet columns e ∧ checkColumns sheet.name anchor [] columns = .error e :=
  checkColumns_cases rows (rows.accepts_nil sheet) columns

theorem checkColumns_eq_ok_iff (rows : HeaderRows anchor) {columns checked : List Column} :
    checkColumns sheet.name anchor [] columns = .ok checked
      ↔ rows.Accepts sheet columns ∧ checked = columns := by
  obtain ⟨haccepts, hcheck⟩ | ⟨e, hrefuses, hcheck⟩ := checkColumns_nil_cases rows sheet columns
  · rw [hcheck, Except.ok.injEq, eq_comm]
    exact (and_iff_right haccepts).symm
  · rw [hcheck]
    exact ⟨nofun, fun h => absurd h.1 hrefuses.not_accepts⟩

theorem checkColumns_eq_error_iff (rows : HeaderRows anchor) {columns : List Column}
    {e : HeaderError} :
    checkColumns sheet.name anchor [] columns = .error e ↔ rows.Refuses sheet columns e := by
  obtain ⟨haccepts, hcheck⟩ | ⟨e', hrefuses, hcheck⟩ := checkColumns_nil_cases rows sheet columns
  · rw [hcheck]
    exact ⟨nofun, fun h => absurd haccepts h.not_accepts⟩
  · rw [hcheck, Except.error.injEq]
    exact ⟨fun h => h ▸ hrefuses, hrefuses.unique⟩

/-! ## Finding columns -/

/-- The columns that extraction checks: those of the stored cells of the type row. -/
def storedColumns (t : TypeTable) (sheet : Sheet) (anchor : Address) : List Column :=
  (((sheet.rowCells (anchor.row + 1)).map (·.1)).filter (anchor.col ≤ ·)).filterMap
    (column? t sheet anchor.row)

theorem column?_eq_some_iff (rows : HeaderRows anchor) {col : UInt32} {c : Column} :
    column? t sheet anchor.row col = some c ↔ c.column = col ∧ rows.Declares t sheet c := by
  obtain ⟨column, declaredType, kind, fieldName, description⟩ := c
  simp only [column?, rows.add_eq_types, rows.add_eq_names, rows.add_eq_descriptions]
  constructor
  · intro h
    split at h
    · cases h
    · rename_i hcomplete
      simp only [Option.some.injEq, Column.mk.injEq] at h
      obtain ⟨rfl, htype, hkind, hname, hdescription⟩ := h
      rw [htype, hname, not_or] at hcomplete
      exact ⟨rfl, htype.symm, hname.symm, hdescription.symm, htype ▸ hkind.symm, hcomplete⟩
  · rintro ⟨rfl, htype, hname, hdescription, hkind, hcomplete⟩
    rw [← HeaderRows.typeAt, ← HeaderRows.nameAt, ← HeaderRows.descriptionAt, ← htype, ← hname,
      ← hdescription, ← hkind]
    exact if_neg (not_or.2 hcomplete)

theorem exists_column? (rows : HeaderRows anchor) (t : TypeTable) {col : UInt32}
    (hcomplete : rows.typeAt sheet col ≠ "" ∧ rows.nameAt sheet col ≠ "") :
    ∃ c, column? t sheet anchor.row col = some c := by
  rw [HeaderRows.typeAt, HeaderRows.nameAt, ← rows.add_eq_types, ← rows.add_eq_names] at hcomplete
  exact ⟨_, if_neg (not_or.2 hcomplete)⟩

theorem mem_storedColumns_iff (rows : HeaderRows anchor) {c : Column} :
    c ∈ storedColumns t sheet anchor ↔ anchor.col ≤ c.column ∧ rows.Declares t sheet c := by
  simp only [storedColumns, List.mem_filterMap, column?_eq_some_iff rows, List.mem_filter,
    decide_eq_true_iff, List.mem_map, Prod.exists, exists_and_right, exists_eq_right,
    Sheet.mem_rowCells_iff, rows.add_eq_types]
  constructor
  · rintro ⟨col, ⟨-, hle⟩, rfl, hc⟩
    exact ⟨hle, hc⟩
  · rintro ⟨hle, hc⟩
    exact ⟨c.column, ⟨Option.isSome_iff_exists.1 hc.isSome_cell?, hle⟩, rfl, hc⟩

theorem pairwise_storedColumns (rows : HeaderRows anchor) (t : TypeTable) (sheet : Sheet) :
    (storedColumns t sheet anchor).Pairwise (·.column < ·.column) := by
  have hcells : ((sheet.rowCells (anchor.row + 1)).map (·.1)).Pairwise (· < ·) :=
    List.pairwise_map.2 (sheet.pairwise_rowCells _)
  refine List.Pairwise.filterMap _ ?_ (hcells.sublist List.filter_sublist)
  intro col col' hlt c hc c' hc'
  rw [((column?_eq_some_iff rows).1 hc).1, ((column?_eq_some_iff rows).1 hc').1]
  exact hlt

/-- A complete column has a cell in the type row, so none is missed. -/
theorem areColumns_storedColumns (rows : HeaderRows anchor) (t : TypeTable) {last : UInt32}
    (hlast : sheet.lastCol? rows.types = some last) :
    rows.AreColumns t sheet last (storedColumns t sheet anchor) where
  increasing := pairwise_storedColumns rows t sheet
  mem_iff c := by
    rw [mem_storedColumns_iff rows]
    exact and_congr_right fun _ =>
      ⟨fun hc => ⟨(Sheet.lastCol?_eq_some_iff.1 hlast).2 _ hc.isSome_cell?, hc⟩, And.right⟩

/-- With a type and a name the column of the anchor is the first one. -/
theorem exists_key (rows : HeaderRows anchor) (t : TypeTable) (sheet : Sheet)
    (hcomplete : rows.typeAt sheet anchor.col ≠ "" ∧ rows.nameAt sheet anchor.col ≠ "") :
    ∃ key rest, storedColumns t sheet anchor = key :: rest ∧ key.column = anchor.col := by
  obtain ⟨c, hc⟩ := exists_column? rows t hcomplete
  obtain ⟨hcol, hc⟩ := (column?_eq_some_iff rows).1 hc
  have hc := (mem_storedColumns_iff rows).2 ⟨hcol ▸ UInt32.le_refl _, hc⟩
  cases hcolumns : storedColumns t sheet anchor with
  | nil => simp [hcolumns] at hc
  | cons key rest =>
    refine ⟨key, rest, rfl, ?_⟩
    have hkey : anchor.col ≤ key.column :=
      ((mem_storedColumns_iff rows).1 (hcolumns ▸ List.mem_cons_self ..)).1
    rw [hcolumns] at hc
    rcases List.mem_cons.1 hc with rfl | hc
    · exact hcol
    · have hsorted := pairwise_storedColumns rows t sheet
      rw [hcolumns] at hsorted
      have hlt := (List.pairwise_cons.1 hsorted).1 c hc
      exact absurd hkey (UInt32.not_le.2 (hcol ▸ hlt))

/-! ## Extraction -/

/-- Why a sheet declares no master at an anchor. -/
inductive DeclaresNone (sheet : Sheet) (anchor : Address) : Prop where
  /-- The first cell of the sheet names no master. -/
  | unnamed (h : Text.trim (sheet.textAt nameCell) = "")
  /-- The sheet ends above the first record. -/
  | tooLow (h : UInt32.size ≤ anchor.row.toNat + headerRows)
  /-- The type row holds nothing at the anchor or to the right of it. -/
  | untyped (rows : HeaderRows anchor)
    (h : ∀ col, anchor.col ≤ col → sheet.cell? ⟨rows.types, col⟩ = none)
  /-- The column of the anchor lacks its type or its name. -/
  | keyless (rows : HeaderRows anchor)
    (h : rows.typeAt sheet anchor.col = "" ∨ rows.nameAt sheet anchor.col = "")

/-- The schema is what the sheet says around the columns of the block. Its fields are these columns, and
the first of them, in the column of the anchor, is the key. -/
structure ReadsAs (rows : HeaderRows anchor) (workbook : String) (sheet : Sheet)
    (columns : List Column) (s : MasterSchema) : Prop where
  masterName_eq : s.masterName = Text.trim (sheet.textAt nameCell)
  masterDescription_eq : s.masterDescription = sheet.textAt descriptionCell
  fields_eq : s.fields = columns
  nodup_fieldNames : s.fieldNames.Nodup
  key : ∃ key, s.keyField? = some key ∧ key.column = anchor.col ∧ key.kind.isHashable
    ∧ s.keyType = key.declaredType
  keyColumn_eq : s.keyColumn = anchor.col
  source_eq : s.source = ⟨workbook, sheet.name⟩
  anchor_eq : s.anchor = anchor
  dataStartRow_eq : s.dataStartRow = rows.firstRecord

/-- The schema that a sheet gives around a key and its fields. -/
def schemaAround (rows : HeaderRows anchor) (workbook : String) (sheet : Sheet) (key : Column)
    (fields : List Column) : MasterSchema where
  masterName := Text.trim (sheet.textAt nameCell)
  masterDescription := sheet.textAt descriptionCell
  keyType := key.declaredType
  keyColumn := anchor.col
  fields
  source := ⟨workbook, sheet.name⟩
  anchor
  dataStartRow := rows.firstRecord

section Extract

variable {workbook : String}

/-- Columns that are accepted, the first one in the column of the anchor, can be those of a schema. -/
theorem readsAs_iff {rows : HeaderRows anchor} {key : Column} {rest : List Column} {s : MasterSchema}
    (haccepts : rows.Accepts sheet (key :: rest)) (hkey : key.column = anchor.col) :
    ReadsAs rows workbook sheet (key :: rest) s
      ↔ schemaAround rows workbook sheet key (key :: rest) = s := by
  constructor
  · rintro ⟨hname, hdescription, hfields, -, ⟨key', hkeyField, -, -, htype⟩, hcolumn, hsource,
      hanchor, hfirst⟩
    rw [keyField?, hfields, List.head?_cons, Option.some.injEq] at hkeyField
    cases s
    simp only at hname hdescription hfields htype hcolumn hsource hanchor hfirst
    rw [schemaAround, hname, hdescription, hfields, htype, hkeyField, hcolumn, hsource, hanchor,
      hfirst]
  · rintro rfl
    obtain ⟨-, hnodup, -, hhashable⟩ :=
      checkColumns_eq_ok ((checkColumns_eq_ok_iff rows).2 ⟨haccepts, rfl⟩)
    exact ⟨rfl, rfl, rfl, hnodup,
      ⟨key, rfl, hkey, hhashable key (List.mem_cons_self ..) hkey, rfl⟩, rfl, rfl, rfl, rfl⟩

/-- The columns are checked once there is a name and the block has its rows. -/
theorem extract_eq (rows : HeaderRows anchor) (hname : Text.trim (sheet.textAt nameCell) ≠ "") :
    extract t workbook sheet anchor
      = match storedColumns t sheet anchor with
        | [] => .ok none
        | key :: rest =>
          if key.column ≠ anchor.col then .ok none
          else (checkColumns sheet.name anchor [] (key :: rest)).map fun fields =>
            some (schemaAround rows workbook sheet key fields) := by
  rw [extract, if_neg (not_or.2 ⟨hname, Nat.not_le.2 rows.lt_size⟩), rows.add_eq_firstRecord]
  rfl

theorem extract_of_keyless (rows : HeaderRows anchor)
    (h : rows.typeAt sheet anchor.col = "" ∨ rows.nameAt sheet anchor.col = "") :
    extract t workbook sheet anchor = .ok none := by
  by_cases hname : Text.trim (sheet.textAt nameCell) = ""
  · rw [extract, if_pos (.inl hname)]
  · rw [extract_eq rows hname]
    cases hcolumns : storedColumns t sheet anchor with
    | nil => rfl
    | cons key rest =>
      refine if_pos fun hkey => ?_
      have hc := ((mem_storedColumns_iff rows).1 (hcolumns ▸ List.mem_cons_self ..)).2
      rw [← hkey, ← hc.declaredType_eq, ← hc.fieldName_eq] at h
      exact h.elim hc.isComplete.1 hc.isComplete.2

theorem DeclaresNone.extract_eq (h : DeclaresNone sheet anchor) :
    extract t workbook sheet anchor = .ok none := by
  cases h with
  | unnamed h => rw [extract, if_pos (.inl h)]
  | tooLow h => rw [extract, if_pos (.inr h)]
  | untyped rows h =>
    refine extract_of_keyless rows (.inl ?_)
    rw [HeaderRows.typeAt, Sheet.textAt, h anchor.col (UInt32.le_refl _)]
    decide
  | keyless rows h => exact extract_of_keyless rows h

/-- Where a master is declared, its block has rows, and the key is the first of its columns. -/
theorem exists_of_not_declaresNone (t : TypeTable) (h : ¬ DeclaresNone sheet anchor) :
    Text.trim (sheet.textAt nameCell) ≠ ""
      ∧ ∃ (rows : HeaderRows anchor) (last : UInt32) (key : Column) (rest : List Column),
        sheet.lastCol? rows.types = some last
          ∧ storedColumns t sheet anchor = key :: rest ∧ key.column = anchor.col := by
  refine ⟨fun hname => h (.unnamed hname), ?_⟩
  obtain ⟨rows⟩ := HeaderRows.exists_of_lt_size (Nat.lt_of_not_le fun hlow => h (.tooLow hlow))
  obtain ⟨key, rest, hcolumns, hkey⟩ := exists_key rows t sheet
    ⟨fun htype => h (.keyless rows (.inl htype)), fun hname => h (.keyless rows (.inr hname))⟩
  have hcell := ((mem_storedColumns_iff rows).1 (hcolumns ▸ List.mem_cons_self ..)).2.isSome_cell?
  cases hlast : sheet.lastCol? rows.types with
  | none => simp [Sheet.lastCol?_eq_none_iff.1 hlast] at hcell
  | some last => exact ⟨rows, last, key, rest, hlast, hcolumns, hkey⟩

/-- Behind the exits, what extraction gives is what the check of the columns gives. -/
theorem extract_of_key (rows : HeaderRows anchor) (hname : Text.trim (sheet.textAt nameCell) ≠ "")
    {key : Column} {rest : List Column} (hcolumns : storedColumns t sheet anchor = key :: rest)
    (hkey : key.column = anchor.col) :
    extract t workbook sheet anchor
      = (checkColumns sheet.name anchor [] (key :: rest)).map fun fields =>
          some (schemaAround rows workbook sheet key fields) := by
  rw [extract_eq rows hname, hcolumns]
  exact if_neg (not_not.2 hkey)

/-- Extraction reads the header block and nothing else of the columns. It gives no schema exactly where
none is declared; elsewhere the columns of the block decide between the error of the first of them that
is refused and the schema with all of them. -/
theorem extract_reads_block (t : TypeTable) (workbook : String) (sheet : Sheet) (anchor : Address) :
    (extract t workbook sheet anchor = .ok none ↔ DeclaresNone sheet anchor)
      ∧ (¬ DeclaresNone sheet anchor →
        ∃ (rows : HeaderRows anchor) (last : UInt32) (columns : List Column),
          sheet.lastCol? rows.types = some last ∧ rows.AreColumns t sheet last columns
            ∧ (∀ e, extract t workbook sheet anchor = .error e ↔ rows.Refuses sheet columns e)
            ∧ ∀ s, extract t workbook sheet anchor = .ok (some s)
              ↔ rows.Accepts sheet columns ∧ ReadsAs rows workbook sheet columns s) := by
  by_cases hnone : DeclaresNone sheet anchor
  · exact ⟨iff_of_true hnone.extract_eq hnone, fun h => absurd hnone h⟩
  obtain ⟨hname, rows, last, key, rest, hlast, hcolumns, hkey⟩ := exists_of_not_declaresNone t hnone
  have hextract : extract t workbook sheet anchor = _ := extract_of_key rows hname hcolumns hkey
  have hare := areColumns_storedColumns rows t hlast
  rw [hcolumns] at hare
  rw [hextract]
  refine ⟨iff_of_false ?_ hnone, fun _ => ⟨rows, last, key :: rest, hlast, hare, fun e => ?_,
    fun s => ?_⟩⟩
  · cases checkColumns sheet.name anchor [] (key :: rest) <;> simp [Except.map]
  · rw [← checkColumns_eq_error_iff rows]
    cases checkColumns sheet.name anchor [] (key :: rest) <;> simp [Except.map]
  · constructor
    · intro h
      cases hcheck : checkColumns sheet.name anchor [] (key :: rest) with
      | error e => simp [hcheck, Except.map] at h
      | ok checked =>
        obtain ⟨haccepts, rfl⟩ := (checkColumns_eq_ok_iff rows).1 hcheck
        simp only [hcheck, Except.map, Except.ok.injEq, Option.some.injEq] at h
        exact ⟨haccepts, (readsAs_iff haccepts hkey).2 h⟩
    · rintro ⟨haccepts, hreads⟩
      rw [(checkColumns_eq_ok_iff rows).2 ⟨haccepts, rfl⟩, ← (readsAs_iff haccepts hkey).1 hreads]
      rfl

/-- A sheet whose block has a column without a name, one whose type is no text, and a name without a
type behind them. -/
def gapSheet : Sheet :=
  [(⟨0, 0⟩, .text "Item"), (⟨1, 1⟩, .text "@"),
    (⟨2, 0⟩, .text "string"), (⟨3, 0⟩, .text "note"),
    (⟨2, 1⟩, .text " int "), (⟨3, 1⟩, .text "id"),
    (⟨2, 2⟩, .text "float"),
    (⟨2, 4⟩, .text "[int; 3]"), (⟨3, 4⟩, .boolean true), (⟨4, 4⟩, .text " wide "),
    (⟨2, 5⟩, .number (.ofInt 7)), (⟨3, 5⟩, .text "id"),
    (⟨3, 6⟩, .text "id")].foldl
    (fun sheet (a, cell) => sheet.set a cell) (Sheet.named "Items")

/-- The schema of that sheet. -/
def gapSchema : MasterSchema where
  masterName := "Item"
  masterDescription := ""
  keyType := "int"
  keyColumn := 1
  fields := [⟨1, "int", .primitive .i32, "id", ""⟩,
    ⟨4, "[int; 3]", .array (.primitive .i32) (some 3), "true", " wide "⟩]
  source := ⟨"book.json", "Items"⟩
  anchor := ⟨1, 1⟩
  dataStartRow := 5

/-- The gaps are left out. With a type the name behind them counts, and is refused as the one of the
key. -/
theorem extract_reads_block_gaps :
    (∃ (rows : HeaderRows ⟨1, 1⟩) (columns : List Column),
      rows.AreColumns .empty gapSheet 5 columns ∧ rows.Accepts gapSheet columns
        ∧ ReadsAs rows "book.json" gapSheet columns gapSchema)
      ∧ ∃ (rows : HeaderRows ⟨1, 1⟩) (columns : List Column),
        rows.AreColumns .empty (gapSheet.set ⟨2, 6⟩ (.text "bool")) 6 columns
          ∧ rows.Refuses (gapSheet.set ⟨2, 6⟩ (.text "bool")) columns
            (.duplicateField "Items" "id") := by
  have hschema : extract .empty "book.json" gapSheet ⟨1, 1⟩ = .ok (some gapSchema) := by
    decide +kernel
  have herror : extract .empty "book.json" (gapSheet.set ⟨2, 6⟩ (.text "bool")) ⟨1, 1⟩
      = .error (.duplicateField "Items" "id") := by
    decide +kernel
  constructor
  · obtain ⟨hnone, hblock⟩ := extract_reads_block .empty "book.json" gapSheet ⟨1, 1⟩
    obtain ⟨rows, last, columns, hlast, hcolumns, -, hok⟩ :=
      hblock (mt hnone.2 (by simp [hschema]))
    have hlastCol : gapSheet.lastCol? 2 = some 5 := by decide +kernel
    obtain rfl : last = 5 := by simpa [← rows.add_eq_types, hlastCol, eq_comm] using hlast
    exact ⟨rows, columns, hcolumns, (hok gapSchema).1 hschema⟩
  · obtain ⟨hnone, hblock⟩ :=
      extract_reads_block .empty "book.json" (gapSheet.set ⟨2, 6⟩ (.text "bool")) ⟨1, 1⟩
    obtain ⟨rows, last, columns, hlast, hcolumns, hrefused, -⟩ :=
      hblock (mt hnone.2 (by simp [herror]))
    have hlastCol : (gapSheet.set ⟨2, 6⟩ (.text "bool")).lastCol? 2 = some 6 := by decide +kernel
    obtain rfl : last = 6 := by simpa [← rows.add_eq_types, hlastCol, eq_comm] using hlast
    exact ⟨rows, columns, hcolumns, (hrefused _).1 herror⟩

end Extract

end MasterSchema

end MasterData
