-- SUMMARY: Which documents are read back from the text that they are written as.
import MasterData.Proofs.Json.RoundTrip
import MasterData.Proofs.Json.Shapes
import MasterData.Workbook.Document

/-! # The text of a document

A document is read back from its own text if the numbers in its cells are, whatever its sheets and
cells are otherwise. In particular a file may repeat the name of a sheet, and a sheet the address of
a cell.
Main statement: `Document.parse?_render`.
-/

namespace MasterData

/-- Whether the number in a cell, if there is one, is read from its literal with the same bits. -/
def Cell.ReadsBack : Cell → Prop
  | number x => x.ReadsBack
  | _ => True

namespace Document

/-! ## Writing -/

theorem isWritten_valueJson (v : Cell) : (valueJson v).IsWritten := by
  cases v with
  | int i => simp [valueJson, Json.IsWritten, Json.MembersAreWritten, Json.isWritten_ofInt]
  | number x => simp [valueJson, Json.IsWritten, Json.MembersAreWritten, Json.isWritten_ofDouble]
  | text _ | boolean _ | error _ | empty =>
    simp [valueJson, Json.IsWritten, Json.MembersAreWritten]

theorem isWritten_cellJson (c : DocumentCell) : (cellJson c).IsWritten := by
  refine ⟨Json.isWritten_ofNat _, Json.isWritten_ofNat _, ?_, trivial⟩
  cases c.value with
  | none => trivial
  | some v => exact isWritten_valueJson v

theorem isWritten_sheetJson (s : DocumentSheet) : (sheetJson s).IsWritten := by
  refine ⟨trivial, Json.areWritten_iff.2 fun j hj => ?_, ?_, trivial, trivial⟩
  · obtain ⟨c, -, rfl⟩ := List.mem_map.1 hj
    exact isWritten_cellJson c
  · cases s.dimensions with
    | none => trivial
    | some d => exact ⟨Json.isWritten_ofNat _, Json.isWritten_ofNat _, trivial⟩

theorem isWritten_toJson (d : Document) : d.toJson.IsWritten := by
  refine ⟨Json.isWritten_ofNat _, Json.areWritten_iff.2 fun j hj => ?_, trivial⟩
  obtain ⟨s, -, rfl⟩ := List.mem_map.1 hj
  exact isWritten_sheetJson s

/-! ## Reading what was written -/

theorem valueOfJson?_valueJson {v : Cell} (h : v.ReadsBack) : valueOfJson? (valueJson v) = some v := by
  cases v with
  | number x =>
    have hx : (Json.ofDouble x).asDouble? = some x := h
    simp [valueJson, valueOfJson?, Json.asVariant?_content, valueOfVariant?, Json.Variant.with?, hx]
  | int i =>
    simp [valueJson, valueOfJson?, Json.asVariant?_content, valueOfVariant?, Json.Variant.with?]
  | text s =>
    simp [valueJson, valueOfJson?, Json.asVariant?_content, valueOfVariant?, Json.Variant.with?,
      Json.asText?]
  | boolean b =>
    simp [valueJson, valueOfJson?, Json.asVariant?_content, valueOfVariant?, Json.Variant.with?,
      Json.asBool?]
  | error code =>
    simp [valueJson, valueOfJson?, Json.asVariant?_content, valueOfVariant?, Json.Variant.with?,
      Json.asText?]
  | empty =>
    simp [valueJson, valueOfJson?, Json.asVariant?_bare, valueOfVariant?, Json.Variant.isBare]

/-- A value that may be missing is read back, as what is written of a value is not `null`. -/
theorem asNullable?_getD {α : Type} {write : α → Json} {read : Json → Option α} {v : Option α}
    (hread : ∀ a ∈ v, read (write a) = some a) (hnull : ∀ a, write a ≠ .null) :
    Json.asNullable? read ((v.map write).getD .null) = some v := by
  cases v with
  | none => rfl
  | some a =>
    have hnot_null := hnull a
    have ha := hread a rfl
    simp only [Option.map_some, Option.getD_some, Json.asNullable?, ha]

/-- What is written of a cell is read as its address, with the value that is read. -/
theorem cellOfJson?_cellJson_eq (c : DocumentCell) :
    cellOfJson? (cellJson c)
      = (Json.asNullable? valueOfJson? ((c.value.map valueJson).getD .null)).map
          (⟨c.address, ·⟩) := by
  have hfields : (cellJson c).fields? ["row", "col", "value"]
      = some ⟨[("row", .ofNat c.address.row.toNat), ("col", .ofNat c.address.col.toNat),
          ("value", (c.value.map valueJson).getD .null)], false⟩ :=
    Json.fields?_object (by simp) (by simp)
  rw [cellOfJson?, hfields]
  simp [Json.Fields.required?_cons, Json.Fields.defaulted?_cons, Option.map_eq_bind,
    Function.comp_def]

theorem cellOfJson?_cellJson {c : DocumentCell} (h : ∀ v ∈ c.value, v.ReadsBack) :
    cellOfJson? (cellJson c) = some c := by
  have hvalue : Json.asNullable? valueOfJson? ((c.value.map valueJson).getD .null) = some c.value :=
    asNullable?_getD (fun v hv => valueOfJson?_valueJson (h v hv)) fun v => by
      cases v <;> simp [valueJson]
  rw [cellOfJson?_cellJson_eq, hvalue, Option.map_some]

/-- What is written of a sheet is read as that sheet, with the cells that are read. -/
theorem sheetOfJson?_sheetJson_eq (s : DocumentSheet) :
    sheetOfJson? (sheetJson s)
      = ((s.cells.map cellJson).mapM cellOfJson?).map fun cells => { s with cells } := by
  have hdimensions : Json.asNullable? dimensionsOfJson? ((s.dimensions.map fun p =>
      .list [.ofNat p.1.toNat, .ofNat p.2.toNat]).getD .null) = some s.dimensions :=
    asNullable?_getD (fun d _ => by simp [dimensionsOfJson?, Json.asListOf?]) fun d => by simp
  have hfields : (sheetJson s).fields? ["name", "cells", "dimensions", "hidden"]
      = some ⟨[("name", .text s.name), ("cells", .list (s.cells.map cellJson)),
          ("dimensions", (s.dimensions.map fun p =>
            .list [.ofNat p.1.toNat, .ofNat p.2.toNat]).getD .null),
          ("hidden", .bool s.hidden)], false⟩ :=
    Json.fields?_object (by simp) (by simp)
  rw [sheetOfJson?, hfields]
  simp only [Option.bind_eq_bind, Option.bind_some, Json.Fields.required?_cons,
    Json.Fields.defaulted?_cons, String.reduceEq, if_true, if_false, hdimensions, Json.asText?,
    Json.asBool?, Json.asListOf?]
  rw [Option.map_eq_bind]
  rfl

theorem sheetOfJson?_sheetJson {s : DocumentSheet}
    (h : ∀ c ∈ s.cells, ∀ v ∈ c.value, v.ReadsBack) : sheetOfJson? (sheetJson s) = some s := by
  have hcells : (s.cells.map cellJson).mapM cellOfJson? = some s.cells :=
    Json.mapM_map_eq_some fun c hc => cellOfJson?_cellJson (h c hc)
  rw [sheetOfJson?_sheetJson_eq, hcells, Option.map_some]

/-- Whether the numbers in the cells of a document are read from their literals. -/
def ReadsBack (d : Document) : Prop :=
  ∀ s ∈ d.sheets, ∀ c ∈ s.cells, ∀ v ∈ c.value, v.ReadsBack

/-- What is written of a document is read as that document, with the sheets that are read. -/
theorem ofJson?_toJson_eq (d : Document) :
    ofJson? d.toJson
      = ((d.sheets.map sheetJson).mapM sheetOfJson?).map fun sheets => { d with sheets } := by
  have hfields : d.toJson.fields? ["version", "sheets"]
      = some ⟨[("version", .ofNat d.version.toNat), ("sheets", .list (d.sheets.map sheetJson))],
          false⟩ :=
    Json.fields?_object (by simp) (by simp)
  rw [ofJson?, hfields]
  simp [Json.Fields.defaulted?_cons, Json.asListOf?, Option.map_eq_bind, Function.comp_def]

theorem ofJson?_toJson {d : Document} (h : d.ReadsBack) : ofJson? d.toJson = some d := by
  have hsheets : (d.sheets.map sheetJson).mapM sheetOfJson? = some d.sheets :=
    Json.mapM_map_eq_some fun s hs => sheetOfJson?_sheetJson (h s hs)
  rw [ofJson?_toJson_eq, hsheets, Option.map_some]

theorem parse?_render_eq (d : Document) :
    parse? (Text.symbols d.render) = ofJson? d.toJson := by
  have htree : Json.parse? (Text.symbols d.render) = some d.toJson :=
    Json.parseText?_pretty d.isWritten_toJson
  rw [parse?, htree, Option.bind_eq_bind, Option.bind_some]

/-- A document is read back from its text when its numbers are. -/
theorem parse?_render {d : Document} (h : d.ReadsBack) :
    parse? (Text.symbols d.render) = some d := by
  rw [parse?_render_eq, ofJson?_toJson h]

end Document

end MasterData
