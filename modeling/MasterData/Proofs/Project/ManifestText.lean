-- SUMMARY: A compiled manifest is accepted when it is read.
import MasterData.Project.Manifest
import MasterData.Proofs.Json.RoundTrip
import MasterData.Proofs.Schema.HeaderBlock
import MasterData.Proofs.Schema.SchemaText

/-! # The text of a manifest

The manifest that is written for well-formed schemas is read back as it was, and the reader finds no
fault with it. So is that of all schemas that header blocks give. Main statement:
`Manifest.extracted_read_back`.
-/

namespace MasterData.Manifest

theorem isWritten_toJson (m : Manifest) : m.toJson.IsWritten := by
  refine ⟨Json.isWritten_ofNat _, Json.areWritten_iff.2 fun j hj => ?_, trivial⟩
  obtain ⟨s, -, rfl⟩ := List.mem_map.1 hj
  exact s.isWritten_toJson

theorem ofJson?_toJson {m : Manifest}
    (h : ∀ s ∈ m.masters, ∀ c ∈ s.fields, c.kind.IsDeclarable) : ofJson? m.toJson = some m := by
  obtain ⟨version, masters⟩ := m
  have hmasters : (Json.list (masters.map MasterSchema.toJson)).asListOf? (MasterSchema.ofJson? 125)
      = some masters :=
    Json.asListOf?_list_map fun s hs => MasterSchema.ofJson?_toJson (h s hs)
  rw [ofJson?, toJson, Json.fields?_object (by simp) (by simp)]
  simp [Json.Fields.required?_cons, hmasters]

theorem parseText?_render (m : Manifest) : Json.parseText? m.render = some m.toJson :=
  Json.parseText?_pretty_line m.isWritten_toJson

/-- A manifest of schemas that have fields, all of declarable kinds, is read back from its text. -/
theorem ofText_render {schemas : List MasterSchema} (hfields : ∀ s ∈ schemas, s.fields ≠ [])
    (hkinds : ∀ s ∈ schemas, ∀ c ∈ s.fields, c.kind.IsDeclarable) (path : String) :
    ofText path (ofSchemas schemas).render = .ok (ofSchemas schemas) := by
  have hfault : (ofSchemas schemas).fault? = none := by
    have hfind : schemas.find? (fun s => decide (s.fields = [])) = none :=
      List.find?_eq_none.2 fun s hs => by simpa using hfields s hs
    simp [fault?, ofSchemas, hfind]
  have hread : ofJson? (ofSchemas schemas).toJson = some (ofSchemas schemas) :=
    ofJson?_toJson hkinds
  rw [ofText, parseText?_render, Option.bind_some, hread]
  simp only [hfault]

/-- The manifest of any schemas that were extracted, each from a sheet and under a type table of its own,
is spelled by its text and read back from it. The text has descriptions only where they are not empty. -/
theorem extracted_read_back {schemas : List MasterSchema}
    (hschemas : ∀ s ∈ schemas, ∃ t workbook sheet anchor,
      MasterSchema.extract t workbook sheet anchor = .ok (some s)) (path : String) :
    ofText path (ofSchemas schemas).render = .ok (ofSchemas schemas)
      ∧ Json.parseText? (ofSchemas schemas).render = some (ofSchemas schemas).toJson
      ∧ ∀ s ∈ schemas, ("master_description" ∈ s.toJson.keys ↔ s.masterDescription ≠ "")
        ∧ ∀ c ∈ s.fields, "description" ∈ c.toJson.keys ↔ c.description ≠ "" := by
  have hwell : ∀ s ∈ schemas, ∃ t, s.IsWellFormed t := by
    intro s hs
    obtain ⟨t, workbook, sheet, anchor, hextract⟩ := hschemas s hs
    exact ⟨t, (MasterSchema.isExtracted_of_extract hextract).toIsWellFormed⟩
  refine ⟨ofText_render (fun s hs => ?_) (fun s hs => ?_) path, parseText?_render _,
    fun s _ => ⟨s.mem_keys_toJson, fun c _ => c.mem_keys_toJson⟩⟩
  · obtain ⟨t, hs⟩ := hwell s hs
    exact hs.fields_ne_nil
  · obtain ⟨t, hs⟩ := hwell s hs
    exact hs.isDeclarable

/-- A sheet with an array of any length over an enumeration, and a description. -/
def describedSheet : Sheet :=
  (MasterSchema.gapSheet.set ⟨0, 2⟩ (.text " All \"items\"\n")).set ⟨2, 4⟩ (.text "Element[]")

/-- The schema of that sheet where the enumeration is declared. -/
def describedSchema : MasterSchema where
  masterName := "Item"
  masterDescription := " All \"items\"\n"
  keyType := "int"
  keyColumn := 1
  fields := [⟨1, "int", .primitive .i32, "id", ""⟩,
    ⟨4, "Element[]", .array (.enumeration "Element" ["Fire", "Water"]) none, "true", " wide "⟩]
  source := ⟨"more.xlsx", "Items"⟩
  anchor := ⟨1, 1⟩
  dataStartRow := 5

theorem extracted_read_back_described :
    MasterSchema.extract .empty "book.json" MasterSchema.gapSheet ⟨1, 1⟩
        = .ok (some MasterSchema.gapSchema)
      ∧ MasterSchema.extract ⟨.empty, .ofList [("Element", ["Fire", "Water"])]⟩ "more.xlsx"
          describedSheet ⟨1, 1⟩ = .ok (some describedSchema)
      ∧ ofText fileName (ofSchemas [MasterSchema.gapSchema, describedSchema]).render
          = .ok (ofSchemas [MasterSchema.gapSchema, describedSchema]) := by
  have hgap : MasterSchema.extract .empty "book.json" MasterSchema.gapSheet ⟨1, 1⟩
      = .ok (some MasterSchema.gapSchema) := by
    decide +kernel
  have hdescribed : MasterSchema.extract ⟨.empty, .ofList [("Element", ["Fire", "Water"])]⟩
      "more.xlsx" describedSheet ⟨1, 1⟩ = .ok (some describedSchema) := by
    decide +kernel
  refine ⟨hgap, hdescribed, (extracted_read_back (fun s hs => ?_) fileName).1⟩
  rcases List.mem_pair.1 hs with rfl | rfl
  · exact ⟨_, _, _, _, hgap⟩
  · exact ⟨_, _, _, _, hdescribed⟩

end MasterData.Manifest
