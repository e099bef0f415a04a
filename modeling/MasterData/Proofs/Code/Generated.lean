-- SUMMARY: Generated files have names that stay in their folder, and a mark by which they are recognised.
import MasterData.Project.Compile
import MasterData.Proofs.Code.Naming
import MasterData.Proofs.Path

/-! # Names and marks of generated source

Whatever a master is called, its module is named by a word without slashes that is no keyword, so its
file stands in the folder of generated source beside the aggregate. Whatever its sheet holds, the first
line of its module opens with the mark: texts of the user stand behind it. Main statements:
`isName_moduleFile` and `isGenerated_of_source?`.
-/

namespace MasterData

/-! ## Files -/

theorem isName_sourceFileName {moduleName : String} (h : '/' ∉ moduleName.toList)
    (hne : moduleName ≠ "") : Path.IsName (sourceFileName moduleName) := by
  have hlength : 0 < moduleName.toList.length :=
    List.length_pos_iff.2 (mt String.toList_eq_nil_iff.1 hne)
  refine Path.isName_of_lt_length ?_ ?_
  · simpa [sourceFileName, String.toList_append] using h
  · simp only [sourceFileName, String.toList_append, List.length_append]
    have : ".rs".toList.length = 3 := rfl
    omega

theorem sourceFileName_inj {m m' : String} (h : sourceFileName m = sourceFileName m') : m = m' := by
  simpa [sourceFileName] using h

theorem extensionOf?_sourceFileName {moduleName : String} (hne : moduleName ≠ "") :
    Path.extensionOf? (sourceFileName moduleName) = some Published.sourceExtension := by
  have hlength : 0 < moduleName.toList.length :=
    List.length_pos_iff.2 (mt String.toList_eq_nil_iff.1 hne)
  simp [Path.extensionOf?, sourceFileName, String.toList_append, hlength, Published.sourceExtension]

/-- The name of the file of the module of a master. -/
def moduleFile (master : String) : String := sourceFileName (Naming.moduleName master)

theorem isName_moduleFile (master : String) : Path.IsName (moduleFile master) :=
  isName_sourceFileName (Naming.no_slash_moduleName master) (Naming.moduleName_ne_empty master)

theorem extensionOf?_moduleFile (master : String) :
    Path.extensionOf? (moduleFile master) = some Published.sourceExtension :=
  extensionOf?_sourceFileName (Naming.moduleName_ne_empty master)

/-- No master takes the file of the aggregate, whose module has the name of a keyword. -/
theorem moduleFile_ne_aggregateFileName (master : String) :
    moduleFile master ≠ aggregateFileName := by
  intro h
  have hkeyword := Naming.not_isKeyword_moduleName master
  rw [sourceFileName_inj h] at hkeyword
  cases hkeyword

theorem isName_aggregateFileName : Path.IsName aggregateFileName :=
  isName_sourceFileName (by decide) (by decide)

theorem extensionOf?_aggregateFileName :
    Path.extensionOf? aggregateFileName = some Published.sourceExtension :=
  extensionOf?_sourceFileName (by decide)

/-! ## The mark -/

namespace Code

theorem exists_splitLineFeeds_append {pre : List Char} (hpre : '\n' ∉ pre) (cs : List Char) :
    ∃ piece rest, Text.splitLineFeeds (pre ++ cs) = (pre ++ piece) :: rest := by
  induction pre with
  | nil => exact List.exists_cons_of_ne_nil (Text.splitLineFeeds_ne_nil cs)
  | cons c pre ih =>
    obtain ⟨piece, rest, ih⟩ := ih fun hmem => hpre (List.mem_cons_of_mem _ hmem)
    have hc : c ≠ '\n' := fun heq => hpre (by simp [heq])
    exact ⟨piece, rest, by simp [Text.splitLineFeeds, hc, ih]⟩

theorem prefix_dropCarriageReturn {pre : List Char} (hpre : pre.getLast? ≠ some '\r')
    (piece : List Char) :
    pre <+: Text.dropCarriageReturn (pre ++ piece) := by
  unfold Text.dropCarriageReturn
  split
  · rename_i hlast
    cases piece with
    | nil =>
      rw [List.append_nil] at hlast
      exact absurd hlast hpre
    | cons c piece =>
      rw [List.dropLast_append_of_ne_nil (by simp)]
      exact List.prefix_append ..
  · exact List.prefix_append ..

/-- A text that opens with the mark is recognised, whatever follows on the line and below it. -/
theorem isGenerated_of_prefix {text : String} (h : generatedBy.toList <+: text.toList) :
    isGenerated text := by
  obtain ⟨cs, hcs⟩ := h
  obtain ⟨piece, rest, hsplit⟩ := exists_splitLineFeeds_append
    (show '\n' ∉ generatedBy.toList by decide) cs
  have hprefix := prefix_dropCarriageReturn
    (show generatedBy.toList.getLast? ≠ some '\r' by decide) piece
  have hne : generatedBy.toList ++ piece ≠ [] := by simp [generatedBy]
  rw [isGenerated, Text.lines, ← hcs, hsplit]
  cases rest with
  | nil =>
    rw [Text.linesOfPieces, if_neg hne]
    simp [List.isPrefixOf_iff_prefix]
  | cons next rest =>
    rw [Text.linesOfPieces]
    · simpa [List.isPrefixOf_iff_prefix] using hprefix
    · simp

/-- A source whose first line opens with the mark. -/
theorem isGenerated_render (text : String) (items : List Item) :
    isGenerated (render (.line (generatedBy ++ text) :: items)) := by
  refine isGenerated_of_prefix ?_
  have hne : generatedBy ++ text ≠ "" := by simp [generatedBy]
  simp only [render, texts, String.join_cons, Item.text, lineAt, hne, if_false, Nat.mul_zero,
    List.replicate_zero, String.toList_append, List.append_assoc, String.toList_ofList,
    List.nil_append]
  exact List.prefix_append ..

end Code

/-- Every module that a schema gets is recognised as generated, whatever its workbook, sheet and
master are called. -/
theorem isGenerated_of_source? {options : CodeOptions} {s : MasterSchema} {source : String}
    (h : s.source? options = some source) : Code.isGenerated source := by
  obtain ⟨m, -, rfl⟩ := Option.map_eq_some_iff.1 h
  have hitems := Code.isGenerated_render
    (" from " ++ m.workbook ++ ", sheet " ++ Text.quoted m.sheet ++ ". Do not edit.")
  simp only [← String.append_assoc] at hitems
  exact hitems _

/-- So is every aggregate. -/
theorem isGenerated_render_aggregate (m : AggregateModule) : Code.isGenerated m.render :=
  Code.isGenerated_render ". Do not edit." _

end MasterData
