-- SUMMARY: Edited data rows reach neither the schema of a master nor its source.
import MasterData.Proofs.Project.Recompile
import MasterData.Proofs.Record.ShownCells

/-! # Edited data rows

The rows below a header block hold the records of a master and nothing that its source is made of. Two
sheets that show the same down to the end of the header block have one anchor, one schema and one
source, and a project whose workbooks differ in such rows alone is compiled already. Main statements:
`data_rows_stay_out_of_source` and `compile_after_edits`.
-/

namespace MasterData

/-! ## Edits below a header block -/

namespace Sheet

variable {s t u : Sheet} {last : Nat}

theorem ShowsAlikeTo.trans (h : s.ShowsAlikeTo t last) (h' : t.ShowsAlikeTo u last) :
    s.ShowsAlikeTo u last :=
  fun a ha => (h a ha).trans (h' a ha)

/-- A cell that is stored below a row does not show down to it. -/
theorem showsAlikeTo_set {a : Address} (h : last < a.row.toNat) (c : Cell) :
    s.ShowsAlikeTo (s.set a c) last := by
  intro b hb
  have hne : b ≠ a := by
    rintro rfl
    omega
  rw [shown?, shown?, cell?_set, if_neg hne]

end Sheet

/-- An anchored sheet and one of the same name that shows the same down to the end of its header
block. -/
structure ScanHit.SharesHeader (hit hit' : ScanHit) : Prop where
  workbook_eq : hit'.workbook = hit.workbook
  name_eq : hit.sheet.name = hit'.sheet.name
  anchor_eq : hit'.anchor = hit.anchor
  showsAlikeTo : hit.sheet.ShowsAlikeTo hit'.sheet (hit.anchor.row.toNat + 3)

variable {c : Config} {hit hit' : ScanHit}

namespace ScanHit.SharesHeader

theorem schema?_eq (h : hit.SharesHeader hit') (types : TypeTable) :
    hit'.schema? types = hit.schema? types := by
  unfold ScanHit.schema?
  rw [h.workbook_eq, h.anchor_eq,
    MasterSchema.extract_of_showsAlikeTo h.showsAlikeTo h.name_eq]

theorem visit_eq (h : hit.SharesHeader hit') (survey : Survey) :
    Survey.visit c hit' survey = Survey.visit c hit survey := by
  unfold Survey.visit
  rw [h.schema?_eq]

end ScanHit.SharesHeader

/-- Data rows do not reach generated source. Two sheets of one name that show the same down to the third
row below the anchor of the first have the same anchor, declare the same master for every workbook name
and type table or are refused alike, and the source of its module is the same: a survey cannot tell
them apart, whatever the rows below hold. -/
theorem data_rows_stay_out_of_source {s t : Sheet} {anchor : Address} (hname : s.name = t.name)
    (hanchor : s.findAnchor? = some anchor) (h : s.ShowsAlikeTo t (anchor.row.toNat + 3)) :
    t.findAnchor? = some anchor
      ∧ (∀ types workbook, MasterSchema.extract types workbook t anchor
          = MasterSchema.extract types workbook s anchor)
      ∧ (∀ c path, (t.hit? path).bind (·.master? c) = (s.hit? path).bind (·.master? c))
      ∧ ∀ c path survey, Survey.visit c ⟨path, t, anchor⟩ survey
          = Survey.visit c ⟨path, s, anchor⟩ survey := by
  have hanchor' := Sheet.findAnchor?_of_showsAlikeTo h (Nat.le_add_right _ 3) hanchor
  have hheader (path : String) : ScanHit.SharesHeader ⟨path, s, anchor⟩ ⟨path, t, anchor⟩ :=
    ⟨rfl, hname, rfl, h⟩
  refine ⟨hanchor', fun types workbook => ?_, fun c path => ?_, fun c path => (hheader path).visit_eq⟩
  · exact (MasterSchema.extract_of_showsAlikeTo h hname types workbook).symm
  · simp only [Sheet.hit?, hanchor, hanchor', Option.map_some, Option.bind_some, ScanHit.master?,
      (hheader path).schema?_eq]

/-- A sheet with a master and no records. -/
def headedSheet : Sheet :=
  ((((Sheet.named "Sheet").set ⟨0, 0⟩ (.text "Item")).set ⟨1, 0⟩ (.text "@")).set ⟨2, 0⟩
    (.text "int")).set ⟨3, 0⟩ (.text "id")

/-- The sheet with a further anchor mark in a longer row, and a truth value for a number. -/
def editedSheet : Sheet :=
  ((headedSheet.set ⟨5, 0⟩ (.text "@")).set ⟨5, 7⟩ (.text "int")).set ⟨6, 0⟩ (.boolean true)

theorem data_rows_stay_out_of_source_edited :
    headedSheet.findAnchor? = some ⟨1, 0⟩
      ∧ editedSheet.findAnchor? = some ⟨1, 0⟩
      ∧ ((editedSheet.hit? "data/book.xlsx").bind (·.master? .small)).map (·.schema.fieldNames)
          = some ["id"] := by
  have hanchor : headedSheet.findAnchor? = some ⟨1, 0⟩ := by decide +kernel
  have hedited : headedSheet.ShowsAlikeTo editedSheet 4 :=
    ((Sheet.showsAlikeTo_set (by decide) _).trans (Sheet.showsAlikeTo_set (by decide) _)).trans
      (Sheet.showsAlikeTo_set (by decide) _)
  have hname : headedSheet.name = editedSheet.name := rfl
  obtain ⟨hanchor', -, hmaster, -⟩ := data_rows_stay_out_of_source hname hanchor hedited
  refine ⟨hanchor, hanchor', ?_⟩
  rw [hmaster]
  decide +kernel

/-! ## Edited projects -/

/-- Workbooks with sheets of the same names. Those of one name have no anchor, or they share a
header. -/
structure Workbook.SharesHeaders (path : String) (w w' : Workbook) : Prop where
  sheetNames_eq : w'.sheetNames = w.sheetNames
  readSheet : ∀ name s, w.readSheet name = .ok s →
    ∃ t, w'.readSheet name = .ok t
      ∧ Option.Rel ScanHit.SharesHeader (s.hit? path) (t.hit? path)

namespace Workbook.SharesHeaders

variable {path : String} {w w' : Workbook}

theorem isReadable (h : w.SharesHeaders path w') (hw : w.IsReadable) : w'.IsReadable := by
  intro name hname
  rw [h.sheetNames_eq] at hname
  obtain ⟨s, hs⟩ := hw name hname
  obtain ⟨t, ht, -⟩ := h.readSheet name s hs
  exact ⟨t, ht⟩

theorem forall₂_hits (h : w.SharesHeaders path w') (hw : w.IsReadable) :
    List.Forall₂ ScanHit.SharesHeader (w.hits path) (w'.hits path) := by
  have hhit : ∀ name ∈ w.sheetNames,
      Option.Rel ScanHit.SharesHeader (w.hit? path name) (w'.hit? path name) := by
    intro name hname
    obtain ⟨s, hs⟩ := hw name hname
    obtain ⟨t, ht, hrel⟩ := h.readSheet name s hs
    rwa [Workbook.hit?_of_readSheet hs, Workbook.hit?_of_readSheet ht]
  unfold Workbook.hits
  rw [h.sheetNames_eq]
  refine List.rel_filterMap (R := fun a b => a = b ∧ a ∈ w.sheetNames) ?_
    (List.forall₂_same.2 fun name hname => ⟨rfl, hname⟩)
  rintro name _ ⟨rfl, hname⟩
  exact hhit name hname

end Workbook.SharesHeaders

/-- Sheets that share their headers are visited alike. -/
theorem visitEach_of_sharesHeader {hits hits' : List ScanHit}
    (h : List.Forall₂ ScanHit.SharesHeader hits hits') (survey : Survey) :
    visitEach (Survey.visit c) hits' survey = visitEach (Survey.visit c) hits survey := by
  induction h generalizing survey with
  | nil => rfl
  | cons hheader _ ih => simp only [visitEach, hheader.visit_eq, ih]

variable {d d₁ d₂ : Disk} {paths : List String} {survey : Survey}

/-- The survey of workbooks finds the same in ones that share their headers. -/
theorem Survey.ofWorkbooks_of_sharesHeaders
    (hedited : ∀ path ∈ paths, ∀ w, Workbook.openAt d₁ path = .ok w →
      ∃ w', Workbook.openAt d₂ path = .ok w' ∧ w.SharesHeaders path w')
    (h : Survey.ofWorkbooks c d₁ paths = (.ok (), survey)) :
    Survey.ofWorkbooks c d₂ paths = (.ok (), survey) := by
  obtain ⟨hopened, hvisited⟩ := scanWorkbooks_eq_ok_iff.1 h
  have hhits : ∀ path ∈ paths,
      List.Forall₂ ScanHit.SharesHeader (d₁.hitsAt path) (d₂.hitsAt path) := by
    intro path hpath
    obtain ⟨w, hw, hreadable⟩ := hopened path hpath
    obtain ⟨w', hw', hheaders⟩ := hedited path hpath w hw
    rw [Disk.hitsAt, Disk.hitsAt, hw, hw']
    exact hheaders.forall₂_hits hreadable
  refine scanWorkbooks_eq_ok_iff.2 ⟨fun path hpath => ?_, ?_⟩
  · obtain ⟨w, hw, hreadable⟩ := hopened path hpath
    obtain ⟨w', hw', hheaders⟩ := hedited path hpath w hw
    exact ⟨w', hw', hheaders.isReadable hreadable⟩
  · rw [visitEach_of_sharesHeader, hvisited]
    refine List.rel_flatMap (R := fun a b => a = b ∧ a ∈ paths)
      (List.forall₂_same.2 fun path hpath => ⟨rfl, hpath⟩) ?_
    rintro path _ ⟨rfl, hpath⟩
    exact hhits path hpath

/-- A settled disk stays so under changes outside the folder of generated source that its survey does
not show. -/
theorem IsSettled.of_keeps (h : IsSettled c d₁ paths survey) (hc : c.IsValid)
    (hkeeps : Disk.Keeps (fun l => Disk.destination c.generatedFolder ≠ some l.pop) d₁ d₂)
    (hlisted : Workbook.listIn d₂ c.workbooksFolder = .ok paths)
    (hsurveyed : Survey.ofWorkbooks c d₂ paths = (.ok (), survey)) : IsSettled c d₂ paths survey where
  listed := hlisted
  surveyed := hsurveyed
  named := h.named.of_keeps hkeeps fun _ _ hf hout => absurd (by rw [hf, Array.pop_push]) hout
  readText file hfile := by
    have hname : Path.IsName file.1 := by
      have houtput := List.mem_map_of_mem (f := Prod.fst) hfile
      rw [Config.names_outputs] at houtput
      exact isName_of_mem_outputNames houtput
    exact hkeeps.readText (fun l hl hout => hout (Disk.InFolder.destination_eq ⟨_, hname, hl⟩))
      (h.readText file hfile)
  marked name hname := by
    obtain ⟨f, hf⟩ := Config.exists_find hc.generatedFolder_ne_empty h.readText
    rw [hkeeps.hasMarked_iff hf fun _ hout hin => hout hin.destination_eq] at hname
    exact h.marked name hname

/-- Edited data rows never make generated source stale. Behind a run that succeeds, the workbooks may be
replaced by ones with other data rows: every further run finds the same masters and nothing to do, and
a check passes. -/
theorem compile_after_edits (hc : c.IsValid) (hd : d.WellNamed)
    (hfolders : Disk.destination c.workbooksFolder ≠ Disk.destination c.generatedFolder)
    {report : CompileReport} (h : compile c .apply d = (.ok report, d₁))
    (hkeeps : Disk.Keeps (fun l => Disk.destination c.generatedFolder ≠ some l.pop) d₁ d₂)
    (hlisted : Workbook.listIn d₂ c.workbooksFolder = Workbook.listIn d₁ c.workbooksFolder)
    (hedited : ∀ path w, Workbook.openAt d₁ path = .ok w →
      ∃ w', Workbook.openAt d₂ path = .ok w' ∧ w.SharesHeaders path w')
    (mode : WriteMode) :
    compile c mode d₂ = (.ok ⟨report.masters, [], report.masters.length + 2, []⟩, d₂) := by
  obtain ⟨paths, survey, hmasters, hsettled⟩ := isSettled_of_compile hc hd hfolders h (.refl _)
  have hsurveyed := Survey.ofWorkbooks_of_sharesHeaders (fun path _ => hedited path) hsettled.surveyed
  rw [(hsettled.of_keeps hc hkeeps (hlisted.trans hsettled.listed) hsurveyed).compile_eq hc mode,
    hmasters, List.length_map]

end MasterData
