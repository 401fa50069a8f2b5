/-
The table of findings in `human/assessment-matrix.md`, as the two generators of a bundle write it.

A line of the table ends at a line feed or a carriage return, and its cells at the separators, with a blank on either
side; `tableRows` reads the lines below the header so. A profile's table writes a slash for each separator in a summary;
the generic table writes the summary as it is, and its rows are sorted by their items.

- `showsExactly_iff`: a table shows its rows exactly if no cell holds a separator or a line break.
- `matrix_tables_iff`: what that comes to for both tables.
-/
import AtoService.Writers.Payload
import AtoService.Lib.Separated
import Mathlib.Data.List.Sort

namespace AtoService.Export.Tables

/-! ## Lines and cells -/

def lineBreak (c : Char) : Bool := c = '\n' || c = '\r'

def columnEnd (c : Char) : Bool := c = '|'

/-- the cells of a line, without the blanks around them -/
def cellsOf (line : List Char) : List (List Char) :=
  ((line.splitOnP columnEnd).drop 1).dropLast.map fun cell => (cell.drop 1).dropLast

/-- the cells of the lines below a header of six lines -/
def tableRows (text : List Char) : List (List (List Char)) :=
  ((text.splitOnP lineBreak).drop 6).dropLast.map cellsOf

def padded (cell : List Char) : List Char := ' ' :: cell ++ [' ']

/-- a line with the cells -/
def tableLine (cells : List (List Char)) : List Char := '|' :: cells.flatMap fun cell => padded cell ++ ['|']

/-! ## The generic table -/

def genericDraftNotice : String :=
  "DRAFT — " ++ "Generic agency FISMA security artifact. HS-002 template pack " ++
    "unavailable or unapproved; no agency field parity claimed."

def buildAssessmentMatrixMarkdown (rows : List MatrixRow) : String :=
  String.intercalate "\n" (["# Assessment Matrix", "", genericDraftNotice, "", "| Control | Status | Summary |",
    "| --- | --- | --- |"] ++
    ((rows.insertionSort fun r s => r.assessmentItemId ≤ s.assessmentItemId).map fun r =>
      "| " ++ r.assessmentItemId ++ " | " ++ r.systemStatus ++ " | " ++ r.findingSummary ++ " |") ++
    if rows = [] then ["| — | — | — |"] else []) ++ "\n"

/-! ## What the tables are to show -/

def profileColumns (r : MatrixRow) : List (List Char) :=
  [r.assessmentItemId, r.modelProposedStatus, r.systemStatus, summaryCell r.findingSummary].map String.toList

def genericColumns (r : MatrixRow) : List (List Char) :=
  [r.assessmentItemId, r.systemStatus, r.findingSummary].map String.toList

/-- one line for each row, which splits into the columns of the row -/
def ShowsExactly (columns : MatrixRow → List (List Char)) (text : String) (rows : List MatrixRow) : Prop :=
  (tableRows text.toList).Perm (rows.map columns)

def OneLine (s : List Char) : Prop := ∀ c ∈ s, lineBreak c = false

/-- a text without line breaks and separators -/
def PlainCell (s : List Char) : Prop := ∀ c ∈ s, lineBreak c = false ∧ columnEnd c = false

/-! ## Reading a line -/

theorem splitOnP_tableLine (cells : List (List Char)) :
    (tableLine cells).splitOnP columnEnd =
      [[]] ++ ((cells.flatMap fun cell => (padded cell).splitOnP columnEnd) ++ [[]]) := by
  rw [tableLine, ← List.nil_append ('|' :: _), List.splitOnP_append_cons _ _ (by decide),
    Separated.splitOnP_terminated (by decide)]
  rfl

theorem cellsOf_tableLine (cells : List (List Char)) :
    cellsOf (tableLine cells) =
      (cells.flatMap fun cell => (padded cell).splitOnP columnEnd).map fun cell => (cell.drop 1).dropLast := by
  rw [cellsOf, splitOnP_tableLine, List.singleton_append, List.drop_one, List.tail_cons, List.dropLast_concat]

theorem cellsOf_tableLine_of_free {cells : List (List Char)} (h : ∀ cell ∈ cells, ∀ c ∈ cell, columnEnd c = false) :
    cellsOf (tableLine cells) = cells := by
  have hfree : ∀ cell ∈ cells, ∀ c ∈ padded cell, columnEnd c = false := by
    intro cell hcell c hc
    rcases List.mem_append.1 hc with hc | hc
    · rcases List.mem_cons.1 hc with rfl | hc
      · decide
      · exact h cell hcell c hc
    · rw [List.mem_singleton.1 hc]
      decide
  rw [cellsOf_tableLine, Separated.flatMap_splitOnP_of_free hfree, List.map_map]
  refine (List.map_congr_left fun cell _ => ?_).trans (List.map_id cells)
  simp [padded]

theorem free_of_length_cellsOf {cells : List (List Char)} (h : (cellsOf (tableLine cells)).length = cells.length) :
    ∀ cell ∈ cells, ∀ c ∈ cell, columnEnd c = false := by
  rw [cellsOf_tableLine, List.length_map] at h
  intro cell hcell c hc
  exact Separated.free_of_length h cell hcell c (List.mem_append_left _ (List.mem_cons_of_mem _ hc))

theorem lineBreak_tableLine {cells : List (List Char)} (h : ∀ c ∈ tableLine cells, lineBreak c = false) :
    ∀ cell ∈ cells, OneLine cell := by
  intro cell hcell c hc
  refine h c (List.mem_cons_of_mem _ (List.mem_flatMap.2 ⟨cell, hcell, List.mem_append_left _ ?_⟩))
  exact List.mem_append_left _ (List.mem_cons_of_mem _ hc)

theorem oneLine_tableLine {cells : List (List Char)} (h : ∀ cell ∈ cells, OneLine cell) :
    OneLine (tableLine cells) := by
  intro c hc
  rcases List.mem_cons.1 hc with rfl | hc
  · decide
  · obtain ⟨cell, hcell, hc⟩ := List.mem_flatMap.1 hc
    simp only [padded, List.cons_append, List.mem_cons, List.mem_append, List.not_mem_nil, or_false] at hc
    rcases hc with rfl | (hc | rfl) | rfl
    · decide
    · exact h cell hcell c hc
    · decide
    · decide

/-! ## Reading a table -/

/-- the text of lines -/
def textOf (lines : List (List Char)) : List Char := lines.flatMap fun line => line ++ ['\n']

theorem toList_lines {lines : List String} (h : lines ≠ []) :
    (String.intercalate "\n" lines ++ "\n").toList = textOf (lines.map String.toList) := by
  induction lines with
  | nil => exact absurd rfl h
  | cons line lines ih =>
    cases lines with
    | nil => simp [textOf]
    | cons next lines =>
      rw [String.intercalate_cons_cons, String.append_assoc, String.append_assoc, String.toList_append,
        String.toList_append, ih (List.cons_ne_nil _ _), ← List.append_assoc]
      rfl

variable {columns : MatrixRow → List (List Char)} {header : List (List Char)} {rows sorted : List MatrixRow}

theorem tableRows_text (hheader : header.length = 6) (hfree : ∀ line ∈ header, OneLine line)
    (lines : List (List Char)) :
    tableRows (textOf (header ++ lines)) = (lines.flatMap fun line => line.splitOnP lineBreak).map cellsOf := by
  rw [tableRows, textOf, Separated.splitOnP_terminated (by decide), List.flatMap_append,
    Separated.flatMap_splitOnP_of_free hfree, List.map_id'', List.append_assoc, List.drop_left' hheader,
    List.dropLast_concat]
  exact fun _ => rfl

/-- **When a table shows its rows exactly.** -/
theorem showsExactly_iff {n : Nat} (hheader : header.length = 6) (hfree : ∀ line ∈ header, OneLine line)
    (hsorted : sorted.Perm rows) (hcolumns : ∀ r, (columns r).length = n) {text : String}
    (htext : text.toList = textOf (header ++ sorted.map fun r => tableLine (columns r))) :
    ShowsExactly columns text rows ↔ ∀ r ∈ rows, ∀ cell ∈ columns r, PlainCell cell := by
  rw [ShowsExactly, htext, tableRows_text hheader hfree, List.flatMap_map]
  constructor
  · intro hperm
    have hlines : ∀ r ∈ sorted, OneLine (tableLine (columns r)) := by
      refine Separated.free_of_length ?_
      have hlength := hperm.length_eq
      rwa [List.length_map, List.length_map, ← hsorted.length_eq] at hlength
    rw [Separated.flatMap_splitOnP_of_free hlines, List.map_map] at hperm
    intro r hr cell hcell c hc
    have hr' := hsorted.mem_iff.2 hr
    refine ⟨lineBreak_tableLine (hlines r hr') cell hcell c hc, ?_⟩
    -- the cells that are read are as many as the columns of some row
    have hmem := hperm.mem_iff.1 (List.mem_map_of_mem (f := cellsOf ∘ fun r => tableLine (columns r)) hr')
    obtain ⟨s, -, hs⟩ := List.mem_map.1 hmem
    refine free_of_length_cellsOf ?_ cell hcell c hc
    rw [hcolumns, ← hcolumns s, hs, Function.comp_apply]
  · intro hplain
    have hlines : ∀ r ∈ sorted, OneLine (tableLine (columns r)) := fun r hr =>
      oneLine_tableLine fun cell hcell c hc => (hplain r (hsorted.mem_iff.1 hr) cell hcell c hc).1
    rw [Separated.flatMap_splitOnP_of_free hlines, List.map_map]
    have hread : sorted.map (cellsOf ∘ fun r => tableLine (columns r)) = sorted.map columns :=
      List.map_congr_left fun r hr =>
        cellsOf_tableLine_of_free fun cell hcell c hc => (hplain r (hsorted.mem_iff.1 hr) cell hcell c hc).2
    rw [hread]
    exact hsorted.map columns

/-! ## The two tables -/

def profileHeader : List (List Char) :=
  ["# Assessment matrix (draft)", "", draftDisclaimer, "", "| Item | Model status | System status | Summary |",
    "| --- | --- | --- | --- |"].map String.toList

def genericHeader : List (List Char) :=
  ["# Assessment Matrix", "", genericDraftNotice, "", "| Control | Status | Summary |", "| --- | --- | --- |"].map
    String.toList

instance (s : List Char) : Decidable (OneLine s) := List.decidableBAll _ s

instance (s : List Char) : Decidable (PlainCell s) := List.decidableBAll _ s

theorem length_profileHeader : profileHeader.length = 6 := rfl

theorem length_genericHeader : genericHeader.length = 6 := rfl

theorem length_profileColumns (r : MatrixRow) : (profileColumns r).length = 4 := rfl

theorem length_genericColumns (r : MatrixRow) : (genericColumns r).length = 3 := rfl

theorem oneLine_append {s t : String} (hs : OneLine s.toList) (ht : OneLine t.toList) : OneLine (s ++ t).toList := by
  rw [String.toList_append]
  exact fun c hc => (List.mem_append.1 hc).elim (hs c) (ht c)

theorem oneLine_of_chars {s : String} (h : OneLine (Py.chars s)) : OneLine s.toList := Py.chars_eq s ▸ h

theorem profileHeader_free : ∀ line ∈ profileHeader, OneLine line := by
  have hdisclaimer : OneLine draftDisclaimer.toList :=
    oneLine_append (oneLine_of_chars (by decide)) (oneLine_of_chars (by decide))
  simp only [profileHeader, List.map_cons, List.map_nil, List.forall_mem_cons, List.not_mem_nil, false_imp_iff,
    implies_true, and_true]
  exact ⟨oneLine_of_chars (by decide), by decide, hdisclaimer, by decide, oneLine_of_chars (by decide),
    oneLine_of_chars (by decide)⟩

theorem genericHeader_free : ∀ line ∈ genericHeader, OneLine line := by
  have hnotice : OneLine genericDraftNotice.toList :=
    oneLine_append (oneLine_append (by decide) (oneLine_of_chars (by decide)))
      (oneLine_of_chars (by decide))
  simp only [genericHeader, List.map_cons, List.map_nil, List.forall_mem_cons, List.not_mem_nil, false_imp_iff,
    implies_true, and_true]
  exact ⟨oneLine_of_chars (by decide), by decide, hnotice, by decide, oneLine_of_chars (by decide),
    oneLine_of_chars (by decide)⟩

theorem toList_profileTable (rows : List MatrixRow) :
    (assessmentMatrixMarkdown rows).toList =
      textOf (profileHeader ++ rows.map fun r => tableLine (profileColumns r)) := by
  rw [assessmentMatrixMarkdown, toList_lines (by simp), List.map_append, List.map_map]
  refine congrArg textOf (congrArg (profileHeader ++ ·) (List.map_congr_left fun r _ => ?_))
  simp [tableLine, padded, profileColumns]

theorem toList_genericTable {rows : List MatrixRow} (h : rows ≠ []) :
    (buildAssessmentMatrixMarkdown rows).toList = textOf (genericHeader ++
      (rows.insertionSort fun r s => r.assessmentItemId ≤ s.assessmentItemId).map fun r =>
        tableLine (genericColumns r)) := by
  rw [buildAssessmentMatrixMarkdown, if_neg h, List.append_nil, toList_lines (by simp), List.map_append, List.map_map]
  refine congrArg textOf (congrArg (genericHeader ++ ·) (List.map_congr_left fun r _ => ?_))
  simp [tableLine, padded, genericColumns]

theorem plainCell_summaryCell {summary : String} :
    PlainCell (summaryCell summary).toList ↔ OneLine summary.toList := by
  rw [summaryCell, String.toList_ofList, Py.chars_eq]
  constructor
  · intro h c hc
    have hcell := (h _ (List.mem_map_of_mem hc)).1
    split_ifs at hcell with hbar
    · rw [hbar]
      decide
    · exact hcell
  · intro h c hc
    obtain ⟨d, hd, rfl⟩ := List.mem_map.1 hc
    split_ifs with hbar
    · exact ⟨by decide, by decide⟩
    · exact ⟨h d hd, decide_eq_false hbar⟩

/-- **When the tables show their rows exactly.** Separators are taken out of the summaries of one table only, and line
breaks of neither. -/
theorem matrix_tables_iff (rows : List MatrixRow) (h : rows ≠ []) :
    (ShowsExactly profileColumns (assessmentMatrixMarkdown rows) rows ↔ ∀ r ∈ rows,
      PlainCell r.assessmentItemId.toList ∧ PlainCell r.modelProposedStatus.toList ∧ PlainCell r.systemStatus.toList ∧
        OneLine r.findingSummary.toList) ∧
    (ShowsExactly genericColumns (buildAssessmentMatrixMarkdown rows) rows ↔ ∀ r ∈ rows,
      PlainCell r.assessmentItemId.toList ∧ PlainCell r.systemStatus.toList ∧ PlainCell r.findingSummary.toList) := by
  constructor
  · rw [showsExactly_iff length_profileHeader profileHeader_free (List.Perm.refl rows) length_profileColumns
      (toList_profileTable rows)]
    simp only [profileColumns, List.map_cons, List.map_nil, List.forall_mem_cons, List.not_mem_nil, false_imp_iff,
      implies_true, and_true, plainCell_summaryCell]
  · rw [showsExactly_iff length_genericHeader genericHeader_free (List.perm_insertionSort _ rows) length_genericColumns
      (toList_genericTable h)]
    simp only [genericColumns, List.map_cons, List.map_nil, List.forall_mem_cons, List.not_mem_nil, false_imp_iff,
      implies_true, and_true]

namespace Findings

def finding (summary : String) : MatrixRow := ⟨"1", "AC-1", "supported", "supported", summary, []⟩

end Findings

open Findings in
theorem matrix_tables_finding :
    ShowsExactly profileColumns (assessmentMatrixMarkdown [finding "a|b"]) [finding "a|b"] ∧
      ShowsExactly genericColumns (buildAssessmentMatrixMarkdown [finding "a"]) [finding "a"] :=
  ⟨(matrix_tables_iff [finding "a|b"] (List.cons_ne_nil _ _)).1.2 (by
      intro r hr
      rw [List.mem_singleton.1 hr]
      decide),
    (matrix_tables_iff [finding "a"] (List.cons_ne_nil _ _)).2.2 (by
      intro r hr
      rw [List.mem_singleton.1 hr]
      decide)⟩

open Findings in
/-- a line break in a summary, and in the generic table a separator -/
theorem summary_alters_table :
    ¬ShowsExactly profileColumns (assessmentMatrixMarkdown [finding "a\nb"]) [finding "a\nb"] ∧
      ¬ShowsExactly genericColumns (buildAssessmentMatrixMarkdown [finding "a|b"]) [finding "a|b"] := by
  have hprofile : (tableRows (assessmentMatrixMarkdown [finding "a\nb"]).toList).length = 2 := by
    rw [toList_profileTable, tableRows_text length_profileHeader profileHeader_free]
    decide
  have hgeneric : (tableRows (buildAssessmentMatrixMarkdown [finding "a|b"]).toList).map List.length = [4] := by
    rw [toList_genericTable (List.cons_ne_nil _ _), tableRows_text length_genericHeader genericHeader_free]
    decide
  constructor
  · intro h
    exact absurd (hprofile.symm.trans h.length_eq) (by decide)
  · intro h
    have hlength := h.map List.length
    rw [hgeneric] at hlength
    exact absurd (hlength.mem_iff.1 (List.mem_singleton_self 4)) (by simp [genericColumns])

end AtoService.Export.Tables
