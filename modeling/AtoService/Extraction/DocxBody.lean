/-
The body of a DOCX document as a tree, and what `extract_docx` shows of it.

The loop takes the paragraphs and the tables that are children of the body. Of a table it takes the cells that
python-docx lists for each row, and of a cell the paragraphs that are its children. `rowCells` stands for `row.cells` of
the rows of a table, and is nothing where python-docx raises.

- `forall₂_paragraphSegments`: each paragraph of the body that has a text yields one segment, with its text.
- `occurs_of_shown`: the text of a paragraph that is a child of the body or of a listed cell occurs in a segment.
- `nothing_lost_iff`: when every paragraph occurs.
Witness `control_lost`: a paragraph in a content control.
-/
import AtoService.Extraction.Outcomes
import AtoService.Lib.TrimmedText

namespace AtoService.Extraction.DocxBody

open Outcomes (Block Segment Locator docxPieces extractDocx numberFrom sectionName)

/-! ## Documents -/

mutual

inductive Node where
  /-- with the text that `Paragraph.text` gives -/
  | paragraph (text : String)
  | table (rows : List Row)
  /-- `w:sdt` -/
  | control (content : List Node)

inductive Row where
  | row (cells : List Cell)

inductive Cell where
  | cell (gridSpan : Int) (continues : Bool) (content : List Node)

end

def Row.cells : Row → List Cell
  | row cells => cells

def Cell.gridSpan : Cell → Int
  | cell gridSpan _ _ => gridSpan

/-- the cell goes on with the one above it -/
def Cell.continues : Cell → Bool
  | cell _ continues _ => continues

def Cell.content : Cell → List Node
  | cell _ _ content => content

/-- the texts of the paragraphs among these nodes -/
def ownParagraphs : List Node → List String
  | [] => []
  | .paragraph text :: nodes => text :: ownParagraphs nodes
  | _ :: nodes => ownParagraphs nodes

mutual

/-- the texts of all paragraphs in a node, at any depth -/
def Node.paragraphs : Node → List String
  | .paragraph text => [text]
  | .table rows => rowParagraphs rows
  | .control content => allParagraphs content

def allParagraphs : List Node → List String
  | [] => []
  | node :: nodes => node.paragraphs ++ allParagraphs nodes

def Row.paragraphs : Row → List String
  | .row cells => cellParagraphs cells

def rowParagraphs : List Row → List String
  | [] => []
  | row :: rows => row.paragraphs ++ rowParagraphs rows

def Cell.paragraphs : Cell → List String
  | .cell _ _ content => allParagraphs content

def cellParagraphs : List Cell → List String
  | [] => []
  | cell :: cells => cell.paragraphs ++ cellParagraphs cells

end

/-! ## Extraction -/

def RowCells := List Row → Option (List (List Cell))

/-- `cell.text` -/
def cellText (cell : Cell) : String := "\n".intercalate (ownParagraphs cell.content)

def joinedCells (cells : List Cell) : String :=
  " | ".intercalate ((cells.map fun cell => Py.strip (cellText cell)).filter (· ≠ ""))

/-- `_table_text`, of the cells that are listed -/
def tableText (listed : List (List Cell)) : String :=
  Py.strip ("\n".intercalate ((listed.map joinedCells).filter (· ≠ "")))

/-- the paragraph or the table among the children of the body; other children are passed over -/
def block? (rowCells : RowCells) : Node → Option (List Block)
  | .paragraph text => some [⟨false, Py.strip text⟩]
  | .table rows => (rowCells rows).map fun listed => [⟨true, tableText listed⟩]
  | .control _ => some []

def blocks? (rowCells : RowCells) : List Node → Option (List Block)
  | [] => some []
  | node :: body => do
    let blocks ← block? rowCells node
    let rest ← blocks? rowCells body
    return blocks ++ rest

def extractBody (rowCells : RowCells) (body : List Node) : Option (List Segment) :=
  (blocks? rowCells body).bind extractDocx

/-! ## What is shown -/

/-- a cell that starts or is no part of a vertical merge, and covers a column of the grid, is listed -/
def Cell.listed (cell : Cell) : Bool := !cell.continues && 0 < cell.gridSpan

def ListsCells (rowCells : RowCells) : Prop :=
  ∀ rows listed, rowCells rows = some listed → ∀ cell ∈ rows.flatMap Row.cells, cell.listed = true →
    ∃ cells ∈ listed, cell ∈ cells

/-- the text occurs in the other one -/
def Occurs (t u : String) : Prop := t.toList <:+: u.toList

/-- the paragraphs that are reached: of the body, and of the listed cells of its tables -/
def Node.shown : Node → List String
  | .paragraph text => [text]
  | .table rows => ((rows.flatMap Row.cells).filter Cell.listed).flatMap fun cell => ownParagraphs cell.content
  | .control _ => []

/-- the paragraphs in these nodes that are none of them -/
def nestedParagraphs : List Node → List String
  | [] => []
  | .paragraph _ :: nodes => nestedParagraphs nodes
  | .table rows :: nodes => rowParagraphs rows ++ nestedParagraphs nodes
  | .control content :: nodes => allParagraphs content ++ nestedParagraphs nodes

/-- what the paragraphs are in that are not reached: content controls, cells that are not listed, nodes in listed cells -/
def Node.hidden : Node → List String
  | .paragraph _ => []
  | .table rows => (rows.flatMap Row.cells).flatMap fun cell =>
      if cell.listed then nestedParagraphs cell.content else cell.paragraphs
  | .control content => allParagraphs content

/-- the texts of the paragraphs of the body, and of its tables -/
def Node.texts (rowCells : RowCells) : Node → List String
  | .paragraph text => [Py.strip text]
  | .table rows => ((rowCells rows).map tableText).toList
  | .control _ => []

def isParagraphSegment (s : Segment) : Bool := s.locator = .docSection (sectionName false s.segmentIndex)

/-- no text is lost -/
structure NothingLost (body : List Node) (segments : List Segment) : Prop where
  /-- the trimmed text of every paragraph that is not blank occurs in a segment -/
  everywhere : ∀ text ∈ allParagraphs body, Py.hasText text = true → ∃ s ∈ segments, Occurs (Py.strip text) s.text
  /-- the paragraphs of the body that are not blank have one segment each, in their order -/
  direct : List.Forall₂ (fun text s => s.text = Py.strip text) ((ownParagraphs body).filter Py.hasText)
    (segments.filter isParagraphSegment)

/-- every paragraph that is not reached has a text that a paragraph or a table of the body shows elsewhere -/
def HiddenShown (rowCells : RowCells) (body : List Node) : Prop :=
  ∀ text ∈ body.flatMap Node.hidden, Py.hasText text = true →
    ∃ t ∈ body.flatMap (Node.texts rowCells), Occurs (Py.strip text) t

/-! ## Paragraphs, reached or not -/

theorem allParagraphs_eq (nodes : List Node) : allParagraphs nodes = nodes.flatMap Node.paragraphs := by
  induction nodes with
  | nil => rfl
  | cons node nodes ih => rw [allParagraphs, ih, List.flatMap_cons]

theorem cellParagraphs_eq (cells : List Cell) : cellParagraphs cells = cells.flatMap Cell.paragraphs := by
  induction cells with
  | nil => rfl
  | cons cell cells ih => rw [cellParagraphs, ih, List.flatMap_cons]

theorem rowParagraphs_eq (rows : List Row) : rowParagraphs rows = (rows.flatMap Row.cells).flatMap Cell.paragraphs := by
  induction rows with
  | nil => rfl
  | cons row rows ih =>
    cases row with
    | row cells =>
      rw [rowParagraphs, Row.paragraphs, ih, cellParagraphs_eq, List.flatMap_cons, List.flatMap_append]
      rfl

/-- the paragraphs of a cell are its own or nested -/
theorem mem_cell_paragraphs {cell : Cell} {text : String} :
    text ∈ cell.paragraphs ↔ text ∈ ownParagraphs cell.content ∨ text ∈ nestedParagraphs cell.content := by
  cases cell with
  | cell gridSpan continues content =>
    rw [Cell.paragraphs, Cell.content]
    induction content with
    | nil => simp [allParagraphs, ownParagraphs, nestedParagraphs]
    | cons node nodes ih =>
      cases node with
      | paragraph text' => simp [allParagraphs, Node.paragraphs, ownParagraphs, nestedParagraphs, ih, or_assoc]
      | table rows => simp [allParagraphs, Node.paragraphs, ownParagraphs, nestedParagraphs, ih, or_left_comm]
      | control content => simp [allParagraphs, Node.paragraphs, ownParagraphs, nestedParagraphs, ih, or_left_comm]

theorem mem_paragraphs {node : Node} {text : String} :
    text ∈ node.paragraphs ↔ text ∈ node.shown ∨ text ∈ node.hidden := by
  cases node with
  | paragraph text' => simp [Node.paragraphs, Node.shown, Node.hidden]
  | control content => simp [Node.paragraphs, Node.shown, Node.hidden]
  | table rows =>
    rw [Node.paragraphs, Node.shown, Node.hidden, rowParagraphs_eq]
    generalize rows.flatMap Row.cells = cells
    induction cells with
    | nil => simp
    | cons cell cells ih =>
      rw [List.flatMap_cons, List.mem_append, ih, mem_cell_paragraphs, List.flatMap_cons, List.mem_append, List.filter_cons]
      by_cases hlisted : cell.listed = true
      · rw [if_pos hlisted, if_pos hlisted, List.flatMap_cons, List.mem_append]
        tauto
      · rw [if_neg hlisted, if_neg hlisted, mem_cell_paragraphs]
        tauto

theorem mem_allParagraphs {body : List Node} {text : String} :
    text ∈ allParagraphs body ↔ text ∈ body.flatMap Node.shown ∨ text ∈ body.flatMap Node.hidden := by
  rw [allParagraphs_eq]
  simp only [List.mem_flatMap, mem_paragraphs]
  grind

/-! ## Texts that occur -/

theorem strip_infix {t u : String} (h : Occurs t u) : Occurs (Py.strip t) (Py.strip u) := by
  rw [Occurs, Py.strip, Py.strip, String.toList_ofList, String.toList_ofList, Py.chars_eq, Py.chars_eq]
  exact (Py.infix_stripChars (fun c hc => Py.head?_stripChars c hc) (fun c hc => Py.getLast?_stripChars c hc)).2
    (Py.stripChars_infix.trans h)

theorem occurs_intercalate {t : String} {sep : String} {parts : List String} (h : t ∈ parts) :
    Occurs t (sep.intercalate parts) := by
  rw [Occurs, String.toList_intercalate]
  exact Py.infix_intercalate (List.mem_map_of_mem h)

theorem ne_of_occurs {t u : String} (ht : t ≠ "") (h : Occurs t u) : u ≠ "" := by
  rintro rfl
  exact ht (String.toList_eq_nil_iff.1 (List.infix_nil.1 h))

/-- the text of a paragraph of a listed cell occurs in the text of the table -/
theorem occurs_tableText {listed : List (List Cell)} {cells : List Cell} {cell : Cell} {text : String}
    (hcells : cells ∈ listed) (hcell : cell ∈ cells) (htext : text ∈ ownParagraphs cell.content)
    (hink : Py.hasText text = true) : Occurs (Py.strip text) (tableText listed) := by
  have hne : Py.strip text ≠ "" := bne_iff_ne.1 hink
  have hcellText : Occurs (Py.strip text) (Py.strip (cellText cell)) := strip_infix (occurs_intercalate htext)
  have hjoined : Occurs (Py.strip text) (joinedCells cells) := by
    refine List.IsInfix.trans hcellText (occurs_intercalate (List.mem_filter.2 ⟨List.mem_map_of_mem hcell, ?_⟩))
    exact decide_eq_true (ne_of_occurs hne hcellText)
  have htable : Occurs (Py.strip text) ("\n".intercalate ((listed.map joinedCells).filter (· ≠ ""))) := by
    refine List.IsInfix.trans hjoined (occurs_intercalate (List.mem_filter.2 ⟨List.mem_map_of_mem hcells, ?_⟩))
    exact decide_eq_true (ne_of_occurs hne hjoined)
  have hstrip := strip_infix htable
  rwa [Py.strip_strip] at hstrip

/-- the text of a paragraph that is reached occurs in what the body and its tables show -/
theorem occurs_of_shown {rowCells : RowCells} (hlists : ListsCells rowCells) {body : List Node} {blocks : List Block}
    (hblocks : blocks? rowCells body = some blocks) {text : String} (htext : text ∈ body.flatMap Node.shown)
    (hink : Py.hasText text = true) : ∃ t ∈ body.flatMap (Node.texts rowCells), Occurs (Py.strip text) t := by
  induction body generalizing blocks with
  | nil => exact absurd htext List.not_mem_nil
  | cons node body ih =>
    simp only [blocks?, Option.bind_eq_bind, Option.bind_eq_some_iff] at hblocks
    obtain ⟨block, hblock, rest, hrest, -⟩ := hblocks
    rw [List.flatMap_cons, List.mem_append] at htext
    rw [List.flatMap_cons]
    rcases htext with htext | htext
    · cases node with
      | paragraph text' =>
        obtain rfl := List.mem_singleton.1 htext
        exact ⟨Py.strip text, List.mem_append_left _ List.mem_cons_self, List.infix_rfl⟩
      | control content => cases htext
      | table rows =>
        obtain ⟨listed, hlisted, -⟩ := Option.map_eq_some_iff.1 hblock
        obtain ⟨cell, hcell, htext⟩ := List.mem_flatMap.1 htext
        obtain ⟨hmem, hcell⟩ := List.mem_filter.1 hcell
        obtain ⟨cells, hcells, hcell⟩ := hlists rows listed hlisted cell hmem hcell
        refine ⟨tableText listed, List.mem_append_left _ ?_, occurs_tableText hcells hcell htext hink⟩
        rw [Node.texts, hlisted]
        exact List.mem_cons_self
    · obtain ⟨t, ht, hoccurs⟩ := ih hrest htext
      exact ⟨t, List.mem_append_right _ ht, hoccurs⟩

/-! ## Segments -/

/-- the blocks have the texts that are shown, and those of paragraphs are the paragraphs of the body -/
theorem blocks_texts {rowCells : RowCells} {body : List Node} {blocks : List Block}
    (h : blocks? rowCells body = some blocks) : blocks.map Block.text = body.flatMap (Node.texts rowCells) ∧
      (blocks.filter fun b => !b.isTable).map Block.text = (ownParagraphs body).map Py.strip := by
  induction body generalizing blocks with
  | nil =>
    obtain rfl := Option.some.inj h
    exact ⟨rfl, rfl⟩
  | cons node body ih =>
    simp only [blocks?, Option.bind_eq_bind, Option.bind_eq_some_iff] at h
    obtain ⟨block, hblock, rest, hrest, h⟩ := h
    obtain rfl := Option.some.inj h
    obtain ⟨htexts, hparagraphs⟩ := ih hrest
    rw [List.map_append, htexts, List.filter_append, List.map_append, hparagraphs, List.flatMap_cons]
    cases node with
    | paragraph text =>
      obtain rfl := Option.some.inj hblock
      exact ⟨rfl, rfl⟩
    | control content =>
      obtain rfl := Option.some.inj hblock
      exact ⟨rfl, rfl⟩
    | table rows =>
      obtain ⟨listed, hlisted, rfl⟩ := Option.map_eq_some_iff.1 hblock
      rw [Node.texts, hlisted]
      exact ⟨rfl, rfl⟩

theorem isParagraphSegment_mk (isTable : Bool) (index : Nat) (text : String) :
    isParagraphSegment ⟨index, text, .docSection (sectionName isTable index)⟩ = !isTable := by
  cases isTable with
  | false => exact decide_eq_true rfl
  | true =>
    refine decide_eq_false fun h => ?_
    have hhead := congrArg (fun t => t.toList.head?) (Locator.docSection.inj h)
    simp [sectionName] at hhead

/-- the segments that are numbered from some index on -/
theorem numberFrom_texts (index : Nat) (blocks : List Block) :
    (numberFrom index (docxPieces blocks)).map Segment.text = (blocks.map Block.text).filter (· ≠ "") ∧
      ((numberFrom index (docxPieces blocks)).filter isParagraphSegment).map Segment.text =
        ((blocks.filter fun b => !b.isTable).map Block.text).filter (· ≠ "") := by
  induction blocks generalizing index with
  | nil => exact ⟨rfl, rfl⟩
  | cons block blocks ih =>
    obtain ⟨htexts, hparagraphs⟩ := ih (index + 1)
    by_cases htext : block.text = ""
    · have hpieces : docxPieces (block :: blocks) = docxPieces blocks := by simp [docxPieces, htext]
      rw [hpieces, (ih index).1, (ih index).2]
      cases hkind : block.isTable <;> simp [htext, hkind]
    · have hpieces : docxPieces (block :: blocks) =
          (fun index => .docSection (sectionName block.isTable index), block.text) :: docxPieces blocks := by
        simp [docxPieces, htext]
      rw [hpieces, numberFrom, List.map_cons, htexts, List.filter_cons, isParagraphSegment_mk]
      cases hkind : block.isTable with
      | true => simpa [htext, hkind] using hparagraphs
      | false => simpa [htext, hkind] using hparagraphs

/-- the segments of a body: their texts, and those of its paragraphs -/
theorem segments_texts {rowCells : RowCells} {body : List Node} {segments : List Segment}
    (h : extractBody rowCells body = some segments) :
    segments.map Segment.text = (body.flatMap (Node.texts rowCells)).filter (· ≠ "") ∧
      (segments.filter isParagraphSegment).map Segment.text = ((ownParagraphs body).filter Py.hasText).map Py.strip := by
  obtain ⟨blocks, hblocks, h⟩ := Option.bind_eq_some_iff.1 h
  obtain ⟨htexts, hparagraphs⟩ := blocks_texts hblocks
  have hsegments : segments = numberFrom 1 (docxPieces blocks) := by
    rw [extractDocx] at h
    cases hpieces : docxPieces blocks with
    | nil => rw [hpieces] at h; cases h
    | cons piece pieces =>
      rw [hpieces] at h
      exact (Option.some.inj h).symm
  obtain ⟨hall, hown⟩ := numberFrom_texts 1 blocks
  rw [hsegments, hall, hown, htexts, hparagraphs, List.filter_map]
  refine ⟨rfl, congrArg (List.map Py.strip) (List.filter_congr fun text _ => ?_)⟩
  by_cases hblank : Py.strip text = "" <;> simp [Py.hasText, hblank]

/-- two lists with the same images are related entry by entry -/
theorem forall₂_of_map_eq {α β γ : Type} {f : α → γ} {g : β → γ} {xs : List α} {ys : List β} (h : ys.map g = xs.map f) :
    List.Forall₂ (fun x y => g y = f x) xs ys := by
  induction xs generalizing ys with
  | nil =>
    rw [List.map_nil, List.map_eq_nil_iff] at h
    exact h ▸ .nil
  | cons x xs ih =>
    obtain ⟨y, ys, rfl, hy, hys⟩ := List.map_eq_cons_iff.1 h
    exact .cons hy (ih hys)

/-- **No text is lost** exactly if what is not reached is also shown elsewhere: paragraphs in content controls, in
cells that continue another one, and in tables and content controls inside cells. -/
theorem nothing_lost_iff (rowCells : RowCells) (hlists : ListsCells rowCells) (body : List Node)
    (segments : List Segment) (h : extractBody rowCells body = some segments) :
    NothingLost body segments ↔ HiddenShown rowCells body := by
  obtain ⟨blocks, hblocks, -⟩ := Option.bind_eq_some_iff.1 h
  obtain ⟨htexts, hparagraphs⟩ := segments_texts h
  have hsegment : ∀ {t : String}, Py.strip t ≠ "" →
      ((∃ u ∈ body.flatMap (Node.texts rowCells), Occurs (Py.strip t) u) ↔
        ∃ s ∈ segments, Occurs (Py.strip t) s.text) := by
    intro t ht
    constructor
    · rintro ⟨u, hu, hoccurs⟩
      have hmem : u ∈ segments.map Segment.text := by
        rw [htexts]
        exact List.mem_filter.2 ⟨hu, decide_eq_true (ne_of_occurs ht hoccurs)⟩
      obtain ⟨s, hs, rfl⟩ := List.mem_map.1 hmem
      exact ⟨s, hs, hoccurs⟩
    · rintro ⟨s, hs, hoccurs⟩
      have hmem : s.text ∈ segments.map Segment.text := List.mem_map_of_mem hs
      rw [htexts] at hmem
      exact ⟨s.text, (List.mem_filter.1 hmem).1, hoccurs⟩
  constructor
  · intro hnone text htext hink
    exact (hsegment (bne_iff_ne.1 hink)).2 (hnone.everywhere text (mem_allParagraphs.2 (.inr htext)) hink)
  · intro hhidden
    refine ⟨fun text htext hink => (hsegment (bne_iff_ne.1 hink)).1 ?_, forall₂_of_map_eq hparagraphs⟩
    rcases mem_allParagraphs.1 htext with htext | htext
    · exact occurs_of_shown hlists hblocks htext hink
    · exact hhidden text htext hink

namespace Samples

/-- what a cell puts into the grid, below the cells `above` -/
def gridCell (above : List Cell) (cell : Cell) : Option (List Cell) :=
  if cell.continues then above.head?.map fun c => List.replicate c.gridSpan.toNat c
  else some (List.replicate cell.gridSpan.toNat cell)

def gridRow : List Cell → List Cell → Option (List Cell)
  | _, [] => some []
  | above, cell :: cells => do
    let listed ← gridCell above cell
    let rest ← gridRow (above.drop cell.gridSpan.toNat) cells
    return listed ++ rest

def gridRows : List Cell → RowCells
  | _, [] => some []
  | above, row :: rows => do
    let cells ← gridRow above row.cells
    let rest ← gridRows cells rows
    return cells :: rest

theorem gridRow_lists {above cells listed : List Cell} (h : gridRow above cells = some listed) {cell : Cell}
    (hcell : cell ∈ cells) (hlisted : cell.listed = true) : cell ∈ listed := by
  induction cells generalizing above listed with
  | nil => exact absurd hcell List.not_mem_nil
  | cons c cells ih =>
    simp only [gridRow, Option.bind_eq_bind, Option.bind_eq_some_iff] at h
    obtain ⟨first, hfirst, rest, hrest, h⟩ := h
    obtain rfl := Option.some.inj h
    rcases List.mem_cons.1 hcell with rfl | hcell
    · obtain ⟨hstarts, hspan⟩ := Bool.and_eq_true_iff.1 hlisted
      rw [gridCell, if_neg (by simpa using hstarts)] at hfirst
      obtain rfl := Option.some.inj hfirst
      have hpos : cell.gridSpan.toNat ≠ 0 := by
        have := of_decide_eq_true hspan
        omega
      exact List.mem_append_left _ (List.mem_replicate.2 ⟨hpos, rfl⟩)
    · exact List.mem_append_right _ (ih hrest hcell)

theorem gridRows_lists (above : List Cell) : ListsCells (gridRows above) := by
  intro rows
  induction rows generalizing above with
  | nil => exact fun _ _ cell hcell => absurd hcell List.not_mem_nil
  | cons row rows ih =>
    intro listed h cell hcell hlisted
    simp only [gridRows, Option.bind_eq_bind, Option.bind_eq_some_iff] at h
    obtain ⟨cells, hcells, rest, hrest, h⟩ := h
    obtain rfl := Option.some.inj h
    rw [List.flatMap_cons, List.mem_append] at hcell
    rcases hcell with hcell | hcell
    · exact ⟨cells, List.mem_cons_self, gridRow_lists hcells hcell hlisted⟩
    · obtain ⟨cells', hmem, hcell⟩ := ih cells rest hrest cell hcell hlisted
      exact ⟨cells', List.mem_cons_of_mem _ hmem, hcell⟩

def merged : List Node :=
  [.paragraph " a ",
    .table [.row [.cell 1 false [.paragraph "b"], .cell 2 false [.paragraph "c", .paragraph "d"]],
      .row [.cell 1 true [], .cell 1 false [.paragraph "e"], .cell 1 false []]]]

def mergedSegments : List Segment :=
  [⟨1, "a", .docSection "paragraph-1"⟩, ⟨2, "b | c\nd | c\nd\nb | e", .docSection "table-2"⟩]

end Samples

open Samples in
theorem nothing_lost_merged : NothingLost merged mergedSegments :=
  (nothing_lost_iff (gridRows []) (gridRows_lists []) merged mergedSegments (by rfl)).2 (by
    intro text htext
    have hnone : merged.flatMap Node.hidden = [] := by rfl
    rw [hnone] at htext
    cases htext)

open Samples in
/-- the paragraph in the content control is in no segment -/
theorem control_lost : ¬∀ (rowCells : RowCells) (body : List Node) (segments : List Segment), ListsCells rowCells →
    extractBody rowCells body = some segments → NothingLost body segments := by
  intro h
  have hnone := h (gridRows []) [.paragraph "a", .control [.paragraph "b"]] [⟨1, "a", .docSection "paragraph-1"⟩]
    (gridRows_lists []) (by rfl)
  obtain ⟨s, hs, hoccurs⟩ := hnone.everywhere "b" (by simp [allParagraphs, Node.paragraphs]) (by decide)
  rw [List.mem_singleton.1 hs] at hoccurs
  exact absurd hoccurs (by unfold Occurs; decide)

end AtoService.Extraction.DocxBody
