/-
Agency templates: the body of a DOCX document as python-docx reads it, the outline that locators are taken from, and the
mapping plan that a response may give for an outline.

A body is a sequence of paragraphs and tables. A table keeps its underlying cells apart from its grid: a merged cell
stands at every grid position that it spans. `Element` names a paragraph or an underlying cell, `locate` reads a
locator, and `element` is what stands there.

- `element_setElementText`: writing one element changes no other one, `sameFrame_setElementText`: and moves none.
- `parseMappingPlan_columns`: the plan of an accepted response maps every column of the control table, no two to one
  grid column.
-/
import AtoService.Lib.JsonLoads
import AtoService.Lib.TrimmedText
import AtoService.Workspace.AgencyDocx

namespace AtoService.Workspace.AgencyDocx

open AtoService.Py AtoService.Results

/-! ## Documents -/

/-- the text that a run shows once it is set: a carriage return becomes a line break -/
def runText (s : String) : String := String.ofList ((chars s).map fun c => if c = '\r' then '\n' else c)

/-- a paragraph by the texts of its runs -/
structure Paragraph where
  runs : List String
deriving DecidableEq, Repr

def Paragraph.text (p : Paragraph) : String := String.ofList (p.runs.flatMap chars)

/-- a paragraph that is added with a text; an empty text adds no run -/
def newParagraph (text : String) : Paragraph := ⟨if text = "" then [] else [runText text]⟩

def setParagraphText (p : Paragraph) (text : String) : Paragraph :=
  match p.runs with
  | [] => ⟨[runText text]⟩
  | _ :: runs => ⟨runText text :: runs.map fun _ => ""⟩

structure Cell where
  paragraphs : List Paragraph
deriving DecidableEq, Repr

def Cell.text (c : Cell) : String :=
  String.ofList (List.intercalate ['\n'] (c.paragraphs.map fun p => chars p.text))

def setCellText (c : Cell) (text : String) : Cell :=
  match c.paragraphs with
  | [] => ⟨[newParagraph text]⟩
  | p :: ps => ⟨setParagraphText p text :: ps.map fun q => setParagraphText q ""⟩

/-- `cells` are the underlying cells, `rows` the cell at each grid position, and `gridColumns` the columns that the grid
of the table declares -/
structure Table where
  cells : List Cell
  rows : List (List Nat)
  gridColumns : Nat
  within : ∀ row ∈ rows, ∀ k ∈ row, k < cells.length
deriving DecidableEq

inductive Block where
  | paragraph (p : Paragraph)
  | table (t : Table)
deriving DecidableEq

namespace Block

def paragraph? : Block → Option Paragraph
  | paragraph p => some p
  | table _ => none

def table? : Block → Option Table
  | paragraph _ => none
  | table t => some t

end Block

abbrev Document := List Block

def bodyParagraphs (document : Document) : List Paragraph := document.filterMap Block.paragraph?

def bodyTables (document : Document) : List Table := document.filterMap Block.table?

section

variable (p : Paragraph) (t : Table) (document : Document)

@[simp] theorem bodyParagraphs_paragraph :
    bodyParagraphs (.paragraph p :: document) = p :: bodyParagraphs document := rfl

@[simp] theorem bodyParagraphs_table : bodyParagraphs (.table t :: document) = bodyParagraphs document := rfl

@[simp] theorem bodyTables_paragraph : bodyTables (.paragraph p :: document) = bodyTables document := rfl

@[simp] theorem bodyTables_table : bodyTables (.table t :: document) = t :: bodyTables document := rfl

end

/-- a table at the end of the body -/
theorem bodyParagraphs_addTable (t : Table) (document : Document) :
    bodyParagraphs (document ++ [.table t]) = bodyParagraphs document := by
  simp [bodyParagraphs, Block.paragraph?, List.filterMap_append]

theorem bodyTables_addTable (t : Table) (document : Document) :
    bodyTables (document ++ [.table t]) = bodyTables document ++ [t] := by
  simp [bodyTables, Block.table?, List.filterMap_append]

/-- rewrite the paragraph of an index -/
def modifyParagraph (f : Paragraph → Paragraph) : Nat → Document → Document
  | _, [] => []
  | 0, .paragraph p :: bs => .paragraph (f p) :: bs
  | i + 1, .paragraph p :: bs => .paragraph p :: modifyParagraph f i bs
  | i, .table t :: bs => .table t :: modifyParagraph f i bs

/-- rewrite the table of an index -/
def modifyTable (f : Table → Table) : Nat → Document → Document
  | _, [] => []
  | 0, .table t :: bs => .table (f t) :: bs
  | i + 1, .table t :: bs => .table t :: modifyTable f i bs
  | i, .paragraph p :: bs => .paragraph p :: modifyTable f i bs

/-- set the text of an underlying cell -/
def Table.setCell (k : Nat) (text : String) (t : Table) : Table where
  cells := t.cells.modify k fun c => setCellText c text
  rows := t.rows
  gridColumns := t.gridColumns
  within := by simpa using t.within

/-! ## Locators -/

def locatorNumber (cs : List Char) : Option Nat :=
  if cs ≠ [] ∧ cs.all JsonText.isDigit = true then some (JsonText.natOf cs) else none

/-- the pattern `paragraph:(\d+)` -/
def parseParagraphLocator (locator : String) : Option Nat :=
  match (chars locator).splitOn ':' with
  | [head, i] => if String.ofList head = "paragraph" then locatorNumber i else none
  | _ => none

/-- the pattern `table:(\d+):cell:(\d+):(\d+)` -/
def parseCellLocator (locator : String) : Option (Nat × Nat × Nat) :=
  match (chars locator).splitOn ':' with
  | [head, t, kind, r, c] =>
    if String.ofList head = "table" ∧ String.ofList kind = "cell" then do
      return (← locatorNumber t, ← locatorNumber r, ← locatorNumber c)
    else none
  | _ => none

/-- a body paragraph, or an underlying cell of a body table -/
inductive Element where
  | paragraph (i : Nat)
  | cell (table k : Nat)
deriving DecidableEq, Repr

/-- what a locator names; the grid positions of a merged cell name one element -/
def locate (document : Document) (locator : String) : Option Element :=
  if (chars "paragraph:").isPrefixOf (chars locator) then do
    let i ← parseParagraphLocator locator
    if i < (bodyParagraphs document).length then some (.paragraph i) else none
  else do
    let (t, r, c) ← parseCellLocator locator
    let table ← (bodyTables document)[t]?
    let row ← table.rows[r]?
    return .cell t (← row[c]?)

/-- what stands at an element; a paragraph counts as a cell of one paragraph -/
def element (document : Document) : Element → Option Cell
  | .paragraph i => (bodyParagraphs document)[i]?.map fun p => ⟨[p]⟩
  | .cell t k => (bodyTables document)[t]?.bind fun table => table.cells[k]?

def setElementText (document : Document) (text : String) : Element → Document
  | .paragraph i => modifyParagraph (fun p => setParagraphText p text) i document
  | .cell t k => modifyTable (Table.setCell k text) t document

/-! ## The outline -/

inductive RenderError where
  | refused (detail : String)
  | invalidLocator (locator : String)
  | outOfRange
  | missingKey (key : String)
deriving DecidableEq, Repr

def maxOutlineTextPerItem : Nat := 8000

structure OutlineEntry where
  locator : String
  text : String
deriving DecidableEq, Repr

structure TemplateOutline where
  paragraphs : List OutlineEntry
  cells : List OutlineEntry
deriving DecidableEq, Repr

namespace TemplateOutline

def locators (o : TemplateOutline) : List String := (o.paragraphs ++ o.cells).map OutlineEntry.locator

def cellPositions (o : TemplateOutline) : List (Nat × Nat × Nat) :=
  o.cells.filterMap fun e => parseCellLocator e.locator

def tableCount (o : TemplateOutline) : Nat := (o.cellPositions.map fun p => p.1 + 1).foldr max 0

def tableColumnCount (o : TemplateOutline) (tableIndex : Nat) : Nat :=
  ((o.cellPositions.filter fun p => p.1 = tableIndex).map fun p => p.2.2 + 1).foldr max 0

end TemplateOutline

/-- `text.replace("\r\n", "\n")` on characters -/
def unixLines : List Char → List Char
  | [] => []
  | [c] => [c]
  | c :: c' :: cs => if c = '\r' ∧ c' = '\n' then '\n' :: unixLines cs else c :: unixLines (c' :: cs)

/-- the text of an item and the characters of the outline so far; `limit` is what a file may yield -/
def boundOutlineText (limit : Nat) (text : String) (totalChars : Nat) : Except RenderError (String × Nat) :=
  let normalized := (unixLines (chars text)).take maxOutlineTextPerItem
  let total := totalChars + normalized.length
  if limit < total then .error (.refused "template outline exceeds extraction text budget")
  else .ok (String.ofList normalized, total)

structure OutlineState where
  outline : TemplateOutline := ⟨[], []⟩
  totalChars : Nat := 0
  paragraphIndex : Nat := 0
  tableIndex : Nat := 0

def outlineCell (limit : Nat) (table : Table) (row : Nat) (st : OutlineState) (entry : Nat × Nat) :
    Except RenderError OutlineState := do
  let cell ← orRaise table.cells[entry.1]? .outOfRange
  let (bounded, total) ← boundOutlineText limit cell.text st.totalChars
  let locator := "table:" ++ toString st.tableIndex ++ ":cell:" ++ toString row ++ ":" ++ toString entry.2
  return { st with outline.cells := st.outline.cells ++ [⟨locator, bounded⟩], totalChars := total }

def outlineBlock (limit : Nat) (st : OutlineState) : Block → Except RenderError OutlineState
  | .paragraph p => do
    let (bounded, total) ← boundOutlineText limit p.text st.totalChars
    let locator := "paragraph:" ++ toString st.paragraphIndex
    return { st with outline.paragraphs := st.outline.paragraphs ++ [⟨locator, bounded⟩]
                     totalChars := total
                     paragraphIndex := st.paragraphIndex + 1 }
  | .table t => do
    let st ← t.rows.zipIdx.foldlM (fun st row => row.1.zipIdx.foldlM (outlineCell limit t row.2) st) st
    return { st with tableIndex := st.tableIndex + 1 }

def extractTemplateOutline (limit : Nat) (document : Document) : Except RenderError TemplateOutline :=
  OutlineState.outline <$> document.foldlM (outlineBlock limit) {}

/-! ## Mapping plans -/

def maxPlacements : Nat := 500

def systemSourceRefs : List String :=
  ["system.display_name", "system.external_system_id", "profile.profile_id", "profile.version", "profile.impact_level"]

def controlTableColumnNames : List String :=
  ["control_id", "title", "implementation_status", "responsibility", "implementation_statement", "evidence_links"]

def canonicalAppendColumnMap : List (String × Nat) := controlTableColumnNames.zipIdx

def allowedSourceRefs (sectionIds : List String) : List String := systemSourceRefs ++ sectionIds.map ("section:" ++ ·)

def PlacementMode.ofText? (s : String) : Option PlacementMode :=
  if s = "replace" then some .replace else if s = "append" then some .append else none

/-- one entry of `text_placements`, after the placements read before it -/
def parsePlacement (locators refs : List String) (placements : List TextPlacement)
    (entry : List (String × Json) × Nat) : Except ContractError (List TextPlacement) := do
  requireExactKeys entry.1 ["target_locator", "source_ref", "mode"] ("text_placements[" ++ toString entry.2 ++ "]")
  let target ← boundedText (Json.member "target_locator" entry.1) "target_locator" 128 false
  let sourceRef ← boundedText (Json.member "source_ref" entry.1) "source_ref" 256 false
  let mode ← orRaise (((Json.member "mode" entry.1).bind Json.asStr).bind PlacementMode.ofText?)
    (.detail "placement mode is not allowed")
  ensure (target ∈ locators) (.detail ("target_locator is not in template outline: " ++ target))
  ensure (sourceRef ∈ refs) (.detail ("source_ref is not allowlisted: " ++ sourceRef))
  ensure (target ∉ placements.map TextPlacement.targetLocator) (.detail ("duplicate target_locator: " ++ target))
  return placements ++ [⟨target, sourceRef, mode⟩]

/-- a column index: a whole number that is not negative -/
def columnIndex : Option Json → Option Nat
  | some (.int (.ofNat n)) => some n
  | _ => none

/-- one column of the map, after the columns read before it -/
def parseColumn (value : List (String × Json)) (parsed : List (String × Nat)) (column : String) :
    Except ContractError (List (String × Nat)) := do
  let index ← orRaise (columnIndex (Json.member column value))
    (.detail ("control_table.column_map." ++ column ++ " must be a non-negative integer"))
  ensure (index ∉ parsed.map Prod.snd) (.detail "control_table.column_map indices must be distinct")
  return parsed ++ [(column, index)]

def parseControlTableColumnMap (value : Option Json) (outline : TemplateOutline) (tableIndex : Option Nat) :
    Except ContractError (List (String × Nat)) := do
  let value ← orRaise (value.bind Json.asObj) (.detail "control_table.column_map must be an object")
  requireExactKeys value controlTableColumnNames "control_table.column_map"
  let parsed ← controlTableColumnNames.foldlM (parseColumn value) []
  match tableIndex with
  | none => return canonicalAppendColumnMap
  | some i =>
    let columnCount := outline.tableColumnCount i
    ensure (0 < columnCount) (.detail "control_table.table_index does not reference a template table")
    for (column, index) in parsed do
      ensure (index < columnCount)
        (.detail ("control_table.column_map." ++ column ++ " out of bounds for template table"))
    return parsed

def parseTableIndex (value : Option Json) (outline : TemplateOutline) : Except ContractError (Option Nat) :=
  match value with
  | none | some .null => .ok none
  | some (.int (.ofNat i)) =>
    if i < outline.tableCount then .ok (some i) else refuse "control_table.table_index out of bounds"
  | some (.int _) => refuse "control_table.table_index must be non-negative"
  | some _ => refuse "control_table.table_index must be integer or null"

def parseMappingPlan (payload : List (String × Json)) (outline : TemplateOutline) (allowedSectionIds : List String) :
    Except ContractError MappingPlan := do
  ensure ((Json.member "schema_version" payload).bind Json.asStr = some schemaVersion)
    (.detail "unsupported schema_version")
  requireExactKeys payload ["schema_version", "text_placements", "control_table", "exceptions", "summary"]
    "mapping plan"
  let entries ← objectList (Json.member "text_placements" payload) "text_placements" maxPlacements
  let textPlacements ← entries.zipIdx.foldlM (parsePlacement outline.locators (allowedSourceRefs allowedSectionIds)) []
  let controlTable ← orRaise ((Json.member "control_table" payload).bind Json.asObj)
    (.detail "control_table must be an object")
  requireExactKeys controlTable ["table_index", "column_map"] "control_table"
  let tableIndex ← parseTableIndex (Json.member "table_index" controlTable) outline
  let columnMap ← parseControlTableColumnMap (Json.member "column_map" controlTable) outline tableIndex
  let exceptions ← parseExceptions payload
  let summary ← boundedText (Json.member "summary" payload) "summary" maxSummaryLength true
  return { textPlacements, controlTable := ⟨tableIndex, columnMap⟩, exceptions, summary }

/-! ## Texts of cells -/

theorem toList_runText (s : String) : (runText s).toList = s.toList.map fun c => if c = '\r' then '\n' else c := by
  rw [runText, chars_eq, String.toList_ofList]

theorem isSpace_runChar (c : Char) : isSpace (if c = '\r' then '\n' else c) = isSpace c := by
  by_cases h : c = '\r'
  · rw [if_pos h, h]
    decide
  · rw [if_neg h]

theorem runText_runText (s : String) : runText (runText s) = runText s := by
  rw [← String.toList_inj, toList_runText, toList_runText, List.map_map]
  refine List.map_congr_left fun c _ => ?_
  by_cases h : c = '\r'
  · simp [h]
  · simp [h]

theorem text_setParagraphText (p : Paragraph) (text : String) : (setParagraphText p text).text = runText text := by
  unfold setParagraphText Paragraph.text
  rw [← String.toList_inj, String.toList_ofList]
  cases p.runs with
  | nil => simp [chars_eq]
  | cons r rs => simp [chars_eq]

theorem text_newParagraph (text : String) : (newParagraph text).text = runText text := by
  unfold newParagraph Paragraph.text
  by_cases h : text = ""
  · subst h
    decide
  · simp [h, chars_eq]

/-- the text that was set, with a line break for each further paragraph -/
theorem text_setCellText (c : Cell) (text : String) :
    ∃ n, (setCellText c text).text.toList = (runText text).toList ++ List.replicate n '\n' := by
  have hlines : ∀ (x : List Char) (ps : List Paragraph),
      List.intercalate ['\n'] (x :: ps.map fun q => chars (setParagraphText q "").text)
        = x ++ List.replicate ps.length '\n' := by
    intro x ps
    have hblank : ∀ q : Paragraph, chars (setParagraphText q "").text = [] := by
      intro q
      rw [text_setParagraphText]
      decide
    induction ps generalizing x with
    | nil => simp [List.intercalate]
    | cons q ps ih =>
      have htail := ih []
      simp only [hblank, List.map_cons, List.intercalate, List.intersperse, List.flatten_cons, List.nil_append,
        List.length_cons, List.replicate_succ] at htail ⊢
      rw [htail]
      simp
  unfold setCellText Cell.text
  cases c.paragraphs with
  | nil =>
    refine ⟨0, ?_⟩
    simp [text_newParagraph, chars_eq, List.intercalate]
  | cons p ps =>
    refine ⟨ps.length, ?_⟩
    rw [String.toList_ofList, List.map_cons, List.map_map, text_setParagraphText, ← chars_eq (runText text)]
    exact hlines _ ps

/-- up to the blank space at its end, a cell holds the text that was set -/
theorem rstrip_text_setCellText (c : Cell) (text : String) :
    rstripChars isSpace (setCellText c text).text.toList = rstripChars isSpace (runText text).toList := by
  obtain ⟨n, hn⟩ := text_setCellText c text
  rw [hn, rstripChars_append_blank]
  intro d hd
  rw [List.eq_of_mem_replicate hd]
  decide

theorem text_setCellText_single {c : Cell} (h : c.paragraphs.length = 1) (text : String) :
    (setCellText c text).text = runText text ∧ (setCellText c text).paragraphs.length = 1 := by
  obtain ⟨p, hp⟩ := List.length_eq_one_iff.1 h
  refine ⟨?_, by simp [setCellText, hp]⟩
  rw [← String.toList_inj]
  simp [setCellText, hp, Cell.text, List.intercalate, text_setParagraphText, chars_eq]

/-! ## Writing one element -/

theorem bodyParagraphs_modifyParagraph (f : Paragraph → Paragraph) (i : Nat) (document : Document) :
    bodyParagraphs (modifyParagraph f i document) = (bodyParagraphs document).modify i f := by
  induction document generalizing i with
  | nil => simp [modifyParagraph, bodyParagraphs]
  | cons b bs ih =>
    cases b with
    | paragraph p => cases i <;> simp [modifyParagraph, ih]
    | table t => cases i <;> simp [modifyParagraph, ih]

theorem bodyTables_modifyParagraph (f : Paragraph → Paragraph) (i : Nat) (document : Document) :
    bodyTables (modifyParagraph f i document) = bodyTables document := by
  induction document generalizing i with
  | nil => simp [modifyParagraph]
  | cons b bs ih =>
    cases b with
    | paragraph p => cases i <;> simp [modifyParagraph, ih]
    | table t => cases i <;> simp [modifyParagraph, ih]

theorem bodyTables_modifyTable (f : Table → Table) (i : Nat) (document : Document) :
    bodyTables (modifyTable f i document) = (bodyTables document).modify i f := by
  induction document generalizing i with
  | nil => simp [modifyTable, bodyTables]
  | cons b bs ih =>
    cases b with
    | paragraph p => cases i <;> simp [modifyTable, ih]
    | table t => cases i <;> simp [modifyTable, ih]

theorem bodyParagraphs_modifyTable (f : Table → Table) (i : Nat) (document : Document) :
    bodyParagraphs (modifyTable f i document) = bodyParagraphs document := by
  induction document generalizing i with
  | nil => simp [modifyTable]
  | cons b bs ih =>
    cases b with
    | paragraph p => cases i <;> simp [modifyTable, ih]
    | table t => cases i <;> simp [modifyTable, ih]

/-- writing an element sets its text and leaves every other element -/
theorem element_setElementText (document : Document) (text : String) (e e' : Element) :
    element (setElementText document text e) e'
      = if e' = e then (element document e').map fun c => setCellText c text else element document e' := by
  cases e with
  | paragraph i =>
    cases e' with
    | paragraph j =>
      simp only [element, setElementText, bodyParagraphs_modifyParagraph, List.getElem?_modify, Element.paragraph.injEq]
      by_cases h : i = j
      · subst h
        cases (bodyParagraphs document)[i]? <;> simp [setCellText]
      · rw [if_neg (Ne.symm h)]
        cases (bodyParagraphs document)[j]? <;> simp [h]
    | cell t k => simp [element, setElementText, bodyTables_modifyParagraph]
  | cell t k =>
    cases e' with
    | paragraph j => simp [element, setElementText, bodyParagraphs_modifyTable]
    | cell t' k' =>
      simp only [element, setElementText, bodyTables_modifyTable, List.getElem?_modify, Element.cell.injEq]
      cases ht : (bodyTables document)[t']? with
      | none => simp
      | some table =>
        by_cases h : t = t'
        · subst h
          by_cases hk : k = k'
          · subst hk
            simp [Table.setCell]
          · simp [Table.setCell, hk, Ne.symm hk]
        · simp [h, Ne.symm h]

/-- the same number of paragraphs, and tables of the same grids -/
structure SameFrame (document document' : Document) : Prop where
  paragraphs : (bodyParagraphs document').length = (bodyParagraphs document).length
  tables : (bodyTables document').map Table.rows = (bodyTables document).map Table.rows

theorem SameFrame.refl (document : Document) : SameFrame document document := ⟨rfl, rfl⟩

theorem SameFrame.trans {d d' d'' : Document} (h : SameFrame d d') (h' : SameFrame d' d'') : SameFrame d d'' :=
  ⟨h'.paragraphs.trans h.paragraphs, h'.tables.trans h.tables⟩

/-- a locator is read off the frame -/
theorem SameFrame.locate {document document' : Document} (h : SameFrame document document') (locator : String) :
    locate document' locator = locate document locator := by
  have hcell : ∀ d : Document, ∀ p : Nat × Nat × Nat,
      (do let table ← (bodyTables d)[p.1]?; let row ← table.rows[p.2.1]?; return Element.cell p.1 (← row[p.2.2]?))
        = (((bodyTables d).map Table.rows)[p.1]?).bind fun rows =>
            rows[p.2.1]?.bind fun row => row[p.2.2]?.map (Element.cell p.1) := by
    intro d p
    rw [List.getElem?_map]
    cases (bodyTables d)[p.1]? with
    | none => rfl
    | some table =>
      cases hrow : table.rows[p.2.1]? with
      | none => simp [hrow]
      | some row => cases hcell : row[p.2.2]? <;> simp [hrow, hcell]
  unfold AgencyDocx.locate
  split
  · rw [h.paragraphs]
  · refine congrArg (parseCellLocator locator).bind (funext fun ⟨t, r, c⟩ => (hcell document' (t, r, c)).trans ?_)
    rw [h.tables]
    exact (hcell document (t, r, c)).symm

theorem sameFrame_setElementText (document : Document) (text : String) (e : Element) :
    SameFrame document (setElementText document text e) := by
  cases e with
  | paragraph i => exact ⟨by simp [setElementText, bodyParagraphs_modifyParagraph], by
      rw [setElementText, bodyTables_modifyParagraph]⟩
  | cell t k =>
    refine ⟨by rw [setElementText, bodyParagraphs_modifyTable], ?_⟩
    rw [setElementText, bodyTables_modifyTable]
    refine List.ext_getElem? fun i => ?_
    simp only [List.getElem?_map, List.getElem?_modify]
    cases (bodyTables document)[i]? with
    | none => rfl
    | some table => by_cases h : t = i <;> simp [h, Table.setCell]

/-- there is something at an element that a locator names -/
theorem element_of_locate {document : Document} {locator : String} {e : Element}
    (h : locate document locator = some e) :
    ∃ c, element document e = some c := by
  unfold AgencyDocx.locate at h
  split at h
  · simp only [Option.bind_eq_bind, Option.bind_eq_some_iff, Option.ite_none_right_eq_some, Option.some.injEq] at h
    obtain ⟨i, -, hi, rfl⟩ := h
    exact ⟨⟨[(bodyParagraphs document)[i]]⟩, by simp [element, List.getElem?_eq_getElem hi]⟩
  · simp only [Option.bind_eq_bind, Option.bind_eq_some_iff] at h
    obtain ⟨⟨t, r, c⟩, -, table, htable, row, hrow, k, hk, he⟩ := h
    obtain rfl : Element.cell t k = e := by simpa using he
    have hlt := table.within row (List.mem_of_getElem? hrow) k (List.mem_of_getElem? hk)
    exact ⟨table.cells[k], by simp [element, htable, List.getElem?_eq_getElem hlt]⟩

/-! ## The columns of an accepted plan -/

theorem parseColumn_run {value : List (String × Json)} {columns : List String} {parsed parsed' : List (String × Nat)}
    (h : columns.foldlM (parseColumn value) parsed = .ok parsed') (hn : (parsed.map Prod.snd).Nodup) :
    parsed'.map Prod.fst = parsed.map Prod.fst ++ columns ∧ (parsed'.map Prod.snd).Nodup := by
  induction columns generalizing parsed with
  | nil =>
    obtain rfl := pure_eq_ok.1 h
    exact ⟨by simp, hn⟩
  | cons column columns ih =>
    rw [List.foldlM_cons] at h
    obtain ⟨next, hstep, hrest⟩ := bind_eq_ok.1 h
    unfold parseColumn at hstep
    simp only [bind_eq_ok, ensure_eq_ok, pure_eq_ok] at hstep
    obtain ⟨index, -, -, hfresh, rfl⟩ := hstep
    have hnext : ((parsed ++ [(column, index)]).map Prod.snd).Nodup := by
      rw [List.map_append, List.nodup_append]
      refine ⟨hn, by simp, ?_⟩
      intro a ha b hb
      obtain rfl : b = index := by simpa using hb
      exact fun hab => hfresh (hab ▸ ha)
    obtain ⟨hkeys, hnodup⟩ := ih hrest hnext
    exact ⟨by rw [hkeys]; simp, hnodup⟩

theorem parseControlTableColumnMap_ok {value : Option Json} {outline : TemplateOutline} {tableIndex : Option Nat}
    {columnMap : List (String × Nat)} (h : parseControlTableColumnMap value outline tableIndex = .ok columnMap) :
    columnMap.map Prod.fst = controlTableColumnNames ∧ (columnMap.map Prod.snd).Nodup := by
  unfold parseControlTableColumnMap at h
  obtain ⟨members, -, h⟩ := bind_eq_ok.1 h
  obtain ⟨-, -, h⟩ := bind_eq_ok.1 h
  obtain ⟨parsed, hparsed, h⟩ := bind_eq_ok.1 h
  cases tableIndex with
  | none =>
    obtain rfl := pure_eq_ok.1 h
    exact ⟨by decide, by decide⟩
  | some i =>
    simp only [bind_eq_ok, pure_eq_ok] at h
    obtain ⟨-, -, -, -, rfl⟩ := h
    simpa using parseColumn_run hparsed List.nodup_nil

/-- the column map of an accepted plan -/
theorem parseMappingPlan_columns {payload : List (String × Json)} {outline : TemplateOutline}
    {sectionIds : List String} {plan : MappingPlan} (h : parseMappingPlan payload outline sectionIds = .ok plan) :
    plan.controlTable.columnMap.map Prod.fst = controlTableColumnNames ∧
      (plan.controlTable.columnMap.map Prod.snd).Nodup := by
  unfold parseMappingPlan at h
  simp only [bind_eq_ok, ensure_eq_ok, pure_eq_ok] at h
  obtain ⟨-, -, -, -, -, -, placements, -, controlTable, -, -, -, tableIndex, -, columnMap, hmap, exceptions, -,
    summary, -, rfl⟩ := h
  exact parseControlTableColumnMap_ok hmap

end AtoService.Workspace.AgencyDocx
