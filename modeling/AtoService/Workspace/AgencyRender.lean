/-
Rendering an approved snapshot into an agency template: the text placements one after another, the control table, and
the draft notice in front of the body.

- `placements_element`: after the placements each element holds what the placements at that element made of it.
- `occurs_iff`: a placed value is lost only to a placement that replaces the same element later on.
- `writeRows_spec`: the control table gains one row per control, with every field in its column.
- `render_places_iff`: a rendered document has everything in its place if and only if no value is overwritten.
Witness `mergedCell_overwritten`: two placements at two grid positions of one merged cell; the second replaces the
first.

What the ZIP container and the XML of a document refuse is not modelled: it raises before a document is returned.
-/
import AtoService.Lib.KeyedList
import AtoService.Lib.TrimmedText
import AtoService.Workspace.AgencyTemplate

namespace AtoService.Workspace.AgencyDocx

open AtoService.Py AtoService.Results

/-! ## Canonical values -/

structure ExportSection where
  sectionId : String
  content : String
deriving DecidableEq, Repr

structure ExportControl where
  controlId : String
  title : String
  implementationStatus : String
  responsibility : String
  implementationStatement : String
  evidenceLinks : List String
deriving DecidableEq, Repr

/-- the members of a normalized export snapshot that a render reads -/
structure ExportSnapshot where
  displayName : String
  externalSystemId : Option String
  profileId : String
  version : String
  impactLevel : String
  sections : List ExportSection
  controls : List ExportControl
  sectionsDistinct : (sections.map ExportSection.sectionId).Nodup
  controlsDistinct : KeyedList.Distinct ExportControl.controlId controls

def canonicalSourceValues (snapshot : ExportSnapshot) : List (String × String) :=
  KeyedList.update Prod.fst
    [("system.display_name", snapshot.displayName), ("system.external_system_id", snapshot.externalSystemId.getD ""),
      ("profile.profile_id", snapshot.profileId), ("profile.version", snapshot.version),
      ("profile.impact_level", snapshot.impactLevel)]
    (snapshot.sections.map fun s => ("section:" ++ s.sectionId, s.content))

/-- the value of a source reference -/
def sourceValue? (snapshot : ExportSnapshot) (ref : String) : Option String :=
  (KeyedList.get? Prod.fst ref (canonicalSourceValues snapshot)).map Prod.snd

/-! ## Text placements -/

/-- `s.rstrip()` -/
def rstrip (s : String) : String := String.ofList (rstripChars isSpace (chars s))

/-- `s.lstrip()` -/
def lstrip (s : String) : String := String.ofList ((chars s).dropWhile isSpace)

def appendText (existing addition : String) : String :=
  if hasText existing = false then addition
  else if hasText addition = false then existing
  else rstrip existing ++ " " ++ lstrip addition

def readLocatorText (document : Document) (locator : String) : Except RenderError String := do
  let e ← orRaise (locate document locator) (.invalidLocator locator)
  let c ← orRaise (element document e) .outOfRange
  return c.text

def writeLocatorText (document : Document) (locator text : String) : Except RenderError Document := do
  let e ← orRaise (locate document locator) (.invalidLocator locator)
  return setElementText document text e

/-- one placement of the loop -/
def placeText (snapshot : ExportSnapshot) (document : Document) (p : TextPlacement) : Except RenderError Document := do
  let value ← orRaise (sourceValue? snapshot p.sourceRef) (.missingKey p.sourceRef)
  match p.mode with
  | .append =>
    let existing ← readLocatorText document p.targetLocator
    writeLocatorText document p.targetLocator (appendText existing value)
  | .replace => writeLocatorText document p.targetLocator value

/-! ## The control table -/

/-- the cell of a row that was just added: one paragraph without runs -/
def freshCell : Cell := ⟨[⟨[]⟩]⟩

/-- a row with a cell of its own at every column of the grid -/
def addRow (t : Table) : Table where
  cells := t.cells ++ List.replicate t.gridColumns freshCell
  rows := t.rows ++ [List.range' t.cells.length t.gridColumns]
  gridColumns := t.gridColumns
  within := by
    intro row hrow k hk
    rw [List.length_append, List.length_replicate]
    rcases List.mem_append.1 hrow with hrow | hrow
    · exact Nat.lt_add_right _ (t.within row hrow k hk)
    · rw [List.mem_singleton.1 hrow, List.mem_range'_1] at hk
      exact hk.2

def addRows : Nat → Table → Table
  | 0, t => t
  | n + 1, t => addRows n (addRow t)

/-- a table as it is added to a document -/
def newTable (rows columns : Nat) : Table :=
  addRows rows { cells := [], rows := [], gridColumns := columns, within := by simp }

def controlRow (control : ExportControl) : List String :=
  [control.controlId, control.title, control.implementationStatus, control.responsibility,
    control.implementationStatement, ", ".intercalate control.evidenceLinks]

/-- the underlying cell at a row and a mapped column -/
def cellAt (columnMap : List (String × Nat)) (rows : List (List Nat)) (row : Nat) (column : String) :
    Except RenderError Nat := do
  let index ← orRaise (columnMap.lookup column) (.missingKey column)
  let cells ← orRaise rows[row]? .outOfRange
  orRaise cells[index]? .outOfRange

def writeField (columnMap : List (String × Nat)) (row : Nat) (t : Table) (field : String × String) :
    Except RenderError Table := do
  let k ← cellAt columnMap t.rows row field.1
  return t.setCell k field.2

def writeTableRow (columnMap : List (String × Nat)) (t : Table) (row : List String × Nat) : Except RenderError Table :=
  (controlTableColumnNames.zip row.1).foldlM (writeField columnMap row.2) t

/-- the rows, from row `start` of the table on -/
def writeRows (columnMap : List (String × Nat)) (start : Nat) (rows : List (List String)) (t : Table) :
    Except RenderError Table :=
  (rows.zipIdx start).foldlM (writeTableRow columnMap) t

def renderControlTable (document : Document) (plan : ControlTablePlan) (controls : List ExportControl) :
    Except RenderError Document := do
  let rows := (KeyedList.sorted ExportControl.controlId controls).map controlRow
  match plan.tableIndex with
  | none =>
    let table ← writeRows plan.columnMap 0 (controlTableColumnNames :: rows)
      (newTable (1 + rows.length) controlTableColumnNames.length)
    return document ++ [.table table]
  | some i =>
    let table ← orRaise (bodyTables document)[i]? .outOfRange
    let written ← writeRows plan.columnMap table.rows.length rows (addRows rows.length table)
    return modifyTable (fun _ => written) i document

/-! ## The render -/

def genericDraftNotice : String :=
  "DRAFT — Generic agency FISMA security artifact. HS-002 template pack unavailable or unapproved; no agency field " ++
    "parity claimed."

def insertDraftNotice (document : Document) : Document := .paragraph ⟨[genericDraftNotice]⟩ :: document

/-- one placement of the plan, after the targets seen before it -/
def validatePlacement (locators refs : List String) (seen : List String) (p : TextPlacement) :
    Except RenderError (List String) := do
  ensure (p.targetLocator ∈ locators) (.refused ("unknown target locator: " ++ p.targetLocator))
  ensure (p.sourceRef ∈ refs) (.refused ("unknown source_ref: " ++ p.sourceRef))
  ensure (p.targetLocator ∉ seen) (.refused ("duplicate target locator: " ++ p.targetLocator))
  return p.targetLocator :: seen

/-- the checks of the plan, less the bound on the columns of the control table, which refuses more plans and changes none -/
def validatePlanForRender (plan : MappingPlan) (outline : TemplateOutline) (sectionIds : List String) :
    Except RenderError Unit := do
  let _ ← plan.textPlacements.foldlM (validatePlacement outline.locators (allowedSourceRefs sectionIds)) []
  match plan.controlTable.tableIndex with
  | none => return ()
  | some i => ensure (i < outline.tableCount) (.refused "control_table.table_index out of bounds")

def renderTemplate (limit : Nat) (template : Document) (plan : MappingPlan) (snapshot : ExportSnapshot) :
    Except RenderError Document := do
  let outline ← extractTemplateOutline limit template
  validatePlanForRender plan outline (snapshot.sections.map ExportSection.sectionId)
  let document ← plan.textPlacements.foldlM (placeText snapshot) template
  let document ← renderControlTable document plan.controlTable snapshot.controls
  return insertDraftNotice document

/-! ## What a render promises -/

/-- a value stands in a text, apart from the blank space around it and with its carriage returns as line breaks -/
def Occurs (value text : String) : Prop := stripChars isSpace (chars (runText value)) <:+: chars text

instance (value text : String) : Decidable (Occurs value text) := inferInstanceAs (Decidable (_ <:+: _))

/-- an element of the template in the rendered document, where the draft notice stands in front -/
def Element.rendered : Element → Element
  | .paragraph i => .paragraph (i + 1)
  | .cell t k => .cell t k

/-- the placed value can be read at its target -/
def Placed (template : Document) (snapshot : ExportSnapshot) (document : Document) (p : TextPlacement) : Prop :=
  ∃ value e c, sourceValue? snapshot p.sourceRef = some value ∧ locate template p.targetLocator = some e ∧
    element document e.rendered = some c ∧ Occurs value c.text

/-- the rows that a table gained: one per control, by identifier, with every field in its column -/
def ListsControls (columnMap : List (String × Nat)) (controls : List ExportControl) (table : Table)
    (start : Nat) : Prop :=
  table.rows.length = start + controls.length ∧
    ∀ j control, (KeyedList.sorted ExportControl.controlId controls)[j]? = some control →
      ∀ field ∈ controlTableColumnNames.zip (controlRow control), ∃ k c,
        cellAt columnMap table.rows (start + j) field.1 = .ok k ∧ table.cells[k]? = some c ∧ c.text = runText field.2

/-- the control table that the plan chose: a table of the template with its rows before the new ones, or a table with a
header at the end -/
def ControlsRendered (template : Document) (plan : ControlTablePlan) (controls : List ExportControl)
    (document : Document) : Prop :=
  match plan.tableIndex with
  | some i => ∃ old table, (bodyTables template)[i]? = some old ∧ (bodyTables document)[i]? = some table ∧
      table.rows.take old.rows.length = old.rows ∧ ListsControls plan.columnMap controls table old.rows.length
  | none => ∃ table, (bodyTables document)[(bodyTables template).length]? = some table ∧
      ListsControls plan.columnMap controls table 1

structure PlacesEverything (template : Document) (plan : MappingPlan) (snapshot : ExportSnapshot)
    (document : Document) : Prop where
  placed : ∀ p ∈ plan.textPlacements, Placed template snapshot document p
  unchanged : ∀ e c, element template e = some c →
    (∀ p ∈ plan.textPlacements, locate template p.targetLocator ≠ some e) → element document e.rendered = some c
  controls : ControlsRendered template plan.controlTable snapshot.controls document

/-- the text that a placement writes where `text` is read -/
def placedText (snapshot : ExportSnapshot) (text : String) (p : TextPlacement) : String :=
  let value := (sourceValue? snapshot p.sourceRef).getD ""
  match p.mode with
  | .append => appendText text value
  | .replace => value

/-- the text that placements at one element leave there, when one of them replaces -/
def lastingText (snapshot : ExportSnapshot) (placements : List TextPlacement) : String :=
  placements.foldl (placedText snapshot) ""

/-- the placements of a list at the element of a locator -/
def placementsAt (template : Document) (locator : String) (placements : List TextPlacement) : List TextPlacement :=
  placements.filter fun q => locate template q.targetLocator = locate template locator

/-- A value that a later placement at the same paragraph or cell replaces is written again by what comes from there
on. -/
def NothingOverwritten (template : Document) (plan : MappingPlan) (snapshot : ExportSnapshot) : Prop :=
  ∀ before p after, plan.textPlacements = before ++ p :: after →
    (∃ q ∈ placementsAt template p.targetLocator after, q.mode = .replace) →
      Occurs ((sourceValue? snapshot p.sourceRef).getD "")
        (runText (lastingText snapshot (placementsAt template p.targetLocator after)))

/-! ## Values in joined texts -/

theorem hasText_eq_false {s : String} : hasText s = false ↔ ∀ c ∈ s.toList, isSpace c = true := by
  rw [← Bool.not_eq_true, hasText_iff]
  simp

theorem toList_appendText {existing addition : String} (he : hasText existing = true) (ha : hasText addition = true) :
    (runText (appendText existing addition)).toList
      = rstripChars isSpace (runText existing).toList
          ++ ' ' :: (runText addition).toList.dropWhile isSpace := by
  have hdrop : ∀ cs : List Char, (cs.map fun c => if c = '\r' then '\n' else c).dropWhile isSpace
      = (cs.dropWhile isSpace).map fun c => if c = '\r' then '\n' else c := by
    intro cs
    rw [List.dropWhile_map]
    exact congrArg (fun q => (cs.dropWhile q).map _) (funext isSpace_runChar)
  simp only [appendText, he, ha, Bool.true_eq_false, if_false, toList_runText, rstripChars_map isSpace_runChar, hdrop]
  simp [rstrip, lstrip, chars_eq]

theorem blank_runText {s : String} (h : hasText s = false) : ∀ c ∈ (runText s).toList, isSpace c = true := by
  rw [toList_runText]
  intro c hc
  obtain ⟨d, hd, rfl⟩ := List.mem_map.1 hc
  rw [isSpace_runChar]
  exact hasText_eq_false.1 h d hd

theorem occurs_of_blank {value text : String} (h : hasText value = false) : Occurs value text := by
  have hnil : stripChars isSpace (chars (runText value)) = [] := by
    rw [chars_eq, stripChars_eq_nil]
    exact blank_runText h
  rw [Occurs, hnil]
  exact List.nil_infix

theorem occurs_self (value : String) : Occurs value (runText value) := stripChars_infix

/-- a value is looked for up to the blank space at the end of the text -/
theorem occurs_congr {value text text' : String}
    (h : rstripChars isSpace text.toList = rstripChars isSpace text'.toList) :
    Occurs value text ↔ Occurs value text' := by
  have hend : ∀ c ∈ (stripChars isSpace (chars (runText value))).getLast?, isSpace c = false := getLast?_stripChars
  rw [Occurs, Occurs, chars_eq text, chars_eq text', ← infix_rstripChars hend, h, infix_rstripChars hend]

theorem occurs_addition (existing value : String) : Occurs value (runText (appendText existing value)) := by
  by_cases ha : hasText value = false
  · exact occurs_of_blank ha
  by_cases he : hasText existing = false
  · rw [appendText, if_pos he]
    exact occurs_self value
  · rw [Bool.not_eq_false] at ha he
    rw [Occurs, chars_eq, chars_eq, toList_appendText he ha]
    exact (prefix_rstripChars.isInfix.trans (List.suffix_cons ' ' _).isInfix).trans (List.suffix_append _ _).isInfix

theorem occurs_existing {value existing : String} (h : Occurs value (runText existing)) (addition : String) :
    Occurs value (runText (appendText existing addition)) := by
  by_cases he : hasText existing = false
  · have hnil := stripChars_of_infix_blank (p := isSpace) (by rw [Occurs, chars_eq] at h; exact chars_eq _ ▸ h)
      (blank_runText he)
    rw [Occurs, chars_eq, hnil]
    exact List.nil_infix
  by_cases ha : hasText addition = false
  · rw [appendText, if_neg he, if_pos ha]
    exact h
  · rw [Bool.not_eq_false] at ha he
    have hend : ∀ c ∈ (stripChars isSpace (chars (runText value))).getLast?, isSpace c = false := getLast?_stripChars
    rw [Occurs, chars_eq (runText existing), ← infix_rstripChars hend] at h
    rw [Occurs, chars_eq (runText (appendText _ _)), toList_appendText he ha]
    exact h.trans (List.prefix_append _ _).isInfix

/-- the joined text depends on the existing one up to the blank space at its end -/
theorem appendText_congr {text existing : String} (addition : String)
    (h : rstripChars isSpace text.toList = rstripChars isSpace (runText existing).toList) :
    rstripChars isSpace (runText (appendText text addition)).toList
      = rstripChars isSpace (runText (appendText existing addition)).toList := by
  have hrun : rstripChars isSpace (runText text).toList = rstripChars isSpace (runText existing).toList := by
    rw [toList_runText, rstripChars_map isSpace_runChar, h, ← rstripChars_map isSpace_runChar, ← toList_runText,
      runText_runText]
  have hblank : hasText text = hasText existing := by
    have hiff : hasText text = false ↔ hasText existing = false := by
      rw [hasText_eq_false, ← rstripChars_eq_nil, h, toList_runText, rstripChars_map isSpace_runChar,
        List.map_eq_nil_iff, rstripChars_eq_nil, ← hasText_eq_false]
    cases ht : hasText text <;> cases hx : hasText existing <;> simp [ht, hx] at hiff ⊢
  by_cases he : hasText existing = false
  · rw [appendText, if_pos (hblank.trans he), appendText, if_pos he]
  by_cases ha : hasText addition = false
  · rw [appendText, if_neg (hblank ▸ he), if_pos ha, appendText, if_neg he, if_pos ha]
    exact hrun
  · rw [Bool.not_eq_false] at ha he
    rw [toList_appendText (hblank.trans he) ha, toList_appendText he ha, hrun]

/-! ## The placements at one element -/

variable {snapshot : ExportSnapshot}

def placeCell (snapshot : ExportSnapshot) (c : Cell) (p : TextPlacement) : Cell :=
  setCellText c (placedText snapshot c.text p)

/-- One placement writes the element of its locator and nothing else. -/
theorem placeText_ok {document document' : Document} {p : TextPlacement}
    (h : placeText snapshot document p = .ok document') :
    SameFrame document document' ∧ ∃ value e, sourceValue? snapshot p.sourceRef = some value ∧
      locate document p.targetLocator = some e ∧ ∀ e', element document' e'
        = if e' = e then (element document e').map (placeCell snapshot · p) else element document e' := by
  unfold placeText at h
  obtain ⟨value, hvalue, h⟩ := bind_eq_ok.1 h
  rw [orRaise_eq_ok] at hvalue
  cases hmode : p.mode with
  | append =>
    simp only [hmode, readLocatorText, writeLocatorText, bind_eq_ok, orRaise_eq_ok, pure_eq_ok] at h
    obtain ⟨-, ⟨e, he, c, hc, rfl⟩, e', he', rfl⟩ := h
    obtain rfl : e = e' := Option.some_inj.1 (he.symm.trans he')
    refine ⟨sameFrame_setElementText _ _ _, value, e, hvalue, he, fun e' => ?_⟩
    rw [element_setElementText]
    split_ifs with heq
    · subst heq
      simp [hc, placeCell, placedText, hvalue, hmode]
    · rfl
  | replace =>
    simp only [hmode, writeLocatorText, bind_eq_ok, orRaise_eq_ok, pure_eq_ok] at h
    obtain ⟨e, he, rfl⟩ := h
    refine ⟨sameFrame_setElementText _ _ _, value, e, hvalue, he, fun e' => ?_⟩
    rw [element_setElementText]
    simp [placeCell, placedText, hvalue, hmode]

/-- after the placements each element holds what the placements at that element made of it -/
theorem placements_element {ps : List TextPlacement} {document document' : Document}
    (h : ps.foldlM (placeText snapshot) document = .ok document') :
    SameFrame document document' ∧
      (∀ p ∈ ps, (∃ value, sourceValue? snapshot p.sourceRef = some value) ∧
        ∃ e, locate document p.targetLocator = some e) ∧
      ∀ e, element document' e = (element document e).map fun c =>
        (ps.filter fun p => locate document p.targetLocator = some e).foldl (placeCell snapshot) c := by
  induction ps generalizing document with
  | nil =>
    obtain rfl := pure_eq_ok.1 h
    exact ⟨.refl _, by simp, fun e => by simp⟩
  | cons p ps ih =>
    rw [List.foldlM_cons] at h
    obtain ⟨next, hstep, hrest⟩ := bind_eq_ok.1 h
    obtain ⟨hframe, value, e₀, hvalue, he₀, hnext⟩ := placeText_ok hstep
    obtain ⟨hframe', hfound, helement⟩ := ih hrest
    simp only [hframe.locate] at hfound helement
    refine ⟨hframe.trans hframe', ?_, fun e => ?_⟩
    · rintro q (_ | ⟨_, hq⟩)
      · exact ⟨⟨value, hvalue⟩, e₀, he₀⟩
      · exact hfound q hq
    · rw [helement, hnext]
      by_cases heq : e = e₀
      · subst heq
        rw [if_pos rfl, Option.map_map, List.filter_cons_of_pos (by simpa using he₀)]
        rfl
      · have hne : locate document p.targetLocator ≠ some e := fun h' =>
          heq (Option.some_inj.1 (h'.symm.trans he₀))
        rw [if_neg heq, List.filter_cons_of_neg (by simpa using hne)]

/-- up to the blank space at its end, the text of an element is what the placements make of its text -/
theorem text_placeCells {ps : List TextPlacement} {c : Cell} {text : String}
    (h : rstripChars isSpace c.text.toList = rstripChars isSpace (runText text).toList) :
    rstripChars isSpace (ps.foldl (placeCell snapshot) c).text.toList
      = rstripChars isSpace (runText (ps.foldl (placedText snapshot) text)).toList := by
  induction ps generalizing c text with
  | nil => exact h
  | cons p ps ih =>
    refine ih ?_
    rw [placeCell, rstrip_text_setCellText, placedText, placedText]
    cases p.mode with
    | append => exact appendText_congr _ h
    | replace => rfl

/-- what comes before a replacing placement does not matter -/
theorem placedTexts_of_replace {ps : List TextPlacement} (h : ∃ q ∈ ps, q.mode = .replace) (text text' : String) :
    ps.foldl (placedText snapshot) text = ps.foldl (placedText snapshot) text' := by
  induction ps generalizing text text' with
  | nil => simp at h
  | cons p ps ih =>
    by_cases hp : p.mode = .replace
    · simp [placedText, hp]
    · obtain ⟨q, hq, hmode⟩ := h
      rcases List.mem_cons.1 hq with rfl | hq
      · exact absurd hmode hp
      · exact ih ⟨q, hq, hmode⟩ _ _

/-- joining more texts loses no value -/
theorem occurs_placedTexts {ps : List TextPlacement} (h : ¬∃ q ∈ ps, q.mode = .replace) {value text : String}
    (hv : Occurs value (runText text)) : Occurs value (runText (ps.foldl (placedText snapshot) text)) := by
  induction ps generalizing text with
  | nil => exact hv
  | cons p ps ih =>
    refine ih (fun ⟨q, hq, hmode⟩ => h ⟨q, List.mem_cons_of_mem _ hq, hmode⟩) ?_
    cases hp : p.mode with
    | append =>
      simp only [placedText, hp]
      exact occurs_existing hv _
    | replace => exact absurd ⟨p, List.mem_cons_self, hp⟩ h

/-- **Overwriting.** A placed value is there after the later placements at its element, unless one of them replaces and
the value is not written again. -/
theorem occurs_iff {p : TextPlacement} {value : String} (hvalue : sourceValue? snapshot p.sourceRef = some value)
    (c : Cell) (later : List TextPlacement) :
    Occurs value ((p :: later).foldl (placeCell snapshot) c).text ↔
      ((∃ q ∈ later, q.mode = .replace) → Occurs value (runText (lastingText snapshot later))) := by
  have hwritten : Occurs value (runText (placedText snapshot c.text p)) := by
    unfold placedText
    rw [hvalue, Option.getD_some]
    cases p.mode with
    | append => exact occurs_addition _ value
    | replace => exact occurs_self value
  have htext : rstripChars isSpace (later.foldl (placeCell snapshot) (placeCell snapshot c p)).text.toList
      = rstripChars isSpace (runText (later.foldl (placedText snapshot) (placedText snapshot c.text p))).toList :=
    text_placeCells (rstrip_text_setCellText c (placedText snapshot c.text p))
  rw [List.foldl_cons, occurs_congr htext]
  by_cases hreplace : ∃ q ∈ later, q.mode = .replace
  · rw [placedTexts_of_replace hreplace _ "", lastingText]
    exact ⟨fun h _ => h, fun h => h hreplace⟩
  · exact ⟨fun _ h => absurd h hreplace, fun _ => occurs_placedTexts hreplace hwritten⟩

/-! ## Rows that are added -/

theorem addRows_spec (m : Nat) (t : Table) :
    (addRows m t).cells = t.cells ++ List.replicate (m * t.gridColumns) freshCell ∧
      (addRows m t).rows = t.rows ++ (List.range m).map fun j =>
        List.range' (t.cells.length + j * t.gridColumns) t.gridColumns := by
  induction m generalizing t with
  | zero => simp [addRows]
  | succ m ih =>
    obtain ⟨hcells, hrows⟩ := ih (addRow t)
    refine ⟨?_, ?_⟩
    · rw [addRows, hcells]
      simp only [addRow, List.append_assoc, List.replicate_append_replicate]
      rw [Nat.succ_mul, Nat.add_comm]
    · rw [addRows, hrows, List.range_succ_eq_map, List.map_cons, List.map_map]
      simp only [addRow, List.append_assoc, List.length_append, List.length_replicate, List.singleton_append,
        Nat.zero_mul, Nat.add_zero]
      congr 2
      refine List.map_congr_left fun j _ => ?_
      simp only [Function.comp]
      congr 1
      rw [Nat.succ_mul]
      omega

theorem cellAt_eq_ok {columnMap : List (String × Nat)} {rows : List (List Nat)} {row k : Nat} {column : String} :
    cellAt columnMap rows row column = .ok k ↔
      ∃ index, columnMap.lookup column = some index ∧ (rows[row]?.bind fun cells => cells[index]?) = some k := by
  simp only [cellAt, bind_eq_ok, orRaise_eq_ok, Option.bind_eq_some_iff]

/-- the cells of added rows are numbered row by row -/
theorem cellAt_added {columnMap : List (String × Nat)} {t : Table} {m j k : Nat} {column : String} (hj : j < m)
    (h : cellAt columnMap (addRows m t).rows (t.rows.length + j) column = .ok k) :
    ∃ index, columnMap.lookup column = some index ∧ index < t.gridColumns ∧
      k = t.cells.length + j * t.gridColumns + index := by
  obtain ⟨index, hindex, hk⟩ := cellAt_eq_ok.1 h
  have hrow : (addRows m t).rows[t.rows.length + j]?
      = some (List.range' (t.cells.length + j * t.gridColumns) t.gridColumns) := by
    rw [(addRows_spec m t).2, List.getElem?_append_right (Nat.le_add_right _ _), Nat.add_sub_cancel_left]
    simp [hj]
  rw [hrow, Option.bind_some] at hk
  obtain ⟨hlt, hget⟩ := List.getElem?_eq_some_iff.1 hk
  rw [List.length_range'] at hlt
  rw [List.getElem_range', Nat.one_mul] at hget
  exact ⟨index, hindex, hlt, hget.symm⟩

theorem lookup_inj {columnMap : List (String × Nat)} (hn : (columnMap.map Prod.snd).Nodup) {a b : String} {i : Nat}
    (ha : columnMap.lookup a = some i) (hb : columnMap.lookup b = some i) : a = b := by
  have hmem : ∀ x, columnMap.lookup x = some i → (x, i) ∈ columnMap := by
    intro x hx
    obtain ⟨l₁, l₂, hl, -⟩ := List.lookup_eq_some_iff.1 hx
    rw [hl]
    simp
  exact congrArg Prod.fst (List.inj_on_of_nodup_map hn (hmem a ha) (hmem b hb) rfl)

/-- no two fields of added rows share a cell -/
theorem cellAt_added_inj {columnMap : List (String × Nat)} (hn : (columnMap.map Prod.snd).Nodup) {t : Table}
    {m j j' k : Nat} {column column' : String} (hj : j < m) (hj' : j' < m)
    (h : cellAt columnMap (addRows m t).rows (t.rows.length + j) column = .ok k)
    (h' : cellAt columnMap (addRows m t).rows (t.rows.length + j') column' = .ok k) : j = j' ∧ column = column' := by
  obtain ⟨i, hi, hlt, hk⟩ := cellAt_added hj h
  obtain ⟨i', hi', hlt', hk'⟩ := cellAt_added hj' h'
  have hsum : j * t.gridColumns + i = j' * t.gridColumns + i' := by omega
  have hrow : j = j' := by
    have hdiv : ∀ a b : Nat, b < t.gridColumns → (a * t.gridColumns + b) / t.gridColumns = a := by
      intro a b hb
      rw [Nat.add_comm, Nat.add_mul_div_right _ _ (by omega), Nat.div_eq_of_lt hb, Nat.zero_add]
    rw [← hdiv j i hlt, hsum, hdiv j' i' hlt']
  subst hrow
  obtain rfl : i = i' := by omega
  exact ⟨rfl, lookup_inj hn hi hi'⟩

/-! ## Writing the rows -/

/-- the writes of the two loops, as row, column and value -/
def fieldWrites (start : Nat) (rows : List (List String)) : List (Nat × String × String) :=
  (rows.zipIdx start).flatMap fun row => (controlTableColumnNames.zip row.1).map fun field => (row.2, field)

theorem mem_fieldWrites {start : Nat} {rows : List (List String)} {w : Nat × String × String} :
    w ∈ fieldWrites start rows ↔
      ∃ j values, rows[j]? = some values ∧ w.1 = start + j ∧ w.2 ∈ controlTableColumnNames.zip values := by
  simp only [fieldWrites, List.mem_flatMap, List.mem_map, Prod.exists]
  constructor
  · rintro ⟨values, r, hr, field, value, hf, rfl⟩
    obtain ⟨hle, hget⟩ := List.mem_zipIdx_iff_le_and_getElem?_sub.1 hr
    exact ⟨r - start, values, hget, by simp only; omega, hf⟩
  · rintro ⟨j, values, hj, hw, hf⟩
    exact ⟨values, start + j, List.mem_zipIdx_iff_le_and_getElem?_sub.2 ⟨Nat.le_add_right _ _, by simpa using hj⟩,
      w.2.1, w.2.2, hf, by rw [← hw]⟩

theorem writeRows_eq (columnMap : List (String × Nat)) (start : Nat) (rows : List (List String)) (t : Table) :
    writeRows columnMap start rows t
      = (fieldWrites start rows).foldlM (fun t w => writeField columnMap w.1 t w.2) t := by
  unfold writeRows fieldWrites
  induction rows.zipIdx start generalizing t with
  | nil => rfl
  | cons row rest ih =>
    rw [List.flatMap_cons, List.foldlM_append, List.foldlM_cons, List.foldlM_map]
    exact congrArg (writeTableRow columnMap t row >>= ·) (funext ih)

/-- What the writes do to the cells: a cell of one paragraph shows one of the values written to it, and a cell that is
not written is unchanged. -/
theorem writeFields_ok {columnMap : List (String × Nat)} {ws : List (Nat × String × String)} {t t' : Table}
    (h : ws.foldlM (fun t w => writeField columnMap w.1 t w.2) t = .ok t') :
    t'.rows = t.rows ∧ (∀ w ∈ ws, ∃ k, cellAt columnMap t.rows w.1 w.2.1 = .ok k) ∧
      (∀ k, (∀ w ∈ ws, cellAt columnMap t.rows w.1 w.2.1 ≠ .ok k) → t'.cells[k]? = t.cells[k]?) ∧
      ∀ k c, t.cells[k]? = some c → c.paragraphs.length = 1 → ∃ c', t'.cells[k]? = some c' ∧
        c'.paragraphs.length = 1 ∧ (c' = c ∧ (∀ w ∈ ws, cellAt columnMap t.rows w.1 w.2.1 ≠ .ok k) ∨
          ∃ w ∈ ws, cellAt columnMap t.rows w.1 w.2.1 = .ok k ∧ c'.text = runText w.2.2) := by
  induction ws generalizing t with
  | nil =>
    obtain rfl := pure_eq_ok.1 h
    exact ⟨rfl, by simp, fun _ _ => rfl, fun k c hc hone => ⟨c, hc, hone, .inl ⟨rfl, by simp⟩⟩⟩
  | cons w ws ih =>
    rw [List.foldlM_cons] at h
    obtain ⟨next, hstep, hrest⟩ := bind_eq_ok.1 h
    obtain ⟨k₀, hk₀, hnext⟩ := bind_eq_ok.1 hstep
    obtain rfl := pure_eq_ok.1 hnext
    obtain ⟨hrows, hfound, hother, hcell⟩ := ih hrest
    have hset : (t.setCell k₀ w.2.2).rows = t.rows := rfl
    rw [hset] at hrows hfound hother hcell
    have hget : ∀ k, k ≠ k₀ → (t.setCell k₀ w.2.2).cells[k]? = t.cells[k]? := by
      intro k hk
      simp [Table.setCell, Ne.symm hk]
    refine ⟨hrows, ?_, ?_, ?_⟩
    · rintro v (_ | ⟨_, hv⟩)
      · exact ⟨k₀, hk₀⟩
      · exact hfound v hv
    · intro k hk
      have hne : k ≠ k₀ := fun heq => hk w List.mem_cons_self (heq ▸ hk₀)
      rw [hother k fun v hv => hk v (List.mem_cons_of_mem _ hv), hget k hne]
    · intro k c hc hone
      by_cases hk : k = k₀
      · subst hk
        obtain ⟨htext, hone'⟩ := text_setCellText_single hone w.2.2
        have hc' : (t.setCell k w.2.2).cells[k]? = some (setCellText c w.2.2) := by
          simp [Table.setCell, hc]
        obtain ⟨c', hget', hlen, ⟨rfl, -⟩ | ⟨v, hv, hat, hval⟩⟩ := hcell k _ hc' hone'
        · exact ⟨_, hget', hlen, .inr ⟨w, List.mem_cons_self, hk₀, htext⟩⟩
        · exact ⟨c', hget', hlen, .inr ⟨v, List.mem_cons_of_mem _ hv, hat, hval⟩⟩
      · obtain ⟨c', hget', hlen, ⟨rfl, hnone⟩ | ⟨v, hv, hat, hval⟩⟩ := hcell k c ((hget k hk).trans hc) hone
        · refine ⟨_, hget', hlen, .inl ⟨rfl, ?_⟩⟩
          rintro v (_ | ⟨_, hv⟩)
          · exact fun h' => hk (Except.ok.inj (h'.symm.trans hk₀))
          · exact hnone v hv
        · exact ⟨c', hget', hlen, .inr ⟨v, List.mem_cons_of_mem _ hv, hat, hval⟩⟩

/-- a column of a row has one value -/
theorem zip_unique {values : List String} {a : String} {x y : String}
    (hx : (a, x) ∈ controlTableColumnNames.zip values) (hy : (a, y) ∈ controlTableColumnNames.zip values) : x = y := by
  obtain ⟨i, hi⟩ := List.mem_iff_getElem?.1 hx
  obtain ⟨j, hj⟩ := List.mem_iff_getElem?.1 hy
  rw [List.getElem?_zip_eq_some] at hi hj
  have hij : i = j := by
    have hlt := (List.getElem?_eq_some_iff.1 hi.1).1
    exact (List.getElem?_inj hlt (by decide)).1 (hi.1.trans hj.1.symm)
  exact Option.some_inj.1 (hi.2.symm.trans (hij ▸ hj.2))

/-- **The control table.** Rows written into rows that were just added: every field stands in its column, and the cells
that were there are unchanged. -/
theorem writeRows_spec {columnMap : List (String × Nat)} (hn : (columnMap.map Prod.snd).Nodup)
    {rows : List (List String)} {t t' : Table}
    (h : writeRows columnMap t.rows.length rows (addRows rows.length t) = .ok t') :
    t'.rows = (addRows rows.length t).rows ∧ (∀ k < t.cells.length, t'.cells[k]? = t.cells[k]?) ∧
      ∀ j values, rows[j]? = some values → ∀ field ∈ controlTableColumnNames.zip values, ∃ k c,
        cellAt columnMap t'.rows (t.rows.length + j) field.1 = .ok k ∧ t'.cells[k]? = some c ∧
          c.text = runText field.2 := by
  rw [writeRows_eq] at h
  obtain ⟨hrows, hfound, hother, hcell⟩ := writeFields_ok h
  have hadded := addRows_spec rows.length t
  refine ⟨hrows, ?_, ?_⟩
  · intro k hk
    rw [hother k, hadded.1, List.getElem?_append_left hk]
    intro w hw hat
    obtain ⟨j, values, hj, hw1, -⟩ := mem_fieldWrites.1 hw
    rw [hw1] at hat
    obtain ⟨index, -, -, rfl⟩ := cellAt_added (List.getElem?_eq_some_iff.1 hj).1 hat
    omega
  · intro j values hj field hfield
    have hjlt := (List.getElem?_eq_some_iff.1 hj).1
    have hmem : (t.rows.length + j, field) ∈ fieldWrites t.rows.length rows :=
      mem_fieldWrites.2 ⟨j, values, hj, rfl, hfield⟩
    obtain ⟨k, hk⟩ := hfound _ hmem
    obtain ⟨index, -, hlt, hkeq⟩ := cellAt_added hjlt hk
    have hfresh : (addRows rows.length t).cells[k]? = some freshCell := by
      have hbound : j * t.gridColumns + index < rows.length * t.gridColumns :=
        calc j * t.gridColumns + index < j * t.gridColumns + t.gridColumns := by omega
          _ = (j + 1) * t.gridColumns := by rw [Nat.succ_mul]
          _ ≤ rows.length * t.gridColumns := Nat.mul_le_mul_right _ hjlt
      rw [hadded.1, List.getElem?_append_right (by omega), List.getElem?_replicate, if_pos (by omega)]
    obtain ⟨c', hc', -, ⟨-, hnone⟩ | ⟨w, hw, hat, hval⟩⟩ := hcell k freshCell hfresh rfl
    · exact absurd hk (hnone _ hmem)
    · obtain ⟨j', values', hj', hw1, hw2⟩ := mem_fieldWrites.1 hw
      rw [hw1] at hat
      obtain ⟨rfl, hcolumn⟩ := cellAt_added_inj hn hjlt (List.getElem?_eq_some_iff.1 hj').1 hk hat
      obtain rfl : values = values' := Option.some_inj.1 (hj.symm.trans hj')
      have hvalue : field.2 = w.2.2 := zip_unique hfield (by rw [hcolumn]; exact hw2)
      exact ⟨k, c', hrows ▸ hk, hc', by rw [hval, hvalue]⟩

/-! ## The rendered control table -/

theorem element_rendered (document : Document) (e : Element) :
    element (insertDraftNotice document) e.rendered = element document e := by
  cases e <;> simp [element, insertDraftNotice, Element.rendered]

theorem length_controlRows (controls : List ExportControl) :
    ((KeyedList.sorted ExportControl.controlId controls).map controlRow).length = controls.length := by
  rw [List.length_map, (KeyedList.sorted_perm controls).length_eq]

/-- Rendering the control table keeps every element and lists the controls. -/
theorem renderControlTable_ok {document document' : Document} {plan : ControlTablePlan} {controls : List ExportControl}
    (hn : (plan.columnMap.map Prod.snd).Nodup) (h : renderControlTable document plan controls = .ok document') :
    (∀ e c, element document e = some c → element document' e = some c) ∧
      ControlsRendered document plan controls document' := by
  unfold renderControlTable at h
  unfold ControlsRendered
  have hrow : ∀ (j : Nat) control, (KeyedList.sorted ExportControl.controlId controls)[j]? = some control →
      ((KeyedList.sorted ExportControl.controlId controls).map controlRow)[j]? = some (controlRow control) := by
    intro j control hj
    rw [List.getElem?_map, hj, Option.map_some]
  have hlen := length_controlRows controls
  generalize hrows : (KeyedList.sorted ExportControl.controlId controls).map controlRow = rows at h hrow hlen
  cases hindex : plan.tableIndex with
  | none =>
    simp only [hindex, bind_eq_ok, pure_eq_ok] at h
    obtain ⟨table, htable, rfl⟩ := h
    rw [newTable, Nat.add_comm, ← List.length_cons] at htable
    obtain ⟨hgrid, -, hfields⟩ := writeRows_spec hn htable
    refine ⟨?_, table, ?_, ?_, ?_⟩
    · intro e c hc
      cases e with
      | paragraph i =>
        rw [element, bodyParagraphs_addTable]
        exact hc
      | cell t k =>
        obtain ⟨old, hold, hk⟩ := Option.bind_eq_some_iff.1 hc
        have hlt := (List.getElem?_eq_some_iff.1 hold).1
        rw [element, bodyTables_addTable, List.getElem?_append_left hlt, hold, Option.bind_some, hk]
    · rw [bodyTables_addTable]
      simp
    · rw [hgrid, (addRows_spec _ _).2]
      simp [hlen, Nat.add_comm]
    · intro j control hj field hfield
      have hcell := hfields (j + 1) _ (hrow j control hj) field hfield
      rwa [List.length_nil, Nat.zero_add, Nat.add_comm j 1] at hcell
  | some i =>
    simp only [hindex, bind_eq_ok, orRaise_eq_ok, pure_eq_ok] at h
    obtain ⟨old, hold, written, hwritten, rfl⟩ := h
    obtain ⟨hgrid, hcells, hfields⟩ := writeRows_spec hn hwritten
    have hrowsEq := (addRows_spec rows.length old).2
    have hnew : (bodyTables (modifyTable (fun _ => written) i document))[i]? = some written := by
      rw [bodyTables_modifyTable]
      simp [hold]
    refine ⟨?_, old, written, hold, hnew, ?_, ?_, ?_⟩
    · intro e c hc
      cases e with
      | paragraph j => simpa [element, bodyParagraphs_modifyTable] using hc
      | cell t k =>
        obtain ⟨table, htable, hk⟩ := Option.bind_eq_some_iff.1 hc
        by_cases ht : t = i
        · subst ht
          obtain rfl : old = table := Option.some_inj.1 (hold.symm.trans htable)
          have hlt := (List.getElem?_eq_some_iff.1 hk).1
          simp only [element, hnew, Option.bind_some]
          rw [hcells k hlt, hk]
        · simp [element, bodyTables_modifyTable, Ne.symm ht, htable, hk]
    · rw [hgrid, hrowsEq, List.take_left]
    · rw [hgrid, hrowsEq]
      simp [hlen]
    · exact fun j control hj field hfield => hfields j _ (hrow j control hj) field hfield

/-- the control table of the template has the grid of the one that the placements left -/
theorem ControlsRendered.of_sameFrame {template middle document : Document} {plan : ControlTablePlan}
    {controls : List ExportControl} (hframe : SameFrame template middle)
    (h : ControlsRendered middle plan controls document) : ControlsRendered template plan controls document := by
  unfold ControlsRendered at h ⊢
  cases hindex : plan.tableIndex with
  | none =>
    simp only [hindex] at h ⊢
    have hlen : (bodyTables middle).length = (bodyTables template).length := by
      simpa using congrArg List.length hframe.tables
    rwa [hlen] at h
  | some i =>
    simp only [hindex] at h ⊢
    obtain ⟨old, table, hold, htable, htake, hlists⟩ := h
    have hrows : ((bodyTables template)[i]?).map Table.rows = some old.rows := by
      rw [← List.getElem?_map, ← hframe.tables, List.getElem?_map, hold, Option.map_some]
    obtain ⟨first, hfirst, heq⟩ := Option.map_eq_some_iff.1 hrows
    exact ⟨first, table, hfirst, htable, heq ▸ htake, heq ▸ hlists⟩

/-! ## The rendered document -/

/-- **Rendering.** In a rendered document every placed value is at its target, nothing else changed and the control
table lists the controls, if and only if no value is overwritten: an earlier value at a paragraph or cell that a later
placement replaces is written again from there on. -/
theorem render_places_iff {limit : Nat} {template document : Document} {outline : TemplateOutline}
    {payload : List (String × Json)} {sectionIds : List String} {plan : MappingPlan} {snapshot : ExportSnapshot}
    (houtline : extractTemplateOutline limit template = .ok outline)
    (hplan : parseMappingPlan payload outline sectionIds = .ok plan)
    (hrender : renderTemplate limit template plan snapshot = .ok document) :
    PlacesEverything template plan snapshot document ↔ NothingOverwritten template plan snapshot := by
  have hcolumns := (parseMappingPlan_columns hplan).2
  unfold renderTemplate at hrender
  rw [houtline] at hrender
  obtain ⟨_, -, hrender⟩ := bind_eq_ok.1 hrender
  obtain ⟨-, -, hrender⟩ := bind_eq_ok.1 hrender
  obtain ⟨middle, hmiddle, hrender⟩ := bind_eq_ok.1 hrender
  obtain ⟨listed, hlisted, hrender⟩ := bind_eq_ok.1 hrender
  obtain rfl := pure_eq_ok.1 hrender
  obtain ⟨hframe, hfound, helement⟩ := placements_element hmiddle
  obtain ⟨hkept, hcontrols⟩ := renderControlTable_ok hcolumns hlisted
  -- what an element of the template holds at the end
  have hfinal : ∀ e c, element template e = some c → element (insertDraftNotice listed) e.rendered
      = some ((plan.textPlacements.filter fun p => locate template p.targetLocator = some e).foldl
          (placeCell snapshot) c) := by
    intro e c hc
    rw [element_rendered]
    exact hkept e _ (by rw [helement, hc, Option.map_some])
  -- the text at the element of one placement, by the placements that follow it
  have hplaced : ∀ before p after, plan.textPlacements = before ++ p :: after →
      (Placed template snapshot (insertDraftNotice listed) p ↔
        ((∃ q ∈ placementsAt template p.targetLocator after, q.mode = .replace) →
          Occurs ((sourceValue? snapshot p.sourceRef).getD "")
            (runText (lastingText snapshot (placementsAt template p.targetLocator after))))) := by
    intro before p after hsplit
    obtain ⟨⟨value, hvalue⟩, e, he⟩ := hfound p (hsplit ▸ by simp)
    obtain ⟨c, hc⟩ := element_of_locate he
    have hat : placementsAt template p.targetLocator after
        = after.filter fun q => locate template q.targetLocator = some e := by
      rw [placementsAt, he]
    have hlast := hfinal e c hc
    rw [hsplit, List.filter_append, List.filter_cons_of_pos (by simpa using he), List.foldl_append] at hlast
    rw [hat, hvalue, Option.getD_some, ← occurs_iff hvalue]
    constructor
    · rintro ⟨value', e', c', hvalue', he', hc', hoccurs⟩
      obtain rfl : value = value' := Option.some_inj.1 (hvalue.symm.trans hvalue')
      obtain rfl : e = e' := Option.some_inj.1 (he.symm.trans he')
      exact Option.some_inj.1 (hc'.symm.trans hlast) ▸ hoccurs
    · exact fun hoccurs => ⟨value, e, _, hvalue, he, hlast, hoccurs⟩
  constructor
  · intro h before p after hsplit
    exact (hplaced before p after hsplit).1 (h.placed p (hsplit ▸ by simp))
  · intro h
    refine ⟨?_, ?_, hcontrols.of_sameFrame hframe⟩
    · intro p hp
      obtain ⟨before, after, hsplit⟩ := List.append_of_mem hp
      exact (hplaced before p after hsplit).2 (h before p after hsplit)
    · intro e c hc hno
      rw [hfinal e c hc, List.filter_eq_nil_iff.2 (by simpa using hno), List.foldl_nil]

/-- nothing is overwritten where no placement replaces an element that an earlier one was placed at -/
theorem nothingOverwritten_of_pairwise {template : Document} {plan : MappingPlan} {snapshot : ExportSnapshot}
    (h : plan.textPlacements.Pairwise fun p q =>
      q.mode = .replace → locate template q.targetLocator ≠ locate template p.targetLocator) :
    NothingOverwritten template plan snapshot := by
  rintro before p after hsplit ⟨q, hq, hmode⟩
  rw [hsplit, List.pairwise_append, List.pairwise_cons] at h
  rw [placementsAt, List.mem_filter] at hq
  exact absurd (of_decide_eq_true hq.2) (h.2.1.1 q hq.1 hmode)

namespace Merged

/-- a line to fill in, and a row of two columns that one merged cell spans -/
def mergedTemplate : Document :=
  [.paragraph ⟨["System: ", "____"]⟩,
    .table { cells := [⟨[⟨["Name and version"]⟩]⟩], rows := [[0, 0]], gridColumns := 2, within := by decide }]

def exported : ExportSnapshot where
  displayName := "Atlas"
  externalSystemId := none
  profileId := "fisma"
  version := "2.1"
  impactLevel := "moderate"
  sections := []
  controls := [⟨"AC-2", "Accounts", "planned", "hybrid", "Kept in Atlas.", ["artifact-1"]⟩,
    ⟨"AC-1", "Policy", "implemented", "system", "Reviewed yearly.", []⟩]
  sectionsDistinct := by decide
  controlsDistinct := by decide

def placementEntry (target ref mode : String) : Json :=
  .obj [("target_locator", .str target), ("source_ref", .str ref), ("mode", .str mode)]

/-- a response with its placements and a control table of its own -/
def response (placements : List Json) : List (String × Json) :=
  [("schema_version", .str "1.0.0"), ("text_placements", .arr placements),
    ("control_table", .obj [("table_index", .null),
      ("column_map", .obj (canonicalAppendColumnMap.map fun c => (c.1, .int c.2)))]),
    ("exceptions", .arr []), ("summary", .str "")]

def mergedOutline : TemplateOutline :=
  ⟨[⟨"paragraph:0", "System: ____"⟩],
    [⟨"table:0:cell:0:0", "Name and version"⟩, ⟨"table:0:cell:0:1", "Name and version"⟩]⟩

def placing (placements : List TextPlacement) : MappingPlan :=
  { textPlacements := placements, controlTable := ⟨none, canonicalAppendColumnMap⟩, exceptions := [], summary := "" }

/-- the name on the line; the name and then the version in the merged cell -/
def joiningPlan : MappingPlan :=
  placing [⟨"paragraph:0", "system.display_name", .append⟩, ⟨"table:0:cell:0:0", "system.display_name", .replace⟩,
    ⟨"table:0:cell:0:1", "profile.version", .append⟩]

/-- the name and the version, each replacing the text of the merged cell -/
def replacingPlan : MappingPlan :=
  placing [⟨"table:0:cell:0:0", "system.display_name", .replace⟩, ⟨"table:0:cell:0:1", "profile.version", .replace⟩]

theorem outline_merged : extractTemplateOutline 1000 mergedTemplate = .ok mergedOutline := by decide

end Merged

open Merged in
/-- a placement that appends to a merged cell keeps what an earlier one put there -/
theorem joined_cell_rendered : ∃ document, renderTemplate 1000 mergedTemplate joiningPlan exported = .ok document ∧
    PlacesEverything mergedTemplate joiningPlan exported document := by
  have hplan : parseMappingPlan (response [placementEntry "paragraph:0" "system.display_name" "append",
      placementEntry "table:0:cell:0:0" "system.display_name" "replace",
      placementEntry "table:0:cell:0:1" "profile.version" "append"]) mergedOutline [] = .ok joiningPlan := by
    decide
  have hrender : ∃ document, renderTemplate 1000 mergedTemplate joiningPlan exported = .ok document := by
    have hok : (renderTemplate 1000 mergedTemplate joiningPlan exported).isOk = true := by decide
    cases h : renderTemplate 1000 mergedTemplate joiningPlan exported with
    | error e => simp [h, Except.isOk, Except.toBool] at hok
    | ok document => exact ⟨document, rfl⟩
  obtain ⟨document, hdocument⟩ := hrender
  have hkept : NothingOverwritten mergedTemplate joiningPlan exported :=
    nothingOverwritten_of_pairwise (by decide)
  exact ⟨document, hdocument, (render_places_iff outline_merged hplan hdocument).2 hkept⟩

open Merged in
/-- two locators of one merged cell: the plan is accepted, and the second placement replaces the first -/
theorem mergedCell_overwritten : ∃ outline plan document, extractTemplateOutline 1000 mergedTemplate = .ok outline ∧
    parseMappingPlan (response [placementEntry "table:0:cell:0:0" "system.display_name" "replace",
      placementEntry "table:0:cell:0:1" "profile.version" "replace"]) outline [] = .ok plan ∧
    renderTemplate 1000 mergedTemplate plan exported = .ok document ∧
    ¬PlacesEverything mergedTemplate plan exported document := by
  have hplan : parseMappingPlan (response [placementEntry "table:0:cell:0:0" "system.display_name" "replace",
      placementEntry "table:0:cell:0:1" "profile.version" "replace"]) mergedOutline [] = .ok replacingPlan := by
    decide
  have htext : ((renderTemplate 1000 mergedTemplate replacingPlan exported).map fun document =>
      (element document (.cell 0 0)).map Cell.text) = .ok (some "2.1") := by
    decide
  cases hrender : renderTemplate 1000 mergedTemplate replacingPlan exported with
  | error e => simp [hrender, Except.map] at htext
  | ok document =>
    refine ⟨mergedOutline, replacingPlan, document, outline_merged, hplan, hrender, fun h => ?_⟩
    obtain ⟨value, e, c, hvalue, he, hc, hoccurs⟩ := h.placed
      ⟨"table:0:cell:0:0", "system.display_name", .replace⟩ List.mem_cons_self
    have hname : sourceValue? exported "system.display_name" = some "Atlas" := by decide
    have hcell : locate mergedTemplate "table:0:cell:0:0" = some (.cell 0 0) := by decide
    obtain rfl : "Atlas" = value := Option.some_inj.1 (hname.symm.trans hvalue)
    obtain rfl : Element.cell 0 0 = e := Option.some_inj.1 (hcell.symm.trans he)
    have hlast : c.text = "2.1" := by
      rw [hrender] at htext
      simpa [Except.map, show element document (.cell 0 0) = some c from hc] using htext
    exact absurd (hlast ▸ hoccurs) (by decide)

end AtoService.Workspace.AgencyDocx
