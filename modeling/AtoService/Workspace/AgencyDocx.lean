/-
The review of a rendered agency template, and the human decision on the render.

A mapping plan lists exceptions, the deterministic check of the rendered control table may add an issue, and the review
of the model adds its own. `mergeReviewIssues` keeps the first issue of each code and locator, up to `maxIssues`. The
plan and the merged review are stored as JSON documents; the render awaits approval if neither shows a blocker.

What python-docx reads of the rendered document enters as the texts of its body tables, and what the model returned as
the JSON object of its response.

- `plan_shows`, `review_shows`: the stored documents show a blocker if and only if the plan, respectively the merged
  review, has one.
- `never_approved`: a render whose review failed is never approved.
- `blocker_kept_iff`: no blocker is lost if and only if a plan exception is a blocker, or no issue is, or some blocker is
  the first issue of its code and locator and fewer than `maxIssues` codes and locators come before it.
Witness `blocker_dropped`: a warning of the plan hides a blocker of the model that carries the same code.
-/
import AtoService.Lib.FirstWins
import AtoService.Lib.Json
import AtoService.Lib.Results
import AtoService.Lib.Runs

namespace AtoService.Workspace.AgencyDocx

open AtoService.Py

def schemaVersion : String := "1.0.0"

def maxIssues : Nat := 200

def maxExceptions : Nat := 100

def maxSummaryLength : Nat := 8000

def maxMessageLength : Nat := 4000

def maxCodeLength : Nat := 128

/-! ## Plans and reviews -/

inductive IssueSeverity where
  | blocker | warning
deriving DecidableEq, Repr

namespace IssueSeverity

def text : IssueSeverity → String
  | .blocker => "blocker"
  | .warning => "warning"

def ofText? (s : String) : Option IssueSeverity :=
  if s = "blocker" then some .blocker else if s = "warning" then some .warning else none

theorem text_eq_blocker {s : IssueSeverity} : s.text = "blocker" ↔ s = .blocker := by
  cases s <;> decide

theorem ofText?_eq_some {t : String} {s : IssueSeverity} : ofText? t = some s ↔ t = s.text := by
  unfold ofText?
  split_ifs with hb hw
  · cases s <;> simp [hb, text]
  · cases s <;> simp [hw, text]
  · cases s <;> simp [hb, hw, text]

end IssueSeverity

inductive PlacementMode where
  | replace | append
deriving DecidableEq, Repr

namespace PlacementMode

def text : PlacementMode → String
  | .replace => "replace"
  | .append => "append"

end PlacementMode

structure TextPlacement where
  targetLocator : String
  sourceRef : String
  mode : PlacementMode
deriving DecidableEq, Repr

structure ControlTablePlan where
  tableIndex : Option Nat
  columnMap : List (String × Nat)
deriving DecidableEq, Repr

structure MappingException where
  severity : IssueSeverity
  code : String
  message : String
deriving DecidableEq, Repr

structure MappingPlan where
  textPlacements : List TextPlacement
  controlTable : ControlTablePlan
  exceptions : List MappingException
  summary : String
deriving DecidableEq, Repr

structure ReviewIssue where
  severity : IssueSeverity
  code : String
  message : String
  locator : Option String
deriving DecidableEq, Repr

structure ReviewFacts where
  sectionCount : Nat
  controlCount : Nat
  planExceptionCount : Nat
  renderedParagraphCount : Nat
  renderedCellCount : Nat
  renderedTableCount : Nat
deriving DecidableEq, Repr

structure ReviewResult where
  summary : String
  issues : List ReviewIssue
  facts : ReviewFacts
deriving DecidableEq, Repr

/-! ## Reading responses -/

inductive ContractError where
  | keysInvalid (context : String) (missing extra : List String)
  | detail (text : String)
deriving DecidableEq, Repr

def refuse {α : Type} (text : String) : Except ContractError α := .error (.detail text)

/-- blank space between words becomes one blank -/
def collapse : List Char → List Char
  | [] => []
  | [c] => if isSpace c then [' '] else [c]
  | c :: c' :: cs =>
    if isSpace c then if isSpace c' then collapse (c' :: cs) else ' ' :: collapse (c' :: cs)
    else c :: collapse (c' :: cs)

def boundedText (value : Option Json) (fieldName : String) (maximum : Nat) (allowEmpty : Bool) :
    Except ContractError String :=
  match value.bind Json.asStr with
  | none => refuse (fieldName ++ " must be a string")
  | some s =>
    let normalized := strip (String.ofList (collapse (chars s)))
    if normalized = "" ∧ allowEmpty = false then refuse (fieldName ++ " must be non-empty")
    else if maximum < normalized.length then refuse (fieldName ++ " exceeds maximum of " ++ toString maximum)
    else .ok normalized

def requireExactKeys (document : List (String × Json)) (expected : List String) (context : String) :
    Except ContractError Unit :=
  let missing := expected.filter fun k => k ∉ document.map Prod.fst
  let extra := (document.map Prod.fst).filter fun k => k ∉ expected
  if missing = [] ∧ extra = [] then .ok () else .error (.keysInvalid context missing extra)

def objectList (value : Option Json) (fieldName : String) (maximum : Nat) :
    Except ContractError (List (List (String × Json))) :=
  match value.bind Json.asArr with
  | none => refuse (fieldName ++ " must be an array")
  | some items =>
    if maximum < items.length then refuse (fieldName ++ " exceeds maximum of " ++ toString maximum)
    else match items.mapM Json.asObj with
      | none => refuse (fieldName ++ " must contain objects")
      | some objects => .ok objects

def parseSeverity (value : Option Json) (text : String) : Except ContractError IssueSeverity :=
  match (value.bind Json.asStr).bind IssueSeverity.ofText? with
  | none => refuse text
  | some s => .ok s

def parseMappingException (entry : List (String × Json)) (index : Nat) : Except ContractError MappingException := do
  requireExactKeys entry ["severity", "code", "message"] ("exceptions[" ++ toString index ++ "]")
  let severity ← parseSeverity (Json.member "severity" entry) "exception severity is not allowed"
  let code ← boundedText (Json.member "code" entry) "code" maxCodeLength false
  let message ← boundedText (Json.member "message" entry) "message" maxMessageLength false
  return { severity, code, message }

/-- the exceptions of a mapping plan that is parsed again -/
def parseExceptions (payload : List (String × Json)) : Except ContractError (List MappingException) := do
  let entries ← objectList (Json.member "exceptions" payload) "exceptions" maxExceptions
  entries.zipIdx.mapM fun e => parseMappingException e.1 e.2

def parseLocator (value : Option Json) : Except ContractError (Option String) :=
  match value with
  | none => .ok none
  | some .null => .ok none
  | some v => some <$> boundedText (some v) "locator" 128 false

def parseReviewIssue (entry : List (String × Json)) (index : Nat) : Except ContractError ReviewIssue := do
  requireExactKeys entry ["severity", "code", "message", "locator"] ("issues[" ++ toString index ++ "]")
  let severity ← parseSeverity (Json.member "severity" entry) "issue severity is not allowed"
  let code ← boundedText (Json.member "code" entry) "code" maxCodeLength false
  let message ← boundedText (Json.member "message" entry) "message" maxMessageLength false
  let locator ← parseLocator (Json.member "locator" entry)
  return { severity, code, message, locator }

/-- the summary and the issues of the model's review -/
def parseReviewResponse (payload : List (String × Json)) : Except ContractError (String × List ReviewIssue) := do
  if (Json.member "schema_version" payload).bind Json.asStr ≠ some schemaVersion then
    refuse "unsupported schema_version"
  requireExactKeys payload ["schema_version", "summary", "issues"] "review response"
  let summary ← boundedText (Json.member "summary" payload) "summary" maxSummaryLength true
  let entries ← objectList (Json.member "issues" payload) "issues" maxIssues
  let issues ← entries.zipIdx.mapM fun e => parseReviewIssue e.1 e.2
  return (summary, issues)

/-! ## The review -/

/-- the texts of the cells of the body tables of the rendered document: tables, rows, cells -/
abbrev Tables := List (List (List String))

/-- whether the control table has a row with an identifier for every control; nothing where a row is too short -/
def controlTableRowsAccounted (tables : Tables) (plan : MappingPlan) (controlCount : Nat) : Option Bool :=
  let table := match plan.controlTable.tableIndex with
    | none => tables.getLast?
    | some i => tables[i]?
  match table with
  | none => some false
  | some rows => do
    let column ← plan.controlTable.columnMap.lookup "control_id"
    let cells ← (rows.drop 1).mapM fun row => row[column]?
    return controlCount ≤ cells.countP hasText

def exceptionIssue (e : MappingException) : ReviewIssue := ⟨e.severity, e.code, e.message, none⟩

/-- the issue of a control table that lacks rows -/
def rowCountIssue (plan : MappingPlan) : ReviewIssue where
  severity := .blocker
  code := "control_table_row_count"
  message := "Rendered control table does not account for all approved controls."
  locator := plan.controlTable.tableIndex.map fun i => "table:" ++ toString i

def deterministicReviewIssues (plan : MappingPlan) (controlCount : Nat) (tables : Tables) : Option (List ReviewIssue) :=
  if controlCount = 0 then some (plan.exceptions.map exceptionIssue)
  else do
    let accounted ← controlTableRowsAccounted tables plan controlCount
    return plan.exceptions.map exceptionIssue ++ if accounted then [] else [rowCountIssue plan]

/-- what two issues share when the later one is dropped -/
def ReviewIssue.key (i : ReviewIssue) : String × Option String := (i.code, i.locator)

/-- the groups one after the other; the loop returns from both loops once the list is full -/
def mergeReviewIssues (groups : List (List ReviewIssue)) : List ReviewIssue :=
  FirstWins.collect ReviewIssue.key maxIssues [] [] groups.flatten

/-! ## Stored documents -/

def exceptionDocument (e : MappingException) : Json :=
  .obj [("severity", .str e.severity.text), ("code", .str e.code), ("message", .str e.message)]

def issueDocument (i : ReviewIssue) : Json :=
  .obj [("severity", .str i.severity.text), ("code", .str i.code), ("message", .str i.message),
    ("locator", i.locator.elim .null .str)]

def mappingPlanDocument (plan : MappingPlan) : Json :=
  .obj [("schema_version", .str schemaVersion),
    ("text_placements", .arr (plan.textPlacements.map fun p => .obj [("target_locator", .str p.targetLocator),
      ("source_ref", .str p.sourceRef), ("mode", .str p.mode.text)])),
    ("control_table", .obj [("table_index", plan.controlTable.tableIndex.elim .null fun i => .int i),
      ("column_map", .obj (plan.controlTable.columnMap.map fun c => (c.1, .int c.2)))]),
    ("exceptions", .arr (plan.exceptions.map exceptionDocument)),
    ("summary", .str plan.summary)]

def reviewResultDocument (result : ReviewResult) : Json :=
  .obj [("schema_version", .str schemaVersion), ("summary", .str result.summary),
    ("issues", .arr (result.issues.map issueDocument)),
    ("facts", .obj [("section_count", .int result.facts.sectionCount), ("control_count", .int result.facts.controlCount),
      ("plan_exception_count", .int result.facts.planExceptionCount),
      ("rendered_paragraph_count", .int result.facts.renderedParagraphCount),
      ("rendered_cell_count", .int result.facts.renderedCellCount),
      ("rendered_table_count", .int result.facts.renderedTableCount)])]

/-- `item.get("severity")` of an object, when it is a string -/
def itemSeverity (item : Json) : Option String := (item.asObj.bind (Json.member "severity")).bind Json.asStr

/-- `isinstance(item, dict) and item.get("severity") == "blocker"` -/
def itemIsBlocker (item : Json) : Bool := itemSeverity item == some "blocker"

/-- a list of the document has a blocker -/
def listHasBlocker (key : String) (document : Json) : Bool :=
  match (document.asObj.bind (Json.member key)).bind Json.asArr with
  | none => false
  | some items => items.any itemIsBlocker

def mappingPlanHasBlocker (exceptions : List MappingException) (document : Json) : Bool :=
  exceptions.any (fun e => e.severity = .blocker) || listHasBlocker "exceptions" document

def reviewHasBlocker (document : Json) : Bool := listHasBlocker "issues" document

/-- the empty plan stands for the plan that is no longer at hand -/
def storedRenderHasBlocker (mappingPlan reviewResult : Json) : Bool :=
  mappingPlanHasBlocker [] mappingPlan || reviewHasBlocker reviewResult

/-! ## Renders -/

inductive RenderStatus where
  | awaitingApproval | reviewFailed | approved | rejected
deriving DecidableEq, Repr

def agencyDocxRenderStatus (plan : MappingPlan) (planDocument reviewDocument : Json) : RenderStatus :=
  if mappingPlanHasBlocker plan.exceptions planDocument then .reviewFailed
  else if reviewHasBlocker reviewDocument then .reviewFailed
  else .awaitingApproval

structure Render where
  mappingPlan : Json
  reviewResult : Json
  status : RenderStatus
  resolvedBy : Option String := none
  resolvedAt : Option Int := none
deriving Repr

/-- a plan and its document: the document of a plan just generated, or a stored document and the plan read from it -/
structure Mapping where
  plan : MappingPlan
  document : Json
  agrees : document = mappingPlanDocument plan ∨
    ∃ payload, document = .obj payload ∧ parseExceptions payload = .ok plan.exceptions

/-- the counts of a render that the review reports -/
structure RenderCounts where
  sections : Nat
  controls : Nat
  paragraphs : Nat
  cells : Nat
deriving DecidableEq, Repr

/-- The issues that a review collects: of the plan and the rendered document, and of the model. Nothing where the
response or the document cannot be read, in which case no render is stored. -/
def reviewSources (mapping : Mapping) (counts : RenderCounts) (tables : Tables) (response : List (String × Json)) :
    Option (String × List ReviewIssue × List ReviewIssue) := do
  let (summary, modelIssues) ← (parseReviewResponse response).toOption
  let deterministic ← deterministicReviewIssues mapping.plan counts.controls tables
  return (summary, deterministic, modelIssues)

def reviewRender (mapping : Mapping) (counts : RenderCounts) (tables : Tables) (response : List (String × Json)) :
    Option ReviewResult := do
  let (summary, deterministic, modelIssues) ← reviewSources mapping counts tables response
  return { summary
           issues := mergeReviewIssues [deterministic, modelIssues]
           facts := ⟨counts.sections, counts.controls, mapping.plan.exceptions.length, counts.paragraphs, counts.cells,
             tables.length⟩ }

/-- the row that is stored for a reviewed render -/
def createRender (mapping : Mapping) (counts : RenderCounts) (tables : Tables) (response : List (String × Json)) :
    Option Render := do
  let review ← reviewRender mapping counts tables response
  let reviewDocument := reviewResultDocument review
  return { mappingPlan := mapping.document.jsonb
           reviewResult := reviewDocument.jsonb
           status := agencyDocxRenderStatus mapping.plan mapping.document reviewDocument }

def approveAgencyDocxRender (render : Render) (actorId : String) (now : Int) : Except String Render :=
  if render.status ≠ .awaitingApproval then .error "render is not awaiting approval"
  else if storedRenderHasBlocker render.mappingPlan render.reviewResult then .error "render has unresolved blockers"
  else .ok { render with status := .approved, resolvedBy := some actorId, resolvedAt := some now }

def rejectAgencyDocxRender (render : Render) (actorId : String) (now : Int) : Except String Render :=
  if render.status = .awaitingApproval ∨ render.status = .reviewFailed then
    .ok { render with status := .rejected, resolvedBy := some actorId, resolvedAt := some now }
  else .error "render cannot be rejected"

inductive Decision where
  | approve (actorId : String) (now : Int)
  | reject (actorId : String) (now : Int)
deriving DecidableEq, Repr

def resolve (render : Render) : Decision → Except String Render
  | .approve actorId now => approveAgencyDocxRender render actorId now
  | .reject actorId now => rejectAgencyDocxRender render actorId now

/-- a refused decision changes nothing -/
def step (render : Render) (d : Decision) : Render := (resolve render d).toOption.getD render

/-! ## What the stored documents show -/

open AtoService.Results

theorem itemSeverity_obj (s : String) (fields : List (String × Json)) :
    itemSeverity (.obj (("severity", .str s) :: fields)) = some s := by
  have hmember : Json.member "severity" (("severity", .str s) :: fields) = some (.str s) := by
    rw [Json.member, KeyedList.get?_cons, if_pos rfl, Option.map_some]
  exact congrArg (fun v : Option Json => v.bind Json.asStr) hmember

theorem itemIsBlocker_obj (s : IssueSeverity) (fields : List (String × Json)) :
    itemIsBlocker (.obj (("severity", .str s.text) :: fields)) = true ↔ s = .blocker := by
  rw [itemIsBlocker, itemSeverity_obj, beq_iff_eq, Option.some_inj]
  exact IssueSeverity.text_eq_blocker

theorem itemSeverity_jsonb (v : Json) : itemSeverity v.jsonb = itemSeverity v := by
  cases v with
  | obj fs =>
    have hmember := Json.member_jsonb "severity" fs
    have hread : ∀ gs, itemSeverity (.obj gs) = (Json.member "severity" gs).bind Json.asStr := fun _ => rfl
    rw [Json.jsonb_obj, hread, hread, hmember]
    cases Json.member "severity" fs with
    | none => rfl
    | some s => exact Json.asStr_jsonb s
  | float x =>
    cases x with
    | finite d => by_cases h : d.printsWhole = true <;> simp [Json.jsonb, h, itemSeverity, Json.asObj]
    | _ => rfl
  | arr xs =>
    rw [Json.jsonb_arr]
    rfl
  | _ => rfl

theorem itemIsBlocker_jsonb (v : Json) : itemIsBlocker v.jsonb = itemIsBlocker v := by
  rw [itemIsBlocker, itemSeverity_jsonb, itemIsBlocker]

/-- a document shows the blockers of the list that one of its members holds -/
theorem listHasBlocker_iff {key : String} {fields : List (String × Json)} {items : List Json}
    (h : Json.member key fields = some (.arr items)) :
    listHasBlocker key (.obj fields) = true ↔ ∃ v ∈ items, itemIsBlocker v = true := by
  have hread : listHasBlocker key (.obj fields) = items.any itemIsBlocker := by
    simp [listHasBlocker, Json.asObj, h, Json.asArr]
  rw [hread, List.any_eq_true]

/-- a JSONB column keeps what a document shows -/
theorem listHasBlocker_jsonb {key : String} {fields : List (String × Json)} {items : List Json}
    (h : Json.member key fields = some (.arr items)) :
    listHasBlocker key (Json.obj fields).jsonb = listHasBlocker key (.obj fields) := by
  have hmember : Json.member key (fields.map fun p => (p.1, p.2.jsonb)) = some (.arr (items.map Json.jsonb)) := by
    rw [Json.member_jsonb, h, Option.map_some, Json.jsonb_arr]
  rw [Json.jsonb_obj, Bool.eq_iff_iff, listHasBlocker_iff hmember, listHasBlocker_iff h]
  simp only [List.mem_map]
  constructor
  · rintro ⟨_, ⟨v, hv, rfl⟩, hb⟩
    exact ⟨v, hv, itemIsBlocker_jsonb v ▸ hb⟩
  · rintro ⟨v, hv, hb⟩
    exact ⟨_, ⟨v, hv, rfl⟩, (itemIsBlocker_jsonb v).symm ▸ hb⟩

/-- a document with a list of blockers, and the column that stores it -/
theorem shows_of_member {α : Type} {key : String} {fields : List (String × Json)} {xs : List α} (item : α → Json)
    {severity : α → IssueSeverity} (h : Json.member key fields = some (.arr (xs.map item)))
    (hitem : ∀ x, itemIsBlocker (item x) = true ↔ severity x = .blocker) :
    (listHasBlocker key (.obj fields) = true ↔ ∃ x ∈ xs, severity x = .blocker) ∧
      listHasBlocker key (Json.obj fields).jsonb = listHasBlocker key (.obj fields) := by
  refine ⟨?_, listHasBlocker_jsonb h⟩
  rw [listHasBlocker_iff h]
  simp only [List.mem_map]
  constructor
  · rintro ⟨_, ⟨x, hx, rfl⟩, hb⟩
    exact ⟨x, hx, (hitem x).1 hb⟩
  · rintro ⟨x, hx, hs⟩
    exact ⟨_, ⟨x, hx, rfl⟩, (hitem x).2 hs⟩

/-- **The document of a review shows its blockers**, also once it is stored. -/
theorem review_shows (result : ReviewResult) :
    (reviewHasBlocker (reviewResultDocument result) = true ↔ ∃ i ∈ result.issues, i.severity = .blocker) ∧
      reviewHasBlocker (reviewResultDocument result).jsonb = reviewHasBlocker (reviewResultDocument result) := by
  refine shows_of_member issueDocument ?_ fun i => itemIsBlocker_obj i.severity _
  simp [Json.member_cons]

theorem planDocument_shows (plan : MappingPlan) :
    (listHasBlocker "exceptions" (mappingPlanDocument plan) = true ↔ ∃ e ∈ plan.exceptions, e.severity = .blocker) ∧
      listHasBlocker "exceptions" (mappingPlanDocument plan).jsonb =
        listHasBlocker "exceptions" (mappingPlanDocument plan) := by
  refine shows_of_member exceptionDocument ?_ fun e => itemIsBlocker_obj e.severity _
  simp [Json.member_cons]

theorem parseSeverity_ok {fields : List (String × Json)} {text : String} {s : IssueSeverity}
    (h : parseSeverity (Json.member "severity" fields) text = .ok s) :
    itemIsBlocker (.obj fields) = true ↔ s = .blocker := by
  have hread : itemSeverity (.obj fields) = (Json.member "severity" fields).bind Json.asStr := rfl
  unfold parseSeverity at h
  split at h
  · cases h
  · rename_i s' hs
    obtain rfl : s' = s := Except.ok.inj h
    obtain ⟨t, ht, hst⟩ := Option.bind_eq_some_iff.1 hs
    rw [itemIsBlocker, hread, ht, beq_iff_eq, Option.some_inj, IssueSeverity.ofText?_eq_some.1 hst]
    exact IssueSeverity.text_eq_blocker

theorem parseMappingException_ok {entry : List (String × Json)} {index : Nat} {e : MappingException}
    (h : parseMappingException entry index = .ok e) : itemIsBlocker (.obj entry) = true ↔ e.severity = .blocker := by
  simp only [parseMappingException, bind_eq_ok, pure_eq_ok] at h
  obtain ⟨_, _, s, hs, _, _, _, _, rfl⟩ := h
  exact parseSeverity_ok hs

theorem objectList_ok {value : Option Json} {fieldName : String} {maximum : Nat} {objects : List (List (String × Json))}
    (h : objectList value fieldName maximum = .ok objects) : value = some (.arr (objects.map Json.obj)) := by
  unfold objectList at h
  split at h
  · cases h
  · rename_i items hitems
    split at h
    · cases h
    · split at h
      · cases h
      · rename_i objects' hobjects
        obtain rfl : objects' = objects := Except.ok.inj h
        obtain ⟨v, rfl, hv⟩ := Option.bind_eq_some_iff.1 hitems
        have hrel := optionMapM_eq_some.1 hobjects
        have harr : v = .arr items := by
          cases v <;> simp [Json.asArr] at hv
          exact congrArg Json.arr hv
        rw [harr]
        rw [Json.eq_map_obj hrel]

/-- **A plan that is read again shows its blockers in the document it is read from.** -/
theorem parseExceptions_shows {payload : List (String × Json)} {exceptions : List MappingException}
    (h : parseExceptions payload = .ok exceptions) :
    (listHasBlocker "exceptions" (.obj payload) = true ↔ ∃ e ∈ exceptions, e.severity = .blocker) ∧
      listHasBlocker "exceptions" (Json.obj payload).jsonb = listHasBlocker "exceptions" (.obj payload) := by
  simp only [parseExceptions, bind_eq_ok] at h
  obtain ⟨entries, hentries, hparse⟩ := h
  have hmember := objectList_ok hentries
  refine ⟨?_, listHasBlocker_jsonb hmember⟩
  rw [listHasBlocker_iff hmember]
  have hrel := mapM_eq_ok.1 hparse
  rw [List.forall₂_iff_get] at hrel
  obtain ⟨hlen, hget⟩ := hrel
  rw [List.length_zipIdx] at hlen
  constructor
  · rintro ⟨v, hv, hb⟩
    obtain ⟨entry, hentry, rfl⟩ := List.mem_map.1 hv
    obtain ⟨i, hi, rfl⟩ := List.getElem_of_mem hentry
    have := hget i (by rw [List.length_zipIdx]; exact hi) (hlen ▸ hi)
    simp only [List.get_eq_getElem, List.getElem_zipIdx] at this
    exact ⟨_, List.getElem_mem _, (parseMappingException_ok this).1 hb⟩
  · rintro ⟨e, he, hb⟩
    obtain ⟨i, hi, rfl⟩ := List.getElem_of_mem he
    have := hget i (by rw [List.length_zipIdx]; omega) hi
    simp only [List.get_eq_getElem, List.getElem_zipIdx] at this
    exact ⟨_, List.mem_map.2 ⟨_, List.getElem_mem _, rfl⟩, (parseMappingException_ok this).2 hb⟩

/-- **The document of a plan shows its blockers**, whether the plan was generated or read again. -/
theorem plan_shows (m : Mapping) :
    (listHasBlocker "exceptions" m.document = true ↔ ∃ e ∈ m.plan.exceptions, e.severity = .blocker) ∧
      listHasBlocker "exceptions" m.document.jsonb = listHasBlocker "exceptions" m.document := by
  rcases m.agrees with hdoc | ⟨payload, hdoc, hparse⟩
  · rw [hdoc]
    exact planDocument_shows m.plan
  · rw [hdoc]
    exact parseExceptions_shows hparse

/-! ## Decisions -/

/-- **A failed review is never approved**, whatever decisions follow. -/
theorem never_approved {render : Render} (h : render.status = .reviewFailed) (ds : List Decision) :
    (Runs.run step render ds).status ≠ .approved := by
  have hinv : (Runs.run step render ds).status = .reviewFailed ∨ (Runs.run step render ds).status = .rejected := by
    refine Runs.run_inv (P := fun r : Render => r.status = .reviewFailed ∨ r.status = .rejected) ?_ (Or.inl h) ds
    intro r d hr
    cases d with
    | approve actorId now =>
      have hrefused : approveAgencyDocxRender r actorId now = .error "render is not awaiting approval" := by
        rcases hr with hr | hr <;> exact if_pos (by rw [hr]; decide)
      rw [step, resolve, hrefused]
      exact hr
    | reject actorId now =>
      rw [step, resolve, rejectAgencyDocxRender]
      split_ifs with hstatus
      · exact Or.inr rfl
      · exact hr
  intro happroved
  rw [happroved] at hinv
  rcases hinv with h | h <;> cases h

/-! ## No blocker is lost -/

/-- a plan exception, a deterministic issue or an issue of the model is a blocker -/
def AnyBlocker (plan : MappingPlan) (deterministic modelIssues : List ReviewIssue) : Prop :=
  (∃ e ∈ plan.exceptions, e.severity = .blocker) ∨ (∃ i ∈ deterministic, i.severity = .blocker) ∨
    ∃ i ∈ modelIssues, i.severity = .blocker

/-- a blocker that was reported is still shown by the stored documents, and the render is never approved -/
def BlockerKept (plan : MappingPlan) (deterministic modelIssues : List ReviewIssue) (render : Render) : Prop :=
  AnyBlocker plan deterministic modelIssues →
    storedRenderHasBlocker render.mappingPlan render.reviewResult = true ∧ render.status = .reviewFailed ∧
      ∀ ds, (Runs.run step render ds).status ≠ .approved

/-- some blocker is the first issue of its code and locator, and the list is not full before it -/
def FirstOfItsKey (issues : List ReviewIssue) : Prop :=
  ∃ before issue after, issues = before ++ issue :: after ∧ issue.severity = .blocker ∧
    issue.key ∉ before.map ReviewIssue.key ∧ (before.map ReviewIssue.key).toFinset.card < maxIssues

theorem mergeReviewIssues_blocker (deterministic modelIssues : List ReviewIssue) :
    (∃ i ∈ mergeReviewIssues [deterministic, modelIssues], i.severity = .blocker) ↔
      FirstOfItsKey (deterministic ++ modelIssues) := by
  have hflat : [deterministic, modelIssues].flatten = deterministic ++ modelIssues := by simp
  rw [mergeReviewIssues, hflat]
  exact FirstWins.exists_mem_collect (by decide)

/-- what a stored render is made of -/
theorem createRender_eq {m : Mapping} {counts : RenderCounts} {tables : Tables} {response : List (String × Json)}
    {summary : String} {deterministic modelIssues : List ReviewIssue} {render : Render}
    (hs : reviewSources m counts tables response = some (summary, deterministic, modelIssues))
    (hr : createRender m counts tables response = some render) : ∃ review : ReviewResult,
      review.issues = mergeReviewIssues [deterministic, modelIssues] ∧ render.mappingPlan = m.document.jsonb ∧
      render.reviewResult = (reviewResultDocument review).jsonb ∧
      render.status = agencyDocxRenderStatus m.plan m.document (reviewResultDocument review) := by
  simp only [createRender, reviewRender, hs, Option.bind_eq_bind, Option.bind_some, Option.some_inj,
    Option.pure_def] at hr
  subst hr
  exact ⟨_, rfl, rfl, rfl, rfl⟩

/-- **No blocker is lost** if and only if a plan exception is a blocker, or nothing is, or some blocker is the first
issue of its code and locator and the list is not full before it. -/
theorem blocker_kept_iff {m : Mapping} {counts : RenderCounts} {tables : Tables} {response : List (String × Json)}
    {summary : String} {deterministic modelIssues : List ReviewIssue} {render : Render}
    (hs : reviewSources m counts tables response = some (summary, deterministic, modelIssues))
    (hr : createRender m counts tables response = some render) :
    BlockerKept m.plan deterministic modelIssues render ↔
      (∃ e ∈ m.plan.exceptions, e.severity = .blocker) ∨ ¬AnyBlocker m.plan deterministic modelIssues ∨
        FirstOfItsKey (deterministic ++ modelIssues) := by
  obtain ⟨review, hissues, hplan, hreview, hstatus⟩ := createRender_eq hs hr
  obtain ⟨hplanShows, hplanStored⟩ := plan_shows m
  obtain ⟨hreviewShows, hreviewStored⟩ := review_shows review
  rw [hissues, mergeReviewIssues_blocker] at hreviewShows
  have hstored : storedRenderHasBlocker render.mappingPlan render.reviewResult = true ↔
      (∃ e ∈ m.plan.exceptions, e.severity = .blocker) ∨ FirstOfItsKey (deterministic ++ modelIssues) := by
    rw [hplan, hreview, storedRenderHasBlocker, mappingPlanHasBlocker, List.any_nil, Bool.false_or, hplanStored,
      hreviewStored, Bool.or_eq_true, hplanShows, hreviewShows]
  have hmapping : mappingPlanHasBlocker m.plan.exceptions m.document = true ↔
      ∃ e ∈ m.plan.exceptions, e.severity = .blocker := by
    rw [mappingPlanHasBlocker, Bool.or_eq_true, hplanShows, List.any_eq_true]
    simp
  constructor
  · intro hkept
    by_cases hany : AnyBlocker m.plan deterministic modelIssues
    · rcases hstored.1 (hkept hany).1 with h | h
      · exact Or.inl h
      · exact Or.inr (Or.inr h)
    · exact Or.inr (Or.inl hany)
  · intro hcondition hany
    have hshown : (∃ e ∈ m.plan.exceptions, e.severity = .blocker) ∨ FirstOfItsKey (deterministic ++ modelIssues) := by
      rcases hcondition with h | h | h
      · exact Or.inl h
      · exact absurd hany h
      · exact Or.inr h
    have hfailed : render.status = .reviewFailed := by
      rw [hstatus, agencyDocxRenderStatus]
      rcases hshown with h | h
      · rw [if_pos (hmapping.2 h)]
      · rw [if_pos (hreviewShows.2 h)]
        exact ite_self _
    exact ⟨hstored.2 hshown, hfailed, never_approved hfailed⟩

namespace Small

/-- a plan that warns of a missing interconnection table -/
def plan : MappingPlan where
  textPlacements := []
  controlTable := ⟨none, [("control_id", 0)]⟩
  exceptions := [⟨.warning, "missing_field", "No place for the interconnections."⟩]
  summary := ""

def mapping : Mapping := ⟨plan, mappingPlanDocument plan, Or.inl rfl⟩

/-- a review that blocks on the interconnections under a code -/
def response (code : String) : List (String × Json) :=
  [("schema_version", .str "1.0.0"), ("summary", .str ""),
    ("issues", .arr [.obj [("severity", .str "blocker"), ("code", .str code),
      ("message", .str "The interconnections are not in the document."), ("locator", .null)]])]

def counts : RenderCounts := ⟨1, 0, 1, 0⟩

def deterministic : List ReviewIssue := [⟨.warning, "missing_field", "No place for the interconnections.", none⟩]

def modelIssues (code : String) : List ReviewIssue :=
  [⟨.blocker, code, "The interconnections are not in the document.", none⟩]

theorem sources_other : reviewSources mapping counts [] (response "missing_table") =
    some ("", deterministic, modelIssues "missing_table") := by
  decide

theorem sources_same : reviewSources mapping counts [] (response "missing_field") =
    some ("", deterministic, modelIssues "missing_field") := by
  decide

end Small

/-- a blocker of a code that the plan does not warn of is kept -/
theorem blocker_kept_small : ∃ render,
    createRender Small.mapping Small.counts [] (Small.response "missing_table") = some render ∧
    (BlockerKept Small.plan Small.deterministic (Small.modelIssues "missing_table") render ↔
      (∃ e ∈ Small.plan.exceptions, e.severity = .blocker) ∨
        ¬AnyBlocker Small.plan Small.deterministic (Small.modelIssues "missing_table") ∨
        FirstOfItsKey (Small.deterministic ++ Small.modelIssues "missing_table")) ∧
    BlockerKept Small.plan Small.deterministic (Small.modelIssues "missing_table") render := by
  have hsome : (createRender Small.mapping Small.counts [] (Small.response "missing_table")).isSome = true := by
    decide
  obtain ⟨render, hrender⟩ := Option.isSome_iff_exists.1 hsome
  have hiff := blocker_kept_iff (m := Small.mapping) Small.sources_other hrender
  have hfirst : FirstOfItsKey (Small.deterministic ++ Small.modelIssues "missing_table") :=
    ⟨Small.deterministic, _, [], rfl, rfl, by decide, by decide⟩
  exact ⟨render, hrender, hiff, hiff.2 (Or.inr (Or.inr hfirst))⟩

/-- **A blocker is dropped.** The warning of the plan hides the blocker of the model: the render awaits approval and is
approved. -/
theorem blocker_dropped : ∃ render,
    reviewSources Small.mapping Small.counts [] (Small.response "missing_field") =
      some ("", Small.deterministic, Small.modelIssues "missing_field") ∧
    createRender Small.mapping Small.counts [] (Small.response "missing_field") = some render ∧
    ¬BlockerKept Small.plan Small.deterministic (Small.modelIssues "missing_field") render := by
  have hsome : (createRender Small.mapping Small.counts [] (Small.response "missing_field")).isSome = true := by
    decide
  obtain ⟨render, hrender⟩ := Option.isSome_iff_exists.1 hsome
  have hstatus : (createRender Small.mapping Small.counts [] (Small.response "missing_field")).map Render.status =
      some .awaitingApproval := by decide
  rw [hrender, Option.map_some, Option.some_inj] at hstatus
  refine ⟨render, Small.sources_same, hrender, fun hkept => ?_⟩
  have hany : AnyBlocker Small.plan Small.deterministic (Small.modelIssues "missing_field") :=
    Or.inr (Or.inr ⟨_, List.mem_singleton_self _, rfl⟩)
  rw [(hkept hany).2.1] at hstatus
  cases hstatus

end AtoService.Workspace.AgencyDocx
