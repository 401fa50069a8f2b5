/-
Reading what a model returns: the narrative, control, generation, categorization and patch responses.

Each parser takes the raw text and the outline it may refer to, and returns the validated result or raises. The callers
always pass the policy of the selected profile; the defaults without one are left out, and of a contract error its kind
and whether it may be repaired. At the end, what the readers of one value let through.
-/
import AtoService.Workspace.Edits

namespace AtoService.Workspace

open AtoService.Py

/-! ## Limits -/

def maxSectionsPerResponse : Nat := 100
def maxControlsPerResponse : Nat := 2000
def maxQuestionsPerResponse : Nat := 2000
def maxPatchesPerResponse : Nat := 50
def maxContentLength : Nat := 200000
def maxQuestionLength : Nat := 8000

/-- `GENERATION_SCHEMA_VERSION` and its companions -/
def schemaVersion : String := "1.0.0"

def contractError {α : Type} (detail : String) : Except Err α := raise .generationContract detail

/-! ## The response document -/

/-- remove an optional code fence around the response -/
def stripMarkdownJsonFence (raw : String) : String :=
  let fence := fun s : String => ['`', '`', '`'].isPrefixOf (Py.chars s)
  let text := strip raw
  if !fence text then raw
  else
    let lines := splitLines text
    let lines := match lines with
      | first :: rest => if fence first then rest else lines
      | [] => []
    let lines := match lines.getLast? with
      | some last => if strip last = String.ofList ['`', '`', '`'] then lines.dropLast else lines
      | none => lines
    let stripped := strip ("\n".intercalate lines)
    if stripped = "" then raw else stripped

/-- the members of the first of the two readings of the response that is JSON -/
def parseJsonObject (raw : String) : Except Err (List (String × Json)) :=
  match (JsonText.loads (Py.chars raw)).or (JsonText.loads (Py.chars (stripMarkdownJsonFence raw))) with
  | some (.obj fs) => .ok fs
  | some _ => contractError "response must be a JSON object"
  | none => contractError "response must be strict JSON"

/-- `document.get(key)`, with `None` for a missing member -/
def field (key : String) (fs : List (String × Json)) : Json := (Json.member key fs).getD .null

/-- `payload.setdefault(key, value)` -/
def setDefault (key : String) (v : Json) (fs : List (String × Json)) : List (String × Json) :=
  if (Json.member key fs).isSome then fs else fs ++ [(key, v)]

def requireSchemaVersion (fs : List (String × Json)) : Except Err Unit :=
  if (field "schema_version" fs).asStr = some schemaVersion then .ok () else contractError "unsupported schema_version"

section

variable (host : Host)

def requireExactKeys (fs : List (String × Json)) (expected : List String) (context : String) : Except Err Unit :=
  let missing := sortedDifference expected (fs.map Prod.fst)
  let extra := sortedDifference (fs.map Prod.fst) expected
  if missing.isEmpty && extra.isEmpty then .ok ()
  else contractError (context ++ " keys invalid; missing=" ++ host.pyStr (.arr (missing.map .str)) ++ ", extra=" ++
    host.pyStr (.arr (extra.map .str)))

def objectList (v : Json) (fieldName : String) (maximum : Nat) : Except Err (List (List (String × Json))) :=
  match v with
  | .arr items =>
    if maximum < items.length then contractError (fieldName ++ " exceeds maximum of " ++ toString maximum)
    else
      match items.mapM Json.asObj with
      | some objects => .ok objects
      | none => contractError (fieldName ++ " must contain objects")
  | _ => contractError (fieldName ++ " must be an array")

/-- a string that is not blank -/
def textItem : Json → Option String
  | .str s => if hasText s then some s else none
  | _ => none

def stringList (v : Json) (fieldName : String) (maximum : Nat) : Except Err (List String) :=
  match v with
  | .arr items =>
    if maximum < items.length then contractError (fieldName ++ " exceeds maximum of " ++ toString maximum)
    else
      match items.mapM textItem with
      | some texts => .ok texts
      | none => contractError (fieldName ++ " must contain non-empty strings")
  | _ => contractError (fieldName ++ " must be an array")

def requireUnique {α : Type} [DecidableEq α] (values : List α) (fieldName : String) : Except Err Unit :=
  if values.Nodup then .ok () else contractError ("duplicate " ++ fieldName ++ " values are not allowed")

/-- `_allowed_fact_ids` -/
def readFactIds (v : Json) (allowed : List String) : Except Err (List String) := do
  let factIds ← stringList v "supporting_fact_ids" 5000
  requireUnique factIds "supporting_fact_ids"
  let unknown := sortedDifference factIds allowed
  if unknown.isEmpty then return factIds
  else contractError ("unknown supporting_fact_ids: " ++ host.pyStr (.arr (unknown.map .str)))

/-- `_text`: a bounded string, stripped -/
def readText (v : Json) (fieldName : String) (maximum : Nat) : Except Err String :=
  match v with
  | .str s =>
    if maximum < s.length then contractError (fieldName ++ " exceeds maximum length of " ++ toString maximum)
    else .ok (strip s)
  | _ => contractError (fieldName ++ " must be a string")

/-- `_allowed_text` -/
def readAllowed (v : Json) (fieldName : String) (allowed : List String) : Except Err String := do
  let normalized ← readText v fieldName 500
  if normalized ∈ allowed then return normalized
  else contractError (fieldName ++ " is not allowed: " ++ normalized)

/-! ## Entries -/

/-- what a response may refer to: the outline of the profile, the facts with evidence, and the profile's policy -/
structure Outline where
  sectionIds : List String
  controlIds : List String
  factIds : List String
  policy : SelectedProfilePolicy
  parameterizedControlIds : List String

/-- the outline of a resolved profile -/
def Outline.ofProfile (p : ResolvedProfile) (factIds : List String) : Outline where
  sectionIds := p.itemIds
  controlIds := p.controlIds
  factIds := factIds
  policy := SelectedProfilePolicy.fromResolved p
  parameterizedControlIds :=
    (p.controls.filter fun c => containsOscalParameterInsertSyntax c.requirementText).map ProfileControl.controlId

variable (fresh : Nat → String) (o : Outline)

/-- the text of a section once the policy has seen it: text that a structured register refuses is dropped with its
facts, any other refusal rejects the response -/
def admitSection (sectionId content : String) (factIds : List String) : Except Err GeneratedSection :=
  if !hasText content then .ok ⟨sectionId, content, factIds⟩
  else
    match o.policy.item? sectionId with
    | none => contractError ("section " ++ sectionId ++ " is not in the selected profile")
    | some requirement =>
      match validateSectionContentAgainstPolicy host fresh sectionId content requirement with
      | .ok () => .ok ⟨sectionId, content, factIds⟩
      | .error e =>
        -- only a contract error is caught
        if e.cls = .generationContract ∧ requirement.structuredKind.isSome then .ok ⟨sectionId, "", []⟩ else .error e

def parseSection (entry : List (String × Json)) : Except Err GeneratedSection := do
  requireExactKeys host entry ["section_id", "content", "supporting_fact_ids"] "section"
  let sectionId ← readAllowed (field "section_id" entry) "section_id" o.sectionIds
  let content ← readText (field "content" entry) "content" maxContentLength
  let factIds ← readFactIds host (field "supporting_fact_ids" entry) o.factIds
  -- text without supporting facts is omitted
  let content := if content ≠ "" ∧ factIds = [] then "" else content
  admitSection host fresh o sectionId content factIds

def oscalSyntaxError (subject : String) : String :=
  subject ++ " implementation_statement must not contain OSCAL organization-defined parameter placeholder syntax"

def parseControl (entry : List (String × Json)) : Except Err GeneratedControl := do
  requireExactKeys host entry
    ["control_id", "implementation_status", "responsibility", "implementation_statement", "supporting_fact_ids"] "control"
  let controlId ← readAllowed (field "control_id" entry) "control_id" o.controlIds
  let status ← readAllowed (field "implementation_status" entry) "implementation_status"
    o.policy.controlResponse.implementationStatuses
  let responsibility ← readAllowed (field "responsibility" entry) "responsibility" o.policy.controlResponse.responsibilities
  let statement ← readText (field "implementation_statement" entry) "implementation_statement" maxContentLength
  if o.policy.implementationStatementRules.rejectOscalParameterInsertSyntax &&
      containsOscalParameterInsertSyntax statement then
    contractError (oscalSyntaxError ("control " ++ controlId))
  let factIds ← readFactIds host (field "supporting_fact_ids" entry) o.factIds
  if agentControlRequiresFacts status responsibility statement
      o.policy.controlResponse.evidenceRequiredForAgentStatement && factIds.isEmpty then
    contractError ("control " ++ controlId ++ " requires supporting facts for agent metadata")
  return ⟨controlId, status, responsibility, statement, factIds⟩

/-- `_TARGET_TYPES` -/
def targetTypeOf (s : String) : Option TargetType :=
  [TargetType.sspSection, .control].find? fun t => t.value == s

/-- `_allowed_text` of a target type -/
def readTargetType (v : Json) : Except Err TargetType := do
  let normalized ← readText v "target_type" 500
  match targetTypeOf normalized with
  | some t => return t
  | none => contractError ("target_type is not allowed: " ++ normalized)

/-- the identifiers that a target of a type may have -/
def allowedTargets (t : TargetType) : List String := if t = .sspSection then o.sectionIds else o.controlIds

def parseQuestion (entry : List (String × Json)) : Except Err GeneratedQuestion := do
  requireExactKeys host entry ["target_type", "target_id", "question", "owner_type"] "question"
  let targetType ← readTargetType (field "target_type" entry)
  let targetId ← readAllowed (field "target_id" entry) "target_id" (allowedTargets o targetType)
  let question ← readText (field "question" entry) "question" maxQuestionLength
  let ownerType ← readAllowed (field "owner_type" entry) "owner_type" o.policy.controlResponse.questionOwnerTypes
  return ⟨deterministicQuestionKey host targetType targetId question, targetType, targetId, question, ownerType⟩

def impactLevels : List String := ["low", "moderate", "high"]

def parseCategorization (v : Json) (factIds : List String) : Except Err (Option GeneratedCategorization) :=
  match v with
  | .null => .ok none
  | .obj fs => do
    requireExactKeys host fs ["confidentiality", "integrity", "availability", "confidentiality_rationale",
      "integrity_rationale", "availability_rationale", "supporting_fact_ids"] "categorization"
    let confidentiality ← readAllowed (field "confidentiality" fs) "confidentiality" impactLevels
    let integrity ← readAllowed (field "integrity" fs) "integrity" impactLevels
    let availability ← readAllowed (field "availability" fs) "availability" impactLevels
    let cRationale ← readText (field "confidentiality_rationale" fs) "confidentiality_rationale" maxContentLength
    let iRationale ← readText (field "integrity_rationale" fs) "integrity_rationale" maxContentLength
    let aRationale ← readText (field "availability_rationale" fs) "availability_rationale" maxContentLength
    if cRationale = "" ∨ iRationale = "" ∨ aRationale = "" then
      contractError "categorization rationales must be non-empty"
    let supports ← readFactIds host (field "supporting_fact_ids" fs) factIds
    if supports.isEmpty then contractError "categorization requires supporting facts"
    return some ⟨confidentiality, integrity, availability, cRationale, iRationale, aRationale, supports⟩
  | _ => contractError "categorization must be an object or null"

/-- controls whose requirement has open parameters, left without a statement and without a question -/
def missingParameterQuestions (controls : List GeneratedControl) (questions : List GeneratedQuestion) : List String :=
  (sortedSet o.parameterizedControlIds).filter fun id =>
    (controls.find? fun c => c.controlId = id).any (fun c => !hasText c.implementationStatement) &&
      !questions.any fun q => q.targetType = .control ∧ q.targetId = id

def validateParameterizedControlQuestions (controls : List GeneratedControl) (questions : List GeneratedQuestion) :
    Except Err Unit :=
  let missing := missingParameterQuestions o controls questions
  if o.policy.implementationStatementRules.requireQuestionForUnresolvedParameterizedControls && !missing.isEmpty then
    contractError ("parameterized controls with unresolved implementation responses require targeted questions: " ++
      host.pyStr (.arr (missing.map .str)))
  else .ok ()

/-! ## Responses -/

structure NarrativeGenerationResult where
  sections : List GeneratedSection
  categorization : Option GeneratedCategorization
deriving Repr

structure ControlGenerationResult where
  controls : List GeneratedControl
  questions : List GeneratedQuestion
deriving Repr

def parseNarrativeGenerationResponse (raw : String) : Except Err NarrativeGenerationResult := do
  let payload ← parseJsonObject raw
  let payload := setDefault "categorization" .null payload
  requireSchemaVersion payload
  requireExactKeys host payload ["schema_version", "sections", "categorization"] "narrative generation response"
  let entries ← objectList (field "sections" payload) "sections" maxSectionsPerResponse
  let sections ← entries.mapM (parseSection host fresh o)
  requireUnique (sections.map GeneratedSection.sectionId) "section_id"
  let categorization ← parseCategorization host (field "categorization" payload) o.factIds
  return ⟨sections, categorization⟩

/-- what the control pass and the whole response check of their controls and questions together -/
def requireControlsAndQuestions (controls : List GeneratedControl) (questions : List GeneratedQuestion) :
    Except Err Unit := do
  requireUnique (controls.map GeneratedControl.controlId) "control_id"
  requireUnique (questions.map GeneratedQuestion.questionKey) "question_key"
  validateParameterizedControlQuestions host o controls questions

def parseControlGenerationResponse (raw : String) : Except Err ControlGenerationResult := do
  let payload ← parseJsonObject raw
  let payload := setDefault "questions" (.arr []) payload
  requireSchemaVersion payload
  requireExactKeys host payload ["schema_version", "controls", "questions"] "control generation response"
  let controlEntries ← objectList (field "controls" payload) "controls" maxControlsPerResponse
  let questionEntries ← objectList (field "questions" payload) "questions" maxQuestionsPerResponse
  let controls ← controlEntries.mapM (parseControl host o)
  let questions ← questionEntries.mapM (parseQuestion host o)
  requireControlsAndQuestions host o controls questions
  return ⟨controls, questions⟩

def parseGenerationResponse (raw : String) : Except Err GenerationResult := do
  let payload ← parseJsonObject raw
  let payload := setDefault "categorization" .null payload
  requireSchemaVersion payload
  requireExactKeys host payload ["schema_version", "sections", "controls", "questions", "categorization"]
    "generation response"
  let sectionEntries ← objectList (field "sections" payload) "sections" maxSectionsPerResponse
  let controlEntries ← objectList (field "controls" payload) "controls" maxControlsPerResponse
  let questionEntries ← objectList (field "questions" payload) "questions" maxQuestionsPerResponse
  let sections ← sectionEntries.mapM (parseSection host fresh o)
  let controls ← controlEntries.mapM (parseControl host o)
  let questions ← questionEntries.mapM (parseQuestion host o)
  let categorization ← parseCategorization host (field "categorization" payload) o.factIds
  requireUnique (sections.map GeneratedSection.sectionId) "section_id"
  requireControlsAndQuestions host o controls questions
  return ⟨sections, controls, questions, categorization⟩

/-- `generate_initial_ssp`: the results of the two passes in one envelope -/
def combinePasses (n : NarrativeGenerationResult) (k : ControlGenerationResult) : GenerationResult :=
  ⟨n.sections, k.controls, k.questions, n.categorization⟩

/-- a generation result that the parsers accept for the outline -/
inductive Accepted : GenerationResult → Prop where
  | passes {n : NarrativeGenerationResult} {k : ControlGenerationResult} {raw raw' : String}
      (hn : parseNarrativeGenerationResponse host fresh o raw = .ok n)
      (hk : parseControlGenerationResponse host o raw' = .ok k) : Accepted (combinePasses n k)
  | whole {r : GenerationResult} {raw : String} (h : parseGenerationResponse host fresh o raw = .ok r) : Accepted r

/-! ## Patches -/

/-- the revision that a target stands at, when there is one -/
abbrev Revisions := TargetType → String → Option Nat

def readRevision (v : Json) (revisions : Revisions) (t : TargetType) (targetId : String) : Except Err Nat :=
  match v with
  | .int n =>
    if n < 1 then contractError "expected_revision must be a positive integer"
    else
      match revisions t targetId with
      | none => contractError ("patch target has no current revision: " ++ t.value ++ ":" ++ targetId)
      | some current =>
        if n = current then .ok current else contractError ("stale patch target: " ++ t.value ++ ":" ++ targetId)
  | _ => contractError "expected_revision must be a positive integer"

def patchFields (t : TargetType) : List String :=
  if t = .sspSection then ["content"] else ["implementation_statement", "implementation_status", "responsibility"]

def readChange (p : String × Json) : Except Err (String × String) := do
  let text ←
    if p.1 = "implementation_status" then readAllowed p.2 p.1 o.policy.controlResponse.implementationStatuses
    else if p.1 = "responsibility" then readAllowed p.2 p.1 o.policy.controlResponse.responsibilities
    else readText p.2 p.1 maxContentLength
  return (p.1, text)

def readChanges (v : Json) (t : TargetType) : Except Err (List (String × String)) :=
  match v with
  | .obj (p :: ps) => do
    let unknown := sortedDifference ((p :: ps).map Prod.fst) (patchFields t)
    if !unknown.isEmpty then contractError ("unsupported patch fields: " ++ host.pyStr (.arr (unknown.map .str)))
    (p :: ps).mapM (readChange o)
  | _ => contractError "changes must be a non-empty object"

/-- a section patch against the policy; here a refusal of a structured register is not dropped -/
def requireSectionPatch (targetId content : String) : Except Err Unit :=
  if !hasText content then .ok ()
  else
    match o.policy.item? targetId with
    | none => contractError ("section " ++ targetId ++ " is not in the selected profile")
    | some requirement => validateSectionContentAgainstPolicy host fresh targetId content requirement

def requireControlPatch (p : TargetedPatch) : Except Err Unit := do
  let subject := "patch " ++ p.targetType.value ++ ":" ++ p.targetId
  let statement := (p.change "implementation_statement").getD ""
  if o.policy.implementationStatementRules.rejectOscalParameterInsertSyntax &&
      containsOscalParameterInsertSyntax statement then
    contractError (oscalSyntaxError subject)
  if agentControlRequiresFacts ((p.change "implementation_status").getD "unknown")
      ((p.change "responsibility").getD "unknown") statement
      o.policy.controlResponse.evidenceRequiredForAgentStatement && p.supportingFactIds.isEmpty then
    contractError (subject ++ " requires supporting facts for agent control metadata")
  else .ok ()

def parsePatch (revisions : Revisions) (entry : List (String × Json)) : Except Err TargetedPatch := do
  requireExactKeys host entry ["target_type", "target_id", "expected_revision", "changes", "supporting_fact_ids"] "patch"
  let targetType ← readTargetType (field "target_type" entry)
  let targetId ← readAllowed (field "target_id" entry) "target_id" (allowedTargets o targetType)
  let expectedRevision ← readRevision (field "expected_revision" entry) revisions targetType targetId
  let changes ← readChanges host o (field "changes" entry) targetType
  let factIds ← readFactIds host (field "supporting_fact_ids" entry) o.factIds
  let patch : TargetedPatch := ⟨targetType, targetId, expectedRevision, changes, factIds⟩
  if targetType = .sspSection then do
    let content := (patch.change "content").getD ""
    requireSectionPatch host fresh o targetId content
    -- text without supporting facts is omitted
    if hasText content ∧ factIds = [] then
      return { patch with changes := KeyedList.put Prod.fst ("content", "") changes }
    else return patch
  else do
    requireControlPatch o patch
    return patch

def parsePatchResponse (revisions : Revisions) (questionIds : List String) (raw : String) : Except Err PatchResult := do
  let payload ← parseJsonObject raw
  requireSchemaVersion payload
  requireExactKeys host payload
    ["schema_version", "patches", "questions_to_add", "question_ids_to_resolve", "change_summary"] "patch response"
  let patchEntries ← objectList (field "patches" payload) "patches" maxPatchesPerResponse
  let questionEntries ← objectList (field "questions_to_add" payload) "questions_to_add" maxQuestionsPerResponse
  let resolveIds ← stringList (field "question_ids_to_resolve" payload) "question_ids_to_resolve" maxQuestionsPerResponse
  let unknown := sortedDifference resolveIds questionIds
  if !unknown.isEmpty then
    contractError ("unknown question_ids_to_resolve: " ++ host.pyStr (.arr (unknown.map .str)))
  let patches ← patchEntries.mapM (parsePatch host fresh o revisions)
  let questions ← questionEntries.mapM (parseQuestion host o)
  requireUnique (patches.map fun p => (p.targetType, p.targetId)) "patch target"
  requireUnique (questions.map GeneratedQuestion.questionKey) "question_key"
  requireUnique resolveIds "question_ids_to_resolve"
  let changeSummary ← readText (field "change_summary" payload) "change_summary" 4000
  return ⟨patches, questions, resolveIds, changeSummary⟩

end

/-! ## What the readers of one value let through -/

theorem contractError_eq_ok {α : Type} {detail : String} {a : α} : contractError detail = .ok a ↔ False := raise_eq_ok

theorem strip_of_readText {v : Json} {name s : String} {maximum : Nat} (h : readText v name maximum = .ok s) :
    strip s = s := by
  unfold readText at h
  split at h
  · split_ifs at h
    · exact absurd h contractError_eq_ok.1
    · rw [← Except.ok.inj h, strip_strip]
  · exact absurd h contractError_eq_ok.1

theorem readAllowed_eq_ok {v : Json} {name s : String} {allowed : List String}
    (h : readAllowed v name allowed = .ok s) : s ∈ allowed ∧ strip s = s := by
  unfold readAllowed at h
  obtain ⟨t, ht, h⟩ := bind_eq_ok.1 h
  split_ifs at h with hmem
  · obtain rfl := pure_eq_ok.1 h
    exact ⟨hmem, strip_of_readText ht⟩
  · exact absurd h contractError_eq_ok.1

theorem sortedDifference_of_readFactIds {host : Host} {v : Json} {allowed ids : List String}
    (h : readFactIds host v allowed = .ok ids) : sortedDifference ids allowed = [] := by
  unfold readFactIds at h
  obtain ⟨factIds, -, h⟩ := bind_eq_ok.1 h
  obtain ⟨-, -, h⟩ := bind_eq_ok.1 h
  dsimp only at h
  split_ifs at h with hempty
  · obtain rfl := pure_eq_ok.1 h
    exact List.isEmpty_iff.1 hempty
  · exact absurd h contractError_eq_ok.1

theorem requireUnique_eq_ok {α : Type} [DecidableEq α] {values : List α} {name : String} {u : Unit} :
    requireUnique values name = .ok u ↔ values.Nodup := by
  by_cases h : values.Nodup <;> simp [requireUnique, h, contractError]

end AtoService.Workspace
