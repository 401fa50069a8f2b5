/-
The sufficiency matrix of one run: assessment items in batches, rows from the model or made without it, status ceilings and
exact coverage.

The counter of model calls runs through all batches, and each call is checked against one limit. What the model answers is
a parameter, as are the reading of its response against the schema and the fold of letters in the search for markers.
-/
import AtoService.Matrix.Bundle

namespace AtoService.Matrix

open AtoService.Sealed (CitableSource)

def maxBatchSize : Nat := 10

def maxLlmCallsPerBatch : Nat := 2

/-- a call of the model; `routing` is the code of the policy that denies it, if any -/
structure ModelCallRequest where
  routing : Option String
  maxLlmCalls : Nat
  currentLlmCallCount : Nat
deriving DecidableEq, Repr

structure ParsedMatrixRow where
  assessmentItemId : String
  modelProposedStatus : MatrixStatus
  findingSummary : String
  gaps : List String
  assessorQuestions : List String
  citations : List Citation
  contextComplete : Bool

inductive FailureKind where
  | parse | schema | coverage | policy | citation | statusCeiling
deriving DecidableEq, Repr

structure ResponseValidationError where
  failureKind : FailureKind
  detail : String
  repairable : Bool
deriving DecidableEq, Repr

structure CallError where
  errorCode : String
  retryable : Bool
deriving DecidableEq, Repr

/-- a repair prompt: the errors of the response before, and its text -/
structure Repair where
  validationErrors : List String
  priorResponse : String

structure Reader where
  /-- the rows of a text that is JSON and meets the schema, or the failure: `parse` or `schema` -/
  readResponse : String → Except (FailureKind × String) (List ParsedMatrixRow)
  /-- `str.casefold` -/
  casefold : String → List Char

structure Services extends Reader where
  /-- the text that the model answers to a prompt, on the attempt with a number -/
  complete : FactBundle → Option Repair → Nat → Except CallError String

inductive ValidationOutcome where
  | accepted | rejectedRouting | rejectedContextLimit | rejectedPolicy | rejectedCitation | rejectedCoverage
  | rejectedStatusCeiling | repairExhausted | modelCallFailed | modelTimeout
deriving DecidableEq, Repr

structure SufficiencyMatrixResult where
  rowPayloads : List RowPayload
  validationOutcome : ValidationOutcome
  llmCallCount : Nat
  errorCode : Option String
  retryable : Bool

def failureResult (validationOutcome : ValidationOutcome) (llmCallCount : Nat) (errorCode : String)
    (retryable : Bool) : SufficiencyMatrixResult :=
  { rowPayloads := [], validationOutcome, llmCallCount, errorCode := some errorCode, retryable }

/-! ## Responses -/

def prohibitedTextMarkers : List String :=
  ["/assessor_inputs", "/findings/", "/poam_candidates", "authorized to operate", "certified compliant", "risk accepted",
    "assessor verification", "assessor validation"]

def hasProhibitedText (services : Services) (value : String) : Bool :=
  prohibitedTextMarkers.any fun marker =>
    (services.casefold value).tails.any fun rest => (services.casefold marker).isPrefixOf rest

def prohibited (fieldName : String) : ResponseValidationError :=
  ⟨.policy, fieldName ++ " contains prohibited assessor or AO content", false⟩

/-- the entries of a list field, by their index -/
def rejectProhibitedEntries (services : Services) (fieldName : String) (values : List String) :
    Except ResponseValidationError Unit :=
  values.zipIdx.forM fun p => Results.ensure (hasProhibitedText services p.1 = false)
    (prohibited (fieldName ++ "[" ++ toString p.2 ++ "]"))

/-- the schema admits no other member that begins with `assessor_` -/
def validateProtectedRowFields (services : Services) (row : ParsedMatrixRow) : Except ResponseValidationError Unit := do
  Results.ensure (hasProhibitedText services row.findingSummary = false) (prohibited "finding_summary")
  rejectProhibitedEntries services "gaps" row.gaps
  rejectProhibitedEntries services "assessor_questions" row.assessorQuestions

/-- the rows one by one: none has the item of one before, and none has protected content -/
def checkRows (services : Services) : List String → List ParsedMatrixRow → Except ResponseValidationError Unit
  | _, [] => .ok ()
  | seen, row :: rows => do
    Results.ensure (row.assessmentItemId ∉ seen)
      ⟨.coverage, "duplicate assessment_item_id " ++ row.assessmentItemId, false⟩
    validateProtectedRowFields services row
    checkRows services (row.assessmentItemId :: seen) rows

def validateAndParseResponse (services : Services) (rawText : String) (expectedIds : List String) :
    Except ResponseValidationError (List ParsedMatrixRow) := do
  let rows ← (services.readResponse rawText).mapError fun p => ⟨p.1, p.2, true⟩
  checkRows services [] rows
  (requireExactMatrixCoverage expectedIds (rows.map ParsedMatrixRow.assessmentItemId)).mapError
    fun _ => ⟨.coverage, "matrix coverage invalid", false⟩
  return rows

/-! ## Calls -/

/-- how a batch ends without rows; each with the counter at that point -/
inductive BatchFailure where
  | routing (errorCode : String) (llmCallCount : Nat)
  | call (error : CallError) (llmCallCount : Nat)
  | validation (error : ResponseValidationError) (llmCallCount : Nat)
deriving DecidableEq, Repr

def sufficiencyModelRequest (base : ModelCallRequest) : ModelCallRequest :=
  { base with maxLlmCalls := min base.maxLlmCalls maxLlmCallsPerBatch }

/-- `invoke_model_call` within `invoke_sufficiency_model`: the policy and the limit, then the call -/
def invokeSufficiencyModel (services : Services) (request : ModelCallRequest) (bundle : FactBundle)
    (repair : Option Repair) : Except BatchFailure (String × Nat) :=
  match request.routing with
  | some errorCode => .error (.routing errorCode request.currentLlmCallCount)
  | none =>
    if request.maxLlmCalls ≤ request.currentLlmCallCount then
      .error (.routing "model_call_limit_exceeded" request.currentLlmCallCount)
    else
      match services.complete bundle repair (request.currentLlmCallCount + 1) with
      | .error e => .error (.call e (request.currentLlmCallCount + 1))
      | .ok raw => .ok (raw, request.currentLlmCallCount + 1)

def invokeBatchWithRepair (services : Services) (request : ModelCallRequest) (bundle : FactBundle)
    (expectedIds : List String) : Except BatchFailure (List ParsedMatrixRow × Nat) := do
  let repairRequest := sufficiencyModelRequest request
  let (raw, llmCallCount) ← invokeSufficiencyModel services repairRequest bundle none
  match validateAndParseResponse services raw expectedIds with
  | .ok rows => return (rows, llmCallCount)
  | .error e =>
    if e.repairable = false ∨ request.maxLlmCalls ≤ llmCallCount then .error (.validation e llmCallCount)
    else do
      let (repaired, llmCallCount) ← invokeSufficiencyModel services
        { repairRequest with currentLlmCallCount := llmCallCount } bundle (some ⟨[e.detail], raw⟩)
      let rows ← (validateAndParseResponse services repaired expectedIds).mapError fun e => .validation e llmCallCount
      return (rows, llmCallCount)

/-! ## Rows -/

def deterministicRowPayload (profile : Profile) (assessmentItemId : String) (status : MatrixStatus) (summary : String)
    (contextComplete : Bool) (citations : List Citation) : Except RunError RowPayload := do
  let assessmentItemType ← assessmentItemTypeForId profile assessmentItemId
  return {
    assessmentItemType := assessmentItemType
    assessmentItemId := assessmentItemId
    modelProposedStatus := status
    systemStatus := status
    findingSummary := summary
    gaps := if status = .supported then [] else ["No usable evidence linked."]
    assessorQuestions := []
    citations := citations.map Json.obj
    contextComplete := contextComplete }

def notAllowedSummary (assessmentItemId : String) : String :=
  "No model-assisted analysis is allowed for " ++ assessmentItemId ++ " under the pinned profile."

def noEvidenceSummary (assessmentItemId : String) : String :=
  "No usable sealed evidence linked for " ++ assessmentItemId ++ " in the package snapshot."

/-- a row without evidence for each of some items -/
def insufficientRows (profile : Profile) (summary : String → String) (ids : List String) :
    Except RunError (List RowPayload) :=
  ids.mapM fun k => deterministicRowPayload profile k .insufficientEvidence (summary k) false []

def rowOf (profile : Profile) (sources : List (String × CitableSource)) (row : ParsedMatrixRow) :
    Except RunError (Except ResponseValidationError RowPayload) :=
  match validateCitations row.citations sources with
  | .error e => .ok (.error ⟨.citation, e.message, false⟩)
  | .ok _ => do
    let payload ← deterministicRowPayload profile row.assessmentItemId row.modelProposedStatus row.findingSummary
      row.contextComplete row.citations
    return .ok payload

/-- the rows in their order, up to the first that fails -/
def rowsOf (profile : Profile) (sources : List (String × CitableSource)) :
    List ParsedMatrixRow → Except RunError (Except ResponseValidationError (List RowPayload))
  | [] => .ok (.ok [])
  | row :: rows => do
    match ← rowOf profile sources row with
    | .error e => return .error e
    | .ok payload =>
      match ← rowsOf profile sources rows with
      | .error e => return .error e
      | .ok payloads => return .ok (payload :: payloads)

def rowsToPayloads (profile : Profile) (sources : List (String × CitableSource)) (rows : List ParsedMatrixRow) :
    Except RunError (Except ResponseValidationError (List RowPayload)) := do
  match ← rowsOf profile sources rows with
  | .error e => return .error e
  | .ok payloads =>
    match applyCeilingsToMatrixRowPayloads profile.statusPolicy payloads with
    | .error e => return .error ⟨.statusCeiling, "status ceiling violated for " ++ e.assessmentItemId, false⟩
    | .ok adjusted => return .ok adjusted

/-! ## The run -/

/-- what the batches have produced so far, or the result of the run -/
inductive Progress where
  | going (payloads : List RowPayload) (llmCallCount : Nat)
  | stopped (result : SufficiencyMatrixResult)

def FailureKind.code : FailureKind → String
  | .parse => "parse"
  | .schema => "schema"
  | .coverage => "coverage"
  | .policy => "policy"
  | .citation => "citation"
  | .statusCeiling => "status_ceiling"

def batchFailureResult : BatchFailure → SufficiencyMatrixResult
  | .routing errorCode llmCallCount => failureResult .rejectedRouting llmCallCount errorCode false
  | .call e llmCallCount =>
    failureResult (if e.errorCode = "model_timeout" then .modelTimeout else .modelCallFailed) llmCallCount e.errorCode
      e.retryable
  | .validation e llmCallCount =>
    let outcome :=
      if e.failureKind = .citation then .rejectedCitation
      else if e.failureKind = .coverage then .rejectedCoverage
      else if e.failureKind = .statusCeiling then .rejectedStatusCeiling
      else if e.repairable then .repairExhausted else .rejectedPolicy
    failureResult outcome llmCallCount e.failureKind.code false

def rowFailureResult (e : ResponseValidationError) (llmCallCount : Nat) : SufficiencyMatrixResult :=
  let outcome :=
    if e.failureKind = .citation then .rejectedCitation
    else if e.failureKind = .statusCeiling then .rejectedStatusCeiling else .rejectedPolicy
  failureResult outcome llmCallCount e.failureKind.code false

def modelAllowed (profile : Profile) (assessmentItemId : String) : Bool :=
  (itemById profile assessmentItemId).any AssessmentItem.modelAnalysisAllowed

section

variable (services : Services) (profile : Profile) (content : SealedContent) (request : ModelCallRequest)
  (inputBudgetTokens : Nat)

/-- the items of a batch that the model is asked about -/
def runModelBatch (modelIds : List String) (payloads : List RowPayload) (llmCallCount : Nat) :
    Except RunError Progress := do
  match buildFactBundle profile modelIds content inputBudgetTokens with
  | .error (.contextLimit _) =>
    return .stopped (failureResult .rejectedContextLimit llmCallCount "context_limit_exceeded" false)
  | .error e => throw e
  | .ok bundle =>
    if bundle.evidenceSources.isEmpty then
      return .going (payloads ++ (← insufficientRows profile noEvidenceSummary modelIds)) llmCallCount
    else
      match invokeBatchWithRepair services { request with currentLlmCallCount := llmCallCount } bundle modelIds with
      | .error failure => return .stopped (batchFailureResult failure)
      | .ok (rows, llmCallCount) =>
        match ← rowsToPayloads profile (sourcesById bundle.evidenceSources) rows with
        | .error e => return .stopped (rowFailureResult e llmCallCount)
        | .ok new => return .going (payloads ++ new) llmCallCount

def runBatch (batchIds : List String) (payloads : List RowPayload) (llmCallCount : Nat) : Except RunError Progress := do
  let deterministic ← insufficientRows profile notAllowedSummary (batchIds.filter fun k => !modelAllowed profile k)
  let modelIds := batchIds.filter (modelAllowed profile)
  if modelIds.isEmpty then return .going (payloads ++ deterministic) llmCallCount
  else runModelBatch services profile content request inputBudgetTokens modelIds (payloads ++ deterministic) llmCallCount

def runBatches : List (List String) → List RowPayload → Nat → Except RunError Progress
  | [], payloads, llmCallCount => .ok (.going payloads llmCallCount)
  | batch :: batches, payloads, llmCallCount => do
    match ← runBatch services profile content request inputBudgetTokens batch payloads llmCallCount with
    | .stopped result => return .stopped result
    | .going payloads llmCallCount => runBatches batches payloads llmCallCount

/-- the batches of ten; `k` bounds their number -/
def chunkIds : Nat → List String → List (List String)
  | 0, _ => []
  | k + 1, ids => if ids.isEmpty then [] else ids.take maxBatchSize :: chunkIds k (ids.drop maxBatchSize)

def chunkAssessmentItemIds (ids : List String) : List (List String) := chunkIds ids.length ids

def runSufficiencyMatrix (assessmentItemIds : List String) : Except RunError SufficiencyMatrixResult := do
  let request := sufficiencyModelRequest request
  match ← runBatches services profile content request inputBudgetTokens (chunkAssessmentItemIds assessmentItemIds) []
      request.currentLlmCallCount with
  | .stopped result => return result
  | .going payloads llmCallCount =>
    let rejected := failureResult .rejectedCoverage llmCallCount "matrix_coverage_invalid" false
    match applyCeilingsToMatrixRowPayloads profile.statusPolicy payloads with
    | .error _ => return rejected
    | .ok adjusted =>
      match requireExactMatrixCoverage assessmentItemIds (adjusted.map RowPayload.assessmentItemId) with
      | .error _ => return rejected
      | .ok _ => return ⟨adjusted, .accepted, llmCallCount, none, false⟩

end

end AtoService.Matrix
