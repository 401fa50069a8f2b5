/-
The analyzer worker: one pass claims a job, runs the analyzer of its run and settles the job, in one session.

A row of `analysis_runs` is a `Jobs.Run`, which is what the job queue reads and writes of it, and a `RunBinding`, which is
the rest. `Services` is what an analyzer calls outside the database: the profile files, the run's output files and the
audit log. Each call may fail. A client for the text model is a function to the outcome of the batches.

A processing error, which the worker records as a failure of the job, is `processing`; every other exception leaves the
pass. The columns of a run step other than its key are left out, as are the fingerprints that only the artifact manifest
repeats.
-/
import AtoService.Intake.Queue
import AtoService.Jobs.Queue
import AtoService.Matrix.Rows

namespace AtoService.Analyzer

open Session Checks AtoService.Matrix
open Intake (PackageRevisionStatus)
open Jobs (Uuid JobError Run RunStatus Job JobAttempt ClaimRequest ClaimedJob)

/-! ## Tables -/

inductive RunType where
  | full | targeted | deterministicOnly
deriving DecidableEq, Repr

structure RunBinding where
  runId : Uuid
  packageRevisionId : Uuid
  runType : RunType
  authorityManifestId : String
  analysisProfileSha256 : String
  assessmentItemIds : List String
  artifactManifestSha256 : Option String
deriving DecidableEq, Repr

structure PackageRevision where
  packageRevisionId : Uuid
  status : PackageRevisionStatus
  profileId : Option String
  certificationClass : Option String
  impactLevel : Option String
  dataOrigin : Option String
  sensitivity : Option String
  packageContentSha256 : Option String
deriving DecidableEq, Repr

structure SealedPackageContent where
  packageRevisionId : Uuid
  contentSha256 : String
deriving DecidableEq, Repr

structure MatrixRow where
  runId : Uuid
  payload : RowPayload

structure Db where
  queue : Jobs.Db := {}
  bindings : List RunBinding := []
  packageRevisions : List PackageRevision := []
  sealedContents : List SealedPackageContent := []
  matrixRows : List MatrixRow := []

def Db.binding? (db : Db) (runId : Uuid) : Option RunBinding := Rows.get? RunBinding.runId runId db.bindings

def Db.packageRevision? (db : Db) (id : Uuid) : Option PackageRevision :=
  Rows.get? PackageRevision.packageRevisionId id db.packageRevisions

def Db.sealedContent? (db : Db) (id : Uuid) : Option SealedPackageContent :=
  Rows.get? SealedPackageContent.packageRevisionId id db.sealedContents

/-- the items of a run's matrix rows -/
def Db.matrixItems (db : Db) (runId : Uuid) : List String :=
  (db.matrixRows.filter fun row => row.runId = runId).map fun row => row.payload.assessmentItemId

/-! ## Profiles -/

/-- an analysis profile that has passed its schema and semantic checks -/
structure Profile where
  authorityManifestId : Option String
  sha256 : String
  items : List (String × AssessmentItemType)
  statusPolicy : StatusPolicy
  nonempty : items ≠ []

/-- what selects a profile -/
structure ProfileKey where
  profileId : Option String
  certificationClass : Option String
  impactLevel : Option String
deriving DecidableEq, Repr

def profileKey (p : PackageRevision) : ProfileKey := ⟨p.profileId, p.certificationClass, p.impactLevel⟩

/-- the identifiers, sorted and without repetition -/
def expectedAssessmentItemIds (profile : Profile) : List String :=
  ((profile.items.map Prod.fst).dedup).insertionSort (· ≤ ·)

def supportedProfileIds : List String := ["fisma_agency_security", "fedramp_20x_program", "fedramp_rev5_transition"]

/-! ## Errors -/

structure ProcessingError where
  message : String
  errorCode : String
  retryable : Bool := false
  policyBlocked : Bool := false
deriving DecidableEq, Repr

/-- an `ArtifactManifestCommitError`, or another `ArtifactManifestError` -/
structure ManifestError where
  commit : Bool
  message : String
deriving DecidableEq, Repr

inductive AnalyzerError where
  | job (e : JobError)
  | processing (e : ProcessingError)
  | analysisProfile (message : String)
  | matrixCoverage (e : MatrixCoverageError)
  | artifactManifest (e : ManifestError)
  | valueError (message : String)
  | audit (message : String)
  | integrityError (constraint : String)
  | noResultFound
deriving DecidableEq, Repr

/-! ## Outside the database -/

structure Services where
  /-- or the message of the `AnalysisProfileError` -/
  loadRuntimeProfile : ProfileKey → Except String Profile
  writeRunOutputFile : Uuid → List RowPayload → Except ManifestError String
  /-- the digest of the manifest, for a run, a time and the digest of its one output file -/
  writeArtifactManifest : RunBinding → Instant → String → Except ManifestError String
  /-- an action and the run that it is about -/
  appendAuditEvent : String → Uuid → Except String Unit

structure RuntimeConfig where
  maxModelCallsPerRun : Int
  textModelContextTokens : Int
  textModelMaxOutputTokens : Int
  textModelTimeoutSeconds : Int
  /-- `resolve_text_model_context_budget()`, or the message of its error -/
  contextBudget : Except String Int
  /-- `resolve_text_model_endpoint_profile(config)`, or the message of its error -/
  endpointProfile : Except String String
deriving DecidableEq

def loadRuntimeProfile (s : Services) (key : ProfileKey) : Except AnalyzerError Profile :=
  (s.loadRuntimeProfile key).mapError .analysisProfile

def loadProfileCatalog (s : Services) (key : ProfileKey) : Except AnalyzerError Profile := do
  Results.ensure (∃ id ∈ key.profileId, id ∈ supportedProfileIds) (.analysisProfile "unsupported analysis profile id")
  loadRuntimeProfile s key

/-! ## Sessions on the tables of the queue -/

def onQueue {α : Type} (x : Session Jobs.Db JobError α) : Session Db AnalyzerError α :=
  zoom Db.queue (fun queue db => { db with queue := queue }) .job x

/-- `if not p: raise …ProcessingError(message, error_code=…)` -/
def require (p : Prop) [Decidable p] (message errorCode : String) : Except AnalyzerError Unit :=
  Results.ensure p (.processing { message, errorCode })

/-! ## Outputs of a run -/

def addMatrixRows (runId : Uuid) (rows : List RowPayload) : Session Db AnalyzerError Unit := do
  let items ← read fun db => db.matrixItems runId
  ensure ((items ++ rows.map RowPayload.assessmentItemId).Nodup)
    (.integrityError "uq_matrix_rows_run_id_assessment_item_id")
  modify fun db => { db with matrixRows := db.matrixRows ++ rows.map (MatrixRow.mk runId) }

def succeededRun (run : Run) (now : Instant) (llmCallCount : Nat) : Run :=
  { run with
    status := .succeeded
    completedAt := some now
    llmCallCount := llmCallCount
    errorCode := none
    errorRetryable := none }

structure AnalysisResult where
  runId : Uuid
  packageRevisionId : Uuid
  matrixRowCount : Nat
  artifactManifestSha256 : String
  llmCallCount : Nat
deriving DecidableEq, Repr

/-- the claimed job with its run, as the worker hands them to an analyzer -/
structure Claimed where
  job : Job
  attempt : JobAttempt
  run : Run
  binding : RunBinding
  packageRevision : PackageRevision

/-- a manifest that cannot be committed is a processing error; the other errors of the writer are not caught -/
def writeArtifactManifest (s : Services) (binding : RunBinding) (now : Instant) (file : String) :
    Except AnalyzerError String :=
  (s.writeArtifactManifest binding now file).mapError fun e =>
    if e.commit then .processing { message := e.message, errorCode := "artifact_manifest_commit_failed" }
    else .artifactManifest e

/-- the manifest, and the end of the run and of its job -/
def finishRun (s : Services) (c : Claimed) (now : Datetime) (matrixRowCount llmCallCount : Nat) (file : String) :
    Session Db AnalyzerError AnalysisResult := do
  let sha256 ← lift (writeArtifactManifest s c.binding now.instant file)
  onQueue (Jobs.transitionRun (succeededRun c.run now.instant llmCallCount) .outputsCommitted)
  modify fun db => { db with
    bindings := Rows.put RunBinding.runId { c.binding with artifactManifestSha256 := some sha256 } db.bindings }
  onQueue (Jobs.completeJob ⟨c.job.jobId, c.attempt.leaseOwner, now⟩)
  lift ((s.appendAuditEvent "analysis_run.completed" c.run.runId).mapError .audit)
  return ⟨c.run.runId, c.packageRevision.packageRevisionId, matrixRowCount, sha256, llmCallCount⟩

/-- the end of both analyzers; `limits` are the settings that a run step takes from the configuration -/
def commitOutputs (s : Services) (c : Claimed) (now : Datetime) (rows : List RowPayload) (llmCallCount : Nat)
    (limits : Except AnalyzerError Unit) : Session Db AnalyzerError AnalysisResult := do
  let file ← lift ((s.writeRunOutputFile c.run.runId rows).mapError .artifactManifest)
  addMatrixRows c.run.runId rows
  lift limits
  onQueue (Jobs.addRunStep ⟨c.run.runId, c.job.stepKey⟩)
  finishRun s c now rows.length llmCallCount file

/-! ## The deterministic analyzer -/

def stepKey : String := "sufficiency_matrix"

def assessmentItemType? (profile : Profile) (id : String) : Option AssessmentItemType :=
  (profile.items.find? fun item => item.1 = id).map Prod.snd

def assessmentItemTypeForId (profile : Profile) (id : String) : Except AnalyzerError AssessmentItemType :=
  Results.orRaise (assessmentItemType? profile id) (.analysisProfile ("unknown assessment item id: " ++ id))

def insufficientRow (id : String) (type : AssessmentItemType) : RowPayload where
  assessmentItemType := type
  assessmentItemId := id
  modelProposedStatus := .insufficientEvidence
  systemStatus := .insufficientEvidence
  findingSummary := "No usable evidence linked for " ++ id ++ " in the synthetic package snapshot."
  gaps := ["No usable evidence linked for this assessment item."]
  assessorQuestions := []
  citations := []
  contextComplete := false

def buildMatrixRow (profile : Profile) (id : String) : Except AnalyzerError RowPayload := do
  let type ← assessmentItemTypeForId profile id
  return insufficientRow id type

def ceilingError (e : StatusCeilingViolated) : AnalyzerError :=
  .processing { message := "status ceiling violated for " ++ e.assessmentItemId, errorCode := "status_ceiling_violated" }

/-- `tuple(analysis_run.assessment_item_ids) or expected_assessment_item_ids(profile)` -/
def deterministicItemIds (binding : RunBinding) (profile : Profile) : List String :=
  if binding.assessmentItemIds = [] then expectedAssessmentItemIds profile else binding.assessmentItemIds

/-- what the analyzer does before it writes -/
def deterministicRows (s : Services) (c : Claimed) : Except AnalyzerError (List RowPayload) := do
  require (c.job.stepKey = stepKey) "unexpected job step_key" "reconciliation_required"
  require (c.binding.runType = .deterministicOnly) "deterministic worker only supports deterministic_only runs"
    "prohibited_model_action"
  require (c.packageRevision.dataOrigin = some "synthetic") "deterministic worker requires synthetic package revisions"
    "model_routing_denied"
  require (c.packageRevision.status = .ready) "deterministic worker requires ready package revisions"
    "illegal_state_transition"
  let profile ← loadRuntimeProfile s (profileKey c.packageRevision)
  require (profile.authorityManifestId = some c.binding.authorityManifestId)
    "analysis profile authority_manifest_id does not match run binding" "reconciliation_required"
  require (profile.sha256 = c.binding.analysisProfileSha256)
    "analysis run profile digest does not match pinned profile" "reconciliation_required"
  let rows ← (deterministicItemIds c.binding profile).mapM (buildMatrixRow profile)
  let rows ← (applyCeilingsToMatrixRowPayloads profile.statusPolicy rows).mapError ceilingError
  (requireExactMatrixCoverage (deterministicItemIds c.binding profile) (rows.map RowPayload.assessmentItemId)).mapError
    .matrixCoverage
  return rows

def processNextDeterministicAnalysis (s : Services) (c : Claimed) (now : Datetime) :
    Session Db AnalyzerError AnalysisResult := do
  let rows ← lift (deterministicRows s c)
  commitOutputs s c now rows 0 (.ok ())

/-! ## The model-assisted analyzer -/

inductive ValidationOutcome where
  | accepted | rejectedRouting | rejectedContextLimit | rejectedParse | rejectedPolicy | rejectedCitation
  | rejectedCoverage | rejectedStatusCeiling | repairSucceeded | repairExhausted | modelNotConfigured | modelCallFailed
  | modelTimeout
deriving DecidableEq, Repr

structure SufficiencyMatrixResult where
  rowPayloads : List RowPayload
  validationOutcome : ValidationOutcome
  llmCallCount : Nat
  errorCode : Option String
  retryable : Bool

structure ModelCallRequest where
  dataOrigin : String
  sensitivity : String
  endpointProfile : String
  maxLlmCalls : Int
deriving DecidableEq, Repr

/-- a client for the text model, as the outcome of the batches that are sent through it -/
structure TextModelClient where
  runBatches : Profile → List String → SealedPackageContent → ModelCallRequest → SufficiencyMatrixResult

def sensitivityValues : List String :=
  ["public", "internal_unclassified", "customer_sensitive", "cui", "classified", "unknown"]

def positiveInt (raw : Int) (key : String) : Except AnalyzerError Int := do
  require (1 ≤ raw) (key ++ " must be a positive integer") "reconciliation_required"
  return raw

/-- a member of an enumeration, by its value -/
def enumValue (value : Option String) (values : List String) : Except AnalyzerError String :=
  match value with
  | some v => if v ∈ values then .ok v else .error (.valueError "not a valid value of its enumeration")
  | none => .error (.valueError "not a valid value of its enumeration")

def buildModelCallRequest (p : PackageRevision) (config : RuntimeConfig) : Except AnalyzerError ModelCallRequest := do
  let maxLlmCalls ← positiveInt config.maxModelCallsPerRun "MAX_MODEL_CALLS_PER_RUN"
  let dataOrigin ← enumValue p.dataOrigin Intake.dataOriginValues
  let sensitivity ← enumValue p.sensitivity sensitivityValues
  let endpointProfile ← config.endpointProfile.mapError .valueError
  return ⟨dataOrigin, sensitivity, endpointProfile, maxLlmCalls⟩

def runSufficiencyMatrix (profile : Profile) (ids : List String) (content : SealedPackageContent)
    (request : ModelCallRequest) (textClient : Option TextModelClient) : Except AnalyzerError SufficiencyMatrixResult :=
  match textClient with
  | none => .error (.valueError "text_client or client_factory is required")
  | some client => .ok (client.runBatches profile ids content request)

def executeSufficiencyMatrix (s : Services) (config : RuntimeConfig) (c : Claimed) (content : SealedPackageContent)
    (textClient : Option TextModelClient) : Except AnalyzerError SufficiencyMatrixResult := do
  let profile ← loadProfileCatalog s (profileKey c.packageRevision)
  require (profile.authorityManifestId = some c.binding.authorityManifestId)
    "analysis profile authority_manifest_id does not match run binding" "reconciliation_required"
  require (c.binding.analysisProfileSha256 = profile.sha256)
    "analysis profile digest does not match pinned catalog" "artifact_digest_mismatch"
  require (c.binding.assessmentItemIds ≠ []) "analysis run is missing assessment item ids" "reconciliation_required"
  let _ ← config.contextBudget.mapError AnalyzerError.valueError
  let request ← buildModelCallRequest c.packageRevision config
  runSufficiencyMatrix profile c.binding.assessmentItemIds content request textClient

def routingErrorCodes : List String :=
  ["model_routing_denied", "classified_data_unsupported", "model_policy_not_approved", "prohibited_model_action"]

/-- `code or default` -/
def orText (code : Option String) (default : String) : String :=
  match code with
  | some s => if s = "" then default else s
  | none => default

def mapRunnerFailure (result : SufficiencyMatrixResult) : ProcessingError :=
  match result.validationOutcome with
  | .rejectedRouting =>
    let code := orText result.errorCode "model_response_schema_invalid"
    { message := code, errorCode := code, policyBlocked := code ∈ routingErrorCodes }
  | .modelTimeout => { message := "model request timed out", errorCode := "model_timeout", retryable := true }
  | .modelCallFailed =>
    { message := "model request failed"
      errorCode := orText result.errorCode "model_call_failed"
      retryable := result.retryable }
  | .rejectedCitation => { message := "citation validation failed", errorCode := "citation_validation_failed" }
  | .rejectedStatusCeiling => { message := "status ceiling violated", errorCode := "status_ceiling_violated" }
  | .rejectedCoverage => { message := "matrix coverage invalid", errorCode := "matrix_coverage_invalid" }
  | .repairExhausted | .rejectedParse =>
    { message := "model response schema invalid", errorCode := "model_response_schema_invalid" }
  | .rejectedContextLimit => { message := "context limit exceeded", errorCode := "context_limit_exceeded" }
  | _ =>
    let code := orText result.errorCode "model_response_schema_invalid"
    { message := code, errorCode := code }

/-- a run that routing denies ends, and its job with it, before the error is raised -/
def blockRun (s : Services) (c : Claimed) (now : Datetime) (errorCode : String) : Session Db AnalyzerError Unit := do
  onQueue (Jobs.transitionRunToPolicyBlocked c.run now.instant errorCode)
  onQueue (Jobs.completeJob ⟨c.job.jobId, c.attempt.leaseOwner, now⟩)
  lift ((s.appendAuditEvent "analysis_run.policy_blocked" c.run.runId).mapError .audit)

def runtimeLimits (config : RuntimeConfig) : Except AnalyzerError Unit := do
  let _ ← config.contextBudget.mapError AnalyzerError.valueError
  let _ ← positiveInt config.textModelContextTokens "TEXT_MODEL_CONTEXT_TOKENS"
  let _ ← positiveInt config.textModelMaxOutputTokens "TEXT_MODEL_MAX_OUTPUT_TOKENS"
  let _ ← positiveInt config.textModelTimeoutSeconds "TEXT_MODEL_TIMEOUT_SECONDS"
  let _ ← config.endpointProfile.mapError AnalyzerError.valueError
  return ()

/-- what the analyzer does before it writes -/
def modelAssistedResult (s : Services) (config : RuntimeConfig) (c : Claimed) (content : SealedPackageContent)
    (textClient : Option TextModelClient) : Except AnalyzerError SufficiencyMatrixResult := do
  require (c.job.stepKey = stepKey) "unexpected job step_key" "reconciliation_required"
  require (c.binding.runType = .targeted ∨ c.binding.runType = .full)
    "model-assisted worker only supports targeted and full runs" "prohibited_model_action"
  require (c.packageRevision.status = .ready) "model-assisted worker requires ready package revisions"
    "illegal_state_transition"
  require (c.packageRevision.packageContentSha256 = some content.contentSha256)
    "sealed package digest does not match revision binding" "artifact_digest_mismatch"
  executeSufficiencyMatrix s config c content textClient

def processNextModelAssistedAnalysis (s : Services) (config : RuntimeConfig) (c : Claimed) (content : SealedPackageContent)
    (now : Datetime) (textClient : Option TextModelClient) : Session Db AnalyzerError AnalysisResult := do
  let result ← lift (modelAssistedResult s config c content textClient)
  if result.validationOutcome = .accepted then
    commitOutputs s c now result.rowPayloads result.llmCallCount (runtimeLimits config)
  else do
    if (mapRunnerFailure result).policyBlocked then blockRun s c now (mapRunnerFailure result).errorCode else pure ()
    raise (.processing (mapRunnerFailure result))

/-! ## One pass of the worker -/

def recordFailure (r : ClaimRequest) (job : Job) (errorCode : String) (retryable : Bool) : Session Db AnalyzerError Unit :=
  onQueue (Jobs.recordJobFailure ⟨job.jobId, r.leaseOwner, r.now, errorCode, retryable, r.maxAttempts, none, none⟩)

/-- the worker has no client for the text model -/
def analyze (s : Services) (config : RuntimeConfig) (c : Claimed) (now : Datetime) :
    Session Db AnalyzerError AnalysisResult :=
  if c.binding.runType = .targeted ∨ c.binding.runType = .full then do
    let found ← read fun db => db.sealedContent? c.packageRevision.packageRevisionId
    let content ← orRaise found (.processing
      { message := "sealed package content is required for model-assisted analysis", errorCode := "analysis_not_eligible" })
    processNextModelAssistedAnalysis s config c content now none
  else processNextDeterministicAnalysis s c now

/-- a processing error is recorded as a failure of the job -/
def onProcessingError (r : ClaimRequest) (job : Job) :
    AnalyzerError → Option (Session Db AnalyzerError (Option AnalysisResult))
  | .processing e => some do
      recordFailure r job e.errorCode e.retryable
      return none
  | _ => none

def processClaimed (s : Services) (config : Option RuntimeConfig) (r : ClaimRequest) (claimed : ClaimedJob) :
    Session Db AnalyzerError (Option AnalysisResult) := do
  let found ← read fun db => (db.queue.run? claimed.job.runId).bind fun run =>
    (db.binding? claimed.job.runId).map fun binding => (run, binding)
  let row ← orRaise found (.processing
    { message := "claimed job references a missing analysis run", errorCode := "reconciliation_required" })
  if row.1.status = .cancelled then do
    recordFailure r claimed.job "illegal_state_transition" false
    return none
  else do
    let revision ← read fun db => db.packageRevision? row.2.packageRevisionId
    match revision with
    | none => do
      recordFailure r claimed.job "resource_not_found" false
      return none
    | some revision => do
      let config ← orRaise config (.valueError "config is required for model-assisted analysis runs")
      let analysis := do
        let result ← analyze s config ⟨claimed.job, claimed.attempt, row.1, row.2, revision⟩ r.now
        return some result
      handle analysis (onProcessingError r claimed.job)

def processNextDeterministicAnalysisJob (s : Services) (config : Option RuntimeConfig) (r : ClaimRequest) :
    Session Db AnalyzerError (Option AnalysisResult) := do
  let claimed ← onQueue (Jobs.claimNextEligibleJob r)
  match claimed with
  | none => pure none
  | some claimed => processClaimed s config r claimed

end AtoService.Analyzer
