/-
MAP steps of the intake: the row of each source artifact of a package revision, and the transactions that write it.

A worker reserves the row of an artifact, moves the row on before each model call, and records the results of all its
artifacts in the transaction that completes its work. Each transaction first reads the work and the revision under their
locks and asks whether the worker's claim is still live; it rolls back when it raises.

The digests of prompts and fact bundles, and the metadata of the model, are written beside these columns and read by no
transaction; they are left out.
-/
import AtoService.Intake.Fences

namespace AtoService.IntakeMap

open Session Checks Intake

/-! ## Rows -/

inductive StepStatus where
  | reserved | running | completed | policyBlocked | failed | reconciliationRequired
deriving DecidableEq, Repr

/-- `REPLAY_RECONCILIATION_STEP_STATUSES` -/
def replayReconciliationStepStatuses : List StepStatus :=
  [.running, .completed, .policyBlocked, .failed, .reconciliationRequired]

inductive NormalizationArtifactKind where
  | prompt | factBundle | response
deriving DecidableEq, Repr

/-- `revisions/{package_revision_id}/normalization/{step_id}/{file name of the kind}` -/
structure StorageKey where
  packageRevisionId : Uuid
  stepId : Uuid
  artifactKind : NormalizationArtifactKind
deriving DecidableEq, Repr

structure NormalizationStep where
  stepId : Uuid
  packageRevisionId : Uuid
  stepKey : String
  status : StepStatus
  inputDigest : String
  validationOutcome : Option String := none
  llmCallCount : Nat := 0
  repairAttempted : Bool := false
  errorCode : Option String := none
  errorRetryable : Option Bool := none
  promptStorageKey : Option StorageKey := none
  factBundleStorageKey : Option StorageKey := none
  responseStorageKey : Option StorageKey := none
  responseSha256 : Option String := none
  createdAt : Instant
  startedAt : Option Instant := none
  completedAt : Option Instant := none
deriving DecidableEq, Repr

/-- the unique constraint of the table -/
def stepName (step : NormalizationStep) : Uuid × String := (step.packageRevisionId, step.stepKey)

structure MapDb where
  queue : Db := {}
  steps : List NormalizationStep := []
deriving DecidableEq, Repr

/-- where an artifact of a step is stored -/
def NormalizationStep.storageKey (step : NormalizationStep) (artifactKind : NormalizationArtifactKind) : StorageKey :=
  ⟨step.packageRevisionId, step.stepId, artifactKind⟩

def MapDb.putStep (db : MapDb) (step : NormalizationStep) : MapDb :=
  { db with steps := Rows.put NormalizationStep.stepId step db.steps }

inductive MapError where
  | leaseLost
  | invariant (message : String)
  | multipleResultsFound
  | intake (e : IntakeError)
deriving DecidableEq, Repr

/-- `artifactId` is the identifier as its `hex` -/
def intakeMapStepKey (artifactId : String) : String := "imap_" ++ artifactId

/-- a claim of the phase `deterministic_extract`, with the revision version of the worker's snapshot -/
structure MapClaim where
  packageRevisionId : Uuid
  leaseOwner : String
  fenceToken : Uuid
  revisionVersion : Int
deriving DecidableEq, Repr

def MapClaim.key (c : MapClaim) : WorkKey := (c.packageRevisionId, .deterministicExtract)

def MapClaim.caller (c : MapClaim) (now : Instant) : Caller where
  packageRevisionId := c.packageRevisionId
  workPhase := IntakeWorkPhase.deterministicExtract.value
  leaseOwner := c.leaseOwner
  fenceToken := c.fenceToken
  now := ⟨now, true⟩

/-- an operation on the tables of the queue -/
def onQueue {α : Type} (wrap : IntakeError → MapError) (x : Session Db IntakeError α) : Session MapDb MapError α :=
  zoom MapDb.queue (fun queue db => { db with queue }) wrap x

/-! ## Reservation -/

/-- the work and the revision of a claim that is live, and whose revision is as the worker's snapshot has it -/
def loadOwnedWork (c : MapClaim) (now : Instant) : Session MapDb MapError IntakeWork := do
  let found ← read fun db => db.queue.work? c.key
  let work ← orRaise found .leaseLost
  let foundRevision ← read fun db => db.queue.packageRevision? c.packageRevisionId
  let revision ← orRaise foundRevision (.invariant "intake MAP requires owning revision")
  onQueue (fun _ => .leaseLost) (assertIntakeClaimLive work revision c.leaseOwner c.fenceToken now)
  ensure (revision.revisionVersion = c.revisionVersion) .leaseLost
  return work

def loadOwnedMapContext (c : MapClaim) (now : Instant) (stepKey : String) (stepId : Option Uuid) :
    Session MapDb MapError (Option NormalizationStep) := do
  let _work ← loadOwnedWork c now
  let rows ← read fun db => db.steps.filter fun step =>
    stepName step = (c.packageRevisionId, stepKey) && stepId.all (step.stepId = ·)
  scalarOneOrNone rows .multipleResultsFound

/-- the row that it reads beside the claim is not used -/
def assertLiveLease (c : MapClaim) (now : Instant) : Session MapDb MapError Unit := do
  let _work ← loadOwnedWork c now
  return ()

def reconciledStep (step : NormalizationStep) (now : Instant) : NormalizationStep :=
  { step with
    status := .reconciliationRequired
    completedAt := some now
    errorCode := some "ambiguous_running_step"
    errorRetryable := some false
    validationOutcome := some "reconciliation_required" }

def markMapReconciliation (c : MapClaim) (now : Instant) (step : NormalizationStep) : Session MapDb MapError Unit := do
  let marked ← onQueue .intake (markIntakeWorkReconciliationRequired (c.caller now))
  if marked then modify fun db => db.putStep (reconciledStep step now) else pure ()

structure ReservationOutcome where
  stepId : Uuid
  reconciliationRequired : Bool
deriving DecidableEq, Repr

def newStep (c : MapClaim) (now : Instant) (stepKey inputDigest : String) (stepId : Uuid) : NormalizationStep where
  stepId := stepId
  packageRevisionId := c.packageRevisionId
  stepKey := stepKey
  status := .reserved
  inputDigest := inputDigest
  createdAt := now

/-- `drawn` is the identifier of a new step -/
def reserveMapStep (c : MapClaim) (now : Instant) (stepKey inputDigest : String) (drawn : Uuid) :
    Session MapDb MapError ReservationOutcome := do
  let found ← loadOwnedMapContext c now stepKey none
  match found with
  | none => do
    modify fun db => { db with steps := db.steps ++ [newStep c now stepKey inputDigest drawn] }
    return ⟨drawn, false⟩
  | some step =>
    if step.status = .reserved ∧ step.inputDigest = inputDigest then return ⟨step.stepId, false⟩
    else if step.status ∈ replayReconciliationStepStatuses then do
      markMapReconciliation c now step
      return ⟨step.stepId, true⟩
    else do
      ensure (step.inputDigest = inputDigest) (.invariant "existing intake MAP reservation digest does not match")
      return ⟨step.stepId, false⟩

/-! ## Calls -/

def maxLlmCalls : Nat := 2

/-- the row as it stands before its first call -/
def runningStep (step : NormalizationStep) (now : Instant) : NormalizationStep :=
  { step with
    status := .running
    startedAt := some now
    llmCallCount := 1
    promptStorageKey := some (step.storageKey .prompt)
    factBundleStorageKey := some (step.storageKey .factBundle) }

/-- the row as it stands before its repair call -/
def repairingStep (step : NormalizationStep) : NormalizationStep :=
  { step with llmCallCount := 2, repairAttempted := true }

def transitionMapStepForCall (c : MapClaim) (now : Instant) (stepId : Uuid) (stepKey inputDigest : String)
    (attempt : Nat) : Session MapDb MapError Unit := do
  let found ← loadOwnedMapContext c now stepKey (some stepId)
  let step ← orRaise found .leaseLost
  ensure (step.inputDigest = inputDigest) (.invariant "intake MAP input digest changed during call reservation")
  if attempt = 1 then do
    ensure (step.status = .reserved) (.invariant "first MAP call requires a reserved step")
    modify fun db => db.putStep (runningStep step now)
  else if attempt = 2 then do
    ensure (step.status = .running ∧ step.llmCallCount = 1)
      (.invariant "MAP repair call requires a running step with one prior call")
    modify fun db => db.putStep (repairingStep step)
  else raise (.invariant "intake MAP supports at most two calls")

/-! ## Results -/

inductive MapValidationOutcome where
  | accepted | repairSucceeded | repairExhausted | rejectedPolicy | rejectedRouting | rejectedContextLimit
  | skippedPreAttestationPolicy | skippedModelNotConfigured | modelCallFailed
deriving DecidableEq, Repr

def MapValidationOutcome.text : MapValidationOutcome → String
  | .accepted => "accepted"
  | .repairSucceeded => "repair_succeeded"
  | .repairExhausted => "repair_exhausted"
  | .rejectedPolicy => "rejected_policy"
  | .rejectedRouting => "rejected_routing"
  | .rejectedContextLimit => "rejected_context_limit"
  | .skippedPreAttestationPolicy => "skipped_pre_attestation_policy"
  | .skippedModelNotConfigured => "skipped_model_not_configured"
  | .modelCallFailed => "model_call_failed"

structure MapStepResult where
  stepId : Uuid
  validationOutcome : MapValidationOutcome
  llmCallCount : Nat
  errorCode : Option String := none
  /-- of an accepted response; it is recorded for no other -/
  responseSha256 : Option String := none
  /-- the protected artifacts stored for it -/
  stored : List NormalizationArtifactKind := []
deriving DecidableEq, Repr

def skippedStepResult (stepId : Uuid) (validationOutcome : MapValidationOutcome) (errorCode : String) : MapStepResult :=
  { stepId, validationOutcome, llmCallCount := 0, errorCode := some errorCode }

def resolveMapTerminalStepStatus (result : MapStepResult) : StepStatus :=
  match result.validationOutcome with
  | .rejectedRouting | .skippedPreAttestationPolicy => .policyBlocked
  | .rejectedContextLimit | .skippedModelNotConfigured | .modelCallFailed | .repairExhausted | .rejectedPolicy => .failed
  | .accepted | .repairSucceeded => .completed

/-- `result.error_code or result.validation_outcome` -/
def MapStepResult.code (result : MapStepResult) : String :=
  (result.errorCode.filter (· ≠ "")).getD result.validationOutcome.text

/-- the key of an artifact that is stored for the result, else the one that the row has -/
def MapStepResult.storedKey (result : MapStepResult) (step : NormalizationStep) (artifactKind : NormalizationArtifactKind)
    (held : Option StorageKey) : Option StorageKey :=
  if artifactKind ∈ result.stored then some (step.storageKey artifactKind) else held

def terminalizeIntakeMapStep (step : NormalizationStep) (result : MapStepResult) (now : Instant) : NormalizationStep :=
  let step := { step with
    status := resolveMapTerminalStepStatus result
    validationOutcome := some result.validationOutcome.text
    llmCallCount := result.llmCallCount
    repairAttempted := result.llmCallCount = 2
    completedAt := some now
    promptStorageKey := result.storedKey step .prompt step.promptStorageKey
    factBundleStorageKey := result.storedKey step .factBundle step.factBundleStorageKey
    responseStorageKey := result.storedKey step .response step.responseStorageKey }
  match resolveMapTerminalStepStatus result with
  | .policyBlocked => { step with errorCode := some result.code, errorRetryable := some false }
  | .failed => { step with
      errorCode := some result.code
      errorRetryable := some (result.validationOutcome ≠ .rejectedContextLimit) }
  | _ => { step with
      errorCode := result.errorCode
      errorRetryable := none
      responseSha256 := result.responseSha256.or step.responseSha256
      startedAt := if 0 < result.llmCallCount then some (step.startedAt.getD now) else step.startedAt }

def terminalizeSteps (now : Instant) : List MapStepResult → Session MapDb MapError Unit
  | [] => pure ()
  | result :: results => do
    let found ← read fun db => Rows.get? NormalizationStep.stepId result.stepId db.steps
    let step ← orRaise found (.intake (.invariant "deterministic_extract commit requires intake MAP step rows"))
    modify fun db => db.putStep (terminalizeIntakeMapStep step result now)
    terminalizeSteps now results

/-- the revision after its extraction -/
def extractedRevision (revision : PackageRevision) : PackageRevision :=
  { revision with status := .awaitingConfirmation, revisionVersion := revision.revisionVersion + 1 }

/-- the transaction that completes the work and records the results, on the rows of the work, the revision and the steps.
What else it writes, the draft among it, may raise, and the transaction then rolls back. -/
def commitSuccessfulExtract (c : MapClaim) (now : Instant) (results : List MapStepResult) :
    Session MapDb MapError Unit := do
  let lost := MapError.intake (.leaseLost c.packageRevisionId .deterministicExtract)
  let found ← read fun db => db.queue.work? c.key
  let work ← orRaise found lost
  let foundRevision ← read fun db => db.queue.packageRevision? c.packageRevisionId
  let revision ← orRaise foundRevision (.intake (.invariant "intake persist requires the owning package revision"))
  onQueue .intake (assertIntakeClaimLive work revision c.leaseOwner c.fenceToken now)
  ensure (revision.revisionVersion = c.revisionVersion) lost
  ensure revision.contentManifestSha256.isSome
    (.intake (.invariant "deterministic_extract requires a content manifest digest"))
  onQueue .intake (completeIntakeWork (c.caller now))
  terminalizeSteps now results
  onQueue .intake (writePackageRevision (extractedRevision revision))

end AtoService.IntakeMap
