/-
Workers that run MAP steps, in any interleaving with one another and with the intake queue.

A worker claims the work of a revision, takes a snapshot of it and goes through the artifacts that have text, one by one.
`Phase` says where it is: what it does next is one event. A worker that raises or crashes stops, and keeps its phase. Other
work with the queue, the recovery of expired leases among it, is an event of its own, and may come at any time.

Fence tokens and step identifiers are drawn from a counter, as no two calls of `uuid.uuid4()` agree. What the snapshot
holds, whether a bundle fits and what the model answers are given with the events.
-/
import AtoService.Intake.MapSteps

namespace AtoService.IntakeMap

open Session Checks Intake

/-! ## Workers -/

structure MapArtifact where
  artifactId : String
  inputDigest : String
  /-- the fact bundle fits the context of the model -/
  bundled : Bool
deriving DecidableEq, Repr

structure ModelCallRequest where
  /-- the code of the policy that denies the call, if any -/
  routing : Option String
deriving DecidableEq, Repr

structure MapSnapshot where
  revisionVersion : Int
  /-- the artifacts with text -/
  artifacts : List MapArtifact
  distinct : (artifacts.map MapArtifact.artifactId).Nodup
  /-- none without labels, unless the endpoint is the local mock -/
  modelRequest : Option ModelCallRequest
  /-- the text client is configured -/
  textClient : Bool
deriving DecidableEq, Repr

inductive Phase where
  | checking
  | ready
  | reserved (stepId : Uuid)
  /-- the row counts the call, which is not made yet -/
  | recorded (stepId : Uuid) (attempt : Nat)
  | calling (stepId : Uuid) (attempt : Nat)
  | repairing (stepId : Uuid)
  | finished
deriving DecidableEq, Repr

structure MapWorker where
  claim : MapClaim
  modelRequest : Option ModelCallRequest
  textClient : Bool
  /-- from the artifact in work on -/
  todo : List MapArtifact
  results : List MapStepResult := []
  phase : Phase
  live : Bool := true
deriving DecidableEq, Repr

namespace MapWorker

def fenceToken (w : MapWorker) : Uuid := w.claim.fenceToken

/-- the lease is checked before every second artifact -/
def nextPhase (todo : List MapArtifact) (index : Nat) : Phase :=
  if todo = [] then .finished else if 0 < index ∧ index % 2 = 0 then .checking else .ready

def start (work : IntakeWork) (leaseOwner : String) (fenceToken : Uuid) (snapshot : MapSnapshot) : MapWorker where
  claim := ⟨work.packageRevisionId, leaseOwner, fenceToken, snapshot.revisionVersion⟩
  modelRequest := snapshot.modelRequest
  textClient := snapshot.textClient
  todo := snapshot.artifacts
  phase := nextPhase snapshot.artifacts 0

def stop (w : MapWorker) : MapWorker := { w with live := false }

def finish (w : MapWorker) (result : MapStepResult) : MapWorker :=
  { w with
    todo := w.todo.tail
    results := w.results ++ [result]
    phase := nextPhase w.todo.tail (w.results.length + 1) }

/-- why an artifact gets a result without a call -/
def skip (w : MapWorker) (artifact : MapArtifact) : Option (MapValidationOutcome × String) :=
  if artifact.bundled = false then some (.rejectedContextLimit, "context_limit_exceeded")
  else if w.modelRequest.isNone then some (.skippedPreAttestationPolicy, "pre_attestation_policy")
  else if w.textClient = false then some (.skippedModelNotConfigured, "model_not_configured")
  else none

def afterReservation (w : MapWorker) (artifact : MapArtifact) (outcome : ReservationOutcome) : MapWorker :=
  if outcome.reconciliationRequired then w.stop
  else
    match w.skip artifact with
    | some (validationOutcome, errorCode) => w.finish (skippedStepResult outcome.stepId validationOutcome errorCode)
    | none => { w with phase := .reserved outcome.stepId }

/-- the step that the next call is for, and the calls made for it so far -/
def nextCall (w : MapWorker) : Option (Uuid × Nat) :=
  match w.phase with
  | .reserved stepId => some (stepId, 0)
  | .repairing stepId => some (stepId, 1)
  | _ => none

/-- the code with which `invoke_model_call` denies the next call, if it does -/
def denial (w : MapWorker) (currentLlmCallCount : Nat) : Option String :=
  (w.modelRequest.bind ModelCallRequest.routing).or
    (if maxLlmCalls ≤ currentLlmCallCount then some "model_call_limit_exceeded" else none)

/-- the row of the step counts a call that this worker has not made -/
def hasRecorded (w : MapWorker) (stepId : Uuid) : Bool :=
  match w.phase with
  | .recorded id _ => id = stepId
  | _ => false

end MapWorker

/-! ## Replies -/

structure MapResponseValidationError where
  failureKind : String
  repairable : Bool
deriving DecidableEq, Repr

inductive MapModelCallError where
  | modelNotConfigured | modelCallFailed
deriving DecidableEq, Repr

def MapModelCallError.errorCode : MapModelCallError → String
  | .modelNotConfigured => "model_not_configured"
  | .modelCallFailed => "model_call_failed"

/-- what a call ends with; `validate_and_parse_map_response` has read the text of a response -/
inductive Reply where
  | accepted (responseSha256 : String)
  | rejected (e : MapResponseValidationError)
  | failed (e : MapModelCallError)
deriving DecidableEq, Repr

/-- the outcome of a first call that raised -/
def MapModelCallError.outcome : MapModelCallError → MapValidationOutcome
  | .modelNotConfigured => .skippedModelNotConfigured
  | .modelCallFailed => .modelCallFailed

/-- what is stored before a call -/
def storedBeforeCall : List NormalizationArtifactKind := [.prompt, .factBundle]

/-- a call that raised; the result of a first call is built as if it had been skipped -/
def failedResult (stepId : Uuid) (attempt : Nat) (e : MapModelCallError) : MapStepResult :=
  if attempt = 1 then { skippedStepResult stepId e.outcome e.errorCode with stored := storedBeforeCall }
  else
    { stepId, validationOutcome := .modelCallFailed, llmCallCount := attempt, errorCode := some e.errorCode,
      stored := storedBeforeCall }

def acceptedResult (stepId : Uuid) (attempt : Nat) (responseSha256 : String) : MapStepResult :=
  { stepId, validationOutcome := if attempt = 1 then .accepted else .repairSucceeded, llmCallCount := attempt,
    responseSha256 := some responseSha256, stored := storedBeforeCall ++ [.response] }

def rejectedResult (stepId : Uuid) (attempt : Nat) (e : MapResponseValidationError) : MapStepResult :=
  { stepId, validationOutcome := if e.repairable then .repairExhausted else .rejectedPolicy, llmCallCount := attempt,
    errorCode := some e.failureKind, stored := storedBeforeCall }

def deniedResult (stepId : Uuid) (currentLlmCallCount : Nat) (errorCode : String) : MapStepResult :=
  { stepId, validationOutcome := .rejectedRouting, llmCallCount := currentLlmCallCount, errorCode := some errorCode,
    stored := storedBeforeCall }

def MapWorker.reply (w : MapWorker) (stepId : Uuid) (attempt : Nat) : Reply → MapWorker
  | .accepted responseSha256 => w.finish (acceptedResult stepId attempt responseSha256)
  | .rejected e =>
    if attempt = 1 ∧ e.repairable ∧ attempt < maxLlmCalls then { w with phase := .repairing stepId }
    else w.finish (rejectedResult stepId attempt e)
  | .failed e => w.finish (failedResult stepId attempt e)

/-! ## Runs -/

structure MapCall where
  packageRevisionId : Uuid
  stepKey : String
  stepId : Uuid
  fenceToken : Uuid
  attempt : Nat
deriving DecidableEq, Repr

structure State where
  db : MapDb := {}
  workers : List MapWorker := []
  /-- the calls made -/
  calls : List MapCall := []
  drawn : Uuid := 0
deriving DecidableEq, Repr

namespace State

def withQueue (s : State) (queue : Db) : State := { s with db := { s.db with queue }, drawn := s.drawn + 1 }

def put (s : State) (w : MapWorker) : State := { s with workers := Rows.put MapWorker.fenceToken w s.workers }

/-- the worker that holds a fence token does something, unless it has stopped -/
def advance (s : State) (fenceToken : Uuid) (f : MapWorker → State) : State :=
  match Rows.get? MapWorker.fenceToken fenceToken s.workers with
  | none => s
  | some w => if w.live then f w else s

/-- a transaction of a worker, which stops if it raises -/
def transact {α : Type} (s : State) (w : MapWorker) (x : Session MapDb MapError α) (next : α → MapWorker) : State :=
  match x s.db with
  | (.ok a, db) => { s with db }.put (next a)
  | (.error _, _) => s.put w.stop

/-- the calls made for a step -/
def callsOf (s : State) (stepId : Uuid) : Nat := s.calls.countP fun call => call.stepId = stepId

/-- the calls made for an artifact of a revision -/
def callsFor (s : State) (packageRevisionId : Uuid) (stepKey : String) : Nat :=
  s.calls.countP fun call => (call.packageRevisionId, call.stepKey) = (packageRevisionId, stepKey)

/-- the calls that the row of a step counts and that no worker has made -/
def recordedCalls (s : State) (stepId : Uuid) : Nat := s.workers.countP fun w => w.hasRecorded stepId

end State

inductive Event where
  | operate (a : Action)
  | claim (r : ClaimRequest) (snapshot : MapSnapshot)
  | check (fenceToken : Uuid) (now : Instant)
  | reserve (fenceToken : Uuid) (now : Instant)
  /-- the transaction before a call -/
  | record (fenceToken : Uuid) (now : Instant)
  | call (fenceToken : Uuid)
  | reply (fenceToken : Uuid) (reply : Reply)
  | crash (fenceToken : Uuid)
  | commit (fenceToken : Uuid) (now : Instant)
deriving DecidableEq, Repr

def State.check (s : State) (now : Instant) (w : MapWorker) : State :=
  if w.phase = .checking then s.transact w (assertLiveLease w.claim now) fun _ => { w with phase := .ready } else s

def State.reserve (s : State) (now : Instant) (w : MapWorker) : State :=
  match w.phase, w.todo with
  | .ready, artifact :: _ =>
    { s with drawn := s.drawn + 1 }.transact w
      (reserveMapStep w.claim now (intakeMapStepKey artifact.artifactId) artifact.inputDigest s.drawn)
      (w.afterReservation artifact)
  | _, _ => s

def State.record (s : State) (now : Instant) (w : MapWorker) : State :=
  match w.nextCall, w.todo with
  | some (stepId, current), artifact :: _ =>
    match w.denial current with
    | some errorCode => s.put (w.finish (deniedResult stepId current errorCode))
    | none =>
      s.transact w (transitionMapStepForCall w.claim now stepId (intakeMapStepKey artifact.artifactId) artifact.inputDigest
        (current + 1)) fun _ => { w with phase := .recorded stepId (current + 1) }
  | _, _ => s

def State.call (s : State) (w : MapWorker) : State :=
  match w.phase, w.todo with
  | .recorded stepId attempt, artifact :: _ =>
    let call := ⟨w.claim.packageRevisionId, intakeMapStepKey artifact.artifactId, stepId, w.fenceToken, attempt⟩
    { s with calls := s.calls ++ [call] }.put { w with phase := .calling stepId attempt }
  | _, _ => s

def State.reply (s : State) (r : Reply) (w : MapWorker) : State :=
  match w.phase with
  | .calling stepId attempt => s.put (w.reply stepId attempt r)
  | _ => s

def State.commit (s : State) (now : Instant) (w : MapWorker) : State :=
  if w.phase = .finished then s.transact w (commitSuccessfulExtract w.claim now w.results) fun _ => w.stop else s

def State.claim (maxAttempts : Int) (s : State) (r : ClaimRequest) (snapshot : MapSnapshot) : State :=
  match claimNextEligibleIntakeWork maxAttempts { r with fenceToken := s.drawn } s.db.queue with
  | (.ok (some claimed), queue) =>
    if claimed.work.workPhase = .deterministicExtract then
      { s.withQueue queue with
        workers := s.workers ++ [MapWorker.start claimed.work r.leaseOwner claimed.fenceToken snapshot] }
    else s.withQueue queue
  | (_, queue) => s.withQueue queue

def step (maxAttempts : Int) (s : State) : Event → State
  | .operate a => s.withQueue (Intake.step maxAttempts s.db.queue (drawing s.drawn a))
  | .claim r snapshot => s.claim maxAttempts r snapshot
  | .check fenceToken now => s.advance fenceToken (s.check now)
  | .reserve fenceToken now => s.advance fenceToken (s.reserve now)
  | .record fenceToken now => s.advance fenceToken (s.record now)
  | .call fenceToken => s.advance fenceToken s.call
  | .reply fenceToken r => s.advance fenceToken (s.reply r)
  | .crash fenceToken => s.advance fenceToken fun w => s.put w.stop
  | .commit fenceToken now => s.advance fenceToken (s.commit now)

/-- the state after a run from empty tables -/
def reached (maxAttempts : Int) (es : List Event) : State := Runs.run (step maxAttempts) {} es

end AtoService.IntakeMap
