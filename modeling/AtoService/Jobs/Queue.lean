/-
The analyzer's job queue: claiming, extending, completing and failing a job, and the recovery of expired leases.

An operation runs in a session on the rows of `Db`; when it raises, what it wrote before is still there. The row locks
that it takes make the operations on a job follow one another. A claim chooses among the jobs that no other transaction
has locked; it sees runs and steps as they were when its SELECT began (`seen`), and reads the run again under its lock.

Identifiers that `uuid.uuid4()` draws are arguments. An attempt is written under its job and number.
-/
import AtoService.Lib.Checks
import AtoService.Lib.LeaseQueue
import AtoService.Lib.Sessions

namespace AtoService.Jobs

open Session Checks

abbrev Uuid := Nat

/-! ## Tables -/

inductive RunStatus where
  | queued | running | succeeded | failed | cancelled | policyBlocked
deriving DecidableEq, Repr

inductive RunTransitionCondition where
  | workerClaimed | outputsCommitted | authorizedCancellation | policyDeniedBeforeExecution | policyDeniedBeforeModel
  | runFailed
deriving DecidableEq, Repr

def RunStatus.terminal : RunStatus → Bool
  | .queued | .running => false
  | .succeeded | .failed | .cancelled | .policyBlocked => true

def isLegalRunTransition : RunStatus → RunStatus → RunTransitionCondition → Bool
  | .queued, .running, .workerClaimed => true
  | .running, .succeeded, .outputsCommitted => true
  | .queued, .cancelled, .authorizedCancellation => true
  | .running, .cancelled, .authorizedCancellation => true
  | .queued, .policyBlocked, .policyDeniedBeforeExecution => true
  | .running, .policyBlocked, .policyDeniedBeforeModel => true
  | .running, .failed, .runFailed => true
  | _, _, _ => false

structure Run where
  runId : Uuid
  status : RunStatus
  startedAt : Option Instant
  completedAt : Option Instant
  llmCallCount : Nat
  errorCode : Option String
  errorRetryable : Option Bool
deriving DecidableEq, Repr

/-- a completed step of a run -/
structure RunStep where
  runId : Uuid
  stepKey : String
deriving DecidableEq, Repr

abbrev JobStatus := LeaseQueue.Status

structure Job where
  jobId : Uuid
  runId : Uuid
  stepKey : String
  stepIdempotent : Bool
  status : JobStatus
  attemptCount : Nat
  availableAt : Instant
  leaseOwner : Option String
  leaseExpiresAt : Option Instant
  heartbeatAt : Option Instant
  lastErrorCode : Option String
deriving DecidableEq, Repr

inductive JobAttemptStatus where
  | active | succeeded | failed
deriving DecidableEq, Repr

structure JobAttempt where
  attemptId : Uuid
  jobId : Uuid
  runId : Uuid
  stepKey : String
  attemptNumber : Nat
  status : JobAttemptStatus
  leaseOwner : String
  startedAt : Instant
  completedAt : Option Instant
  errorCode : Option String
  errorRetryable : Option Bool
deriving DecidableEq, Repr

structure Db where
  runs : List Run := []
  runSteps : List RunStep := []
  jobs : List Job := []
  jobAttempts : List JobAttempt := []
deriving DecidableEq, Repr

/-! ## Errors and checks -/

inductive JobError where
  | leaseLost (jobId : Uuid)
  | invariant (message : String)
  | valueError (message : String)
  | illegalStateTransition (current target : RunStatus) (condition : RunTransitionCondition)
  | multipleResultsFound
  | integrityError (column : String)
deriving DecidableEq, Repr

def errorJobLeaseLost : String := "job_lease_lost"

def errorDependencyAttemptsExhausted : String := "dependency_attempts_exhausted"

def errorRunDeadlineExceeded : String := "run_deadline_exceeded"

def requireAwareUtc (value : Datetime) (fieldName : String) : Except JobError Instant :=
  Checks.requireAwareUtc .valueError value fieldName

def requirePositiveInt (value : Int) (fieldName : String) : Except JobError Unit :=
  Checks.requirePositiveInt .valueError value fieldName

def requireLeaseOwner (leaseOwner : String) : Except JobError Unit := Checks.requireLeaseOwner .valueError leaseOwner

def requireErrorCode (errorCode : String) : Except JobError Unit := Checks.requireErrorCode .valueError errorCode

def requireRunTransition (current target : RunStatus) (condition : RunTransitionCondition) : Except JobError Unit :=
  Results.ensure (isLegalRunTransition current target condition = true)
    (.illegalStateTransition current target condition)

def deadlineAllowsRetry (now : Instant) (runDeadlineAt : Option Instant) : Bool := runDeadlineAt.all fun d => now < d

def validateRetrySchedule (now : Instant) (nextAvailableAt : Option Datetime) (runDeadlineAt : Option Instant) :
    Except JobError Instant := do
  let next ← Results.orRaise nextAvailableAt (.valueError "next_available_at is required for a retryable failure")
  let validated ← requireAwareUtc next "next_available_at"
  Results.ensure (now ≤ validated) (.valueError "next_available_at must not be before now")
  Results.ensure (∀ d ∈ runDeadlineAt, validated < d)
    (.valueError "next_available_at must be strictly before run_deadline_at")
  return validated

/-! ## Rows -/

def Db.run? (db : Db) (runId : Uuid) : Option Run := Rows.get? Run.runId runId db.runs

def Db.job? (db : Db) (jobId : Uuid) : Option Job := Rows.get? Job.jobId jobId db.jobs

def Db.putRun (db : Db) (run : Run) : Db := { db with runs := Rows.put Run.runId run db.runs }

def Db.putJob (db : Db) (job : Job) : Db := { db with jobs := Rows.put Job.jobId job db.jobs }

def attemptKey (a : JobAttempt) : Uuid × Nat := (a.jobId, a.attemptNumber)

def Db.putAttempt (db : Db) (a : JobAttempt) : Db := { db with jobAttempts := Rows.put attemptKey a db.jobAttempts }

def completedRunStepExists (steps : List RunStep) (runId : Uuid) (stepKey : String) : Bool :=
  steps.any fun s => s.runId = runId && s.stepKey = stepKey

def loadActiveAttemptForUpdate (jobId : Uuid) : Session Db JobError (Option JobAttempt) := do
  let active ← read fun db => db.jobAttempts.filter fun a => a.jobId = jobId && a.status = .active
  scalarOneOrNone active .multipleResultsFound

def clearLeaseFields (job : Job) : Job := { job with leaseOwner := none, leaseExpiresAt := none, heartbeatAt := none }

def setLeaseFields (job : Job) (leaseOwner : String) (now : Instant) (leaseSeconds : Int) : Job :=
  { job with
    leaseOwner := some leaseOwner
    leaseExpiresAt := some (now + leaseSeconds * microsecondsPerSecond)
    heartbeatAt := some now }

/-- the lease that `_assert_valid_lease` accepts -/
def validLease (job : Job) (leaseOwner : String) (now : Instant) : Prop :=
  job.status = .leased ∧ job.leaseOwner = some leaseOwner ∧ leaseIsExpired job.leaseExpiresAt now = false

instance (job : Job) (leaseOwner : String) (now : Instant) : Decidable (validLease job leaseOwner now) := by
  unfold validLease
  infer_instance

/-- the job of a caller that holds its lease -/
def loadLeasedJob (jobId : Uuid) (leaseOwner : String) (now : Instant) : Session Db JobError Job := do
  let found ← read fun db => db.job? jobId
  let job ← orRaise found (.leaseLost jobId)
  ensure (validLease job leaseOwner now) (.leaseLost job.jobId)
  return job

/-! ## Runs -/

def transitionRunToFailed (run : Run) (now : Instant) (errorCode : String) : Session Db JobError Unit :=
  if run.status.terminal then pure ()
  else do
    lift (requireRunTransition run.status .failed .runFailed)
    modify fun db => db.putRun { run with
      status := .failed
      errorCode := some errorCode
      errorRetryable := some false
      completedAt := some now }

/-- a run that routing denies before any model call -/
def transitionRunToPolicyBlocked (run : Run) (now : Instant) (errorCode : String) : Session Db JobError Unit :=
  if run.status.terminal then pure ()
  else do
    let condition := if run.status = .queued then .policyDeniedBeforeExecution else .policyDeniedBeforeModel
    lift (requireRunTransition run.status .policyBlocked condition)
    modify fun db => db.putRun { run with
      status := .policyBlocked
      errorCode := some errorCode
      errorRetryable := some false
      completedAt := some now
      llmCallCount := 0 }

/-! ## Claiming -/

/-- the runs and steps as a SELECT saw them -/
structure Seen where
  runs : List Run
  runSteps : List RunStep
deriving DecidableEq, Repr

structure ClaimRequest where
  leaseOwner : String
  now : Datetime
  maxAttempts : Int
  leaseSeconds : Int
  seen : Seen
  /-- the jobs that other transactions have locked -/
  locked : List Uuid
  /-- the identifier drawn for the attempt -/
  attemptId : Uuid
deriving DecidableEq, Repr

structure ClaimedJob where
  job : Job
  attempt : JobAttempt
  runStarted : Bool
deriving DecidableEq, Repr

def claimable (r : ClaimRequest) (now : Instant) (job : Job) : Bool :=
  job.status = .available && job.availableAt ≤ now && (job.attemptCount : Int) < r.maxAttempts &&
    ((Rows.get? Run.runId job.runId r.seen.runs).any fun run => run.status = .queued || run.status = .running) &&
    !completedRunStepExists r.seen.runSteps job.runId job.stepKey && job.jobId ∉ r.locked

/-- ordered by `available_at`, then by `job_id` -/
def claimOrder (a b : Job) : Prop := a.availableAt < b.availableAt ∨ (a.availableAt = b.availableAt ∧ a.jobId ≤ b.jobId)

instance (a b : Job) : Decidable (claimOrder a b) := by
  unfold claimOrder
  infer_instance

def claimSelect (r : ClaimRequest) (now : Instant) (jobs : List Job) : Option Job :=
  ((jobs.filter (claimable r now)).insertionSort claimOrder).head?

/-- a queued run starts with the claim of its job -/
def startRun (run : Run) (now : Instant) : Session Db JobError Bool :=
  if run.status = .queued then do
    lift (requireRunTransition run.status .running .workerClaimed)
    modify fun db => db.putRun { run with status := .running, startedAt := some (run.startedAt.getD now) }
    return true
  else pure false

def leasedJob (r : ClaimRequest) (now : Instant) (job : Job) : Job :=
  setLeaseFields { job with attemptCount := job.attemptCount + 1, status := .leased } r.leaseOwner now r.leaseSeconds

def newAttempt (r : ClaimRequest) (now : Instant) (job : Job) : JobAttempt where
  attemptId := r.attemptId
  jobId := job.jobId
  runId := job.runId
  stepKey := job.stepKey
  attemptNumber := job.attemptCount + 1
  status := .active
  leaseOwner := r.leaseOwner
  startedAt := now
  completedAt := none
  errorCode := none
  errorRetryable := none

def claimJob (r : ClaimRequest) (now : Instant) (job : Job) : Session Db JobError ClaimedJob := do
  ensure ((job.attemptCount : Int) < r.maxAttempts)
    (.invariant "claim selected a job that exhausted the transport attempt budget")
  let found ← read fun db => db.run? job.runId
  let run ← orRaise found (.invariant "claim selected a job with a missing analysis run")
  ensure (run.status.terminal = false) (.invariant "claim selected a job whose analysis run is terminal")
  let completed ← read fun db => completedRunStepExists db.runSteps job.runId job.stepKey
  ensure (completed = false) (.invariant "claim selected a job whose run step is already completed")
  let runStarted ← startRun run now
  modify fun db => db.putJob (leasedJob r now job)
  modify fun db => { db with jobAttempts := db.jobAttempts ++ [newAttempt r now job] }
  return ⟨leasedJob r now job, newAttempt r now job, runStarted⟩

def claimNextEligibleJob (r : ClaimRequest) : Session Db JobError (Option ClaimedJob) := do
  let now ← lift (requireAwareUtc r.now "now")
  lift (requirePositiveInt r.maxAttempts "max_attempts")
  lift (requirePositiveInt r.leaseSeconds "lease_seconds")
  lift (requireLeaseOwner r.leaseOwner)
  let selected ← read fun db => claimSelect r now db.jobs
  match selected with
  | none => pure none
  | some job => do
    let claimed ← claimJob r now job
    return some claimed

/-! ## Heartbeat and completion -/

structure HeartbeatRequest where
  jobId : Uuid
  leaseOwner : String
  now : Datetime
  leaseSeconds : Int
deriving DecidableEq, Repr

def heartbeatJob (r : HeartbeatRequest) : Session Db JobError Unit := do
  let now ← lift (requireAwareUtc r.now "now")
  lift (requirePositiveInt r.leaseSeconds "lease_seconds")
  lift (requireLeaseOwner r.leaseOwner)
  let job ← loadLeasedJob r.jobId r.leaseOwner now
  modify fun db => db.putJob (setLeaseFields job r.leaseOwner now r.leaseSeconds)

structure CompleteRequest where
  jobId : Uuid
  leaseOwner : String
  now : Datetime
deriving DecidableEq, Repr

def succeededAttempt (a : JobAttempt) (now : Instant) : JobAttempt :=
  { a with status := .succeeded, completedAt := some now, errorCode := none, errorRetryable := none }

def failedAttempt (a : JobAttempt) (now : Instant) (errorCode : String) (retryable : Bool) : JobAttempt :=
  { a with status := .failed, completedAt := some now, errorCode := some errorCode, errorRetryable := some retryable }

def completeJob (r : CompleteRequest) : Session Db JobError Unit := do
  let now ← lift (requireAwareUtc r.now "now")
  lift (requireLeaseOwner r.leaseOwner)
  let job ← loadLeasedJob r.jobId r.leaseOwner now
  let completed ← read fun db => completedRunStepExists db.runSteps job.runId job.stepKey
  ensure (completed = true) (.invariant "complete requires a completed run step in the same transaction")
  let active ← loadActiveAttemptForUpdate r.jobId
  let attempt ← orRaise active (.invariant "complete requires an active job attempt")
  modify fun db => db.putAttempt (succeededAttempt attempt now)
  modify fun db => db.putJob (clearLeaseFields { job with status := .completed, lastErrorCode := none })

/-! ## Failure -/

structure FailureRequest where
  jobId : Uuid
  leaseOwner : String
  now : Datetime
  errorCode : String
  transportRetryable : Bool
  maxAttempts : Int
  runDeadlineAt : Option Datetime
  nextAvailableAt : Option Datetime
deriving DecidableEq, Repr

/-- `if run_deadline_at is not None: run_deadline_at = _require_aware_utc(…)` -/
def requireAwareDeadline : Option Datetime → Except JobError (Option Instant)
  | none => .ok none
  | some d => do
    let deadline ← requireAwareUtc d "run_deadline_at"
    return some deadline

def terminalRunErrorCode (errorCode : String) (transportRetryable canReclaim deadlineAllowsRetry : Bool) : String :=
  if transportRetryable && !canReclaim then errorDependencyAttemptsExhausted
  else if transportRetryable && !deadlineAllowsRetry then errorRunDeadlineExceeded
  else errorCode

/-- the job goes back to the queue -/
def retryJob (r : FailureRequest) (now : Instant) (deadline : Option Instant) (job : Job) (attempt : JobAttempt) :
    Session Db JobError Unit := do
  let next ← lift (validateRetrySchedule now r.nextAvailableAt deadline)
  modify fun db => db.putAttempt (failedAttempt attempt now r.errorCode r.transportRetryable)
  modify fun db => db.putJob (clearLeaseFields { job with
    lastErrorCode := some r.errorCode
    status := .available
    availableAt := next })

/-- the job and its run end -/
def failJob (r : FailureRequest) (now : Instant) (canReclaim allowed : Bool) (job : Job) (attempt : JobAttempt) :
    Session Db JobError Unit := do
  modify fun db => db.putAttempt (failedAttempt attempt now r.errorCode r.transportRetryable)
  modify fun db => db.putJob (clearLeaseFields { job with lastErrorCode := some r.errorCode, status := .failed })
  let found ← read fun db => db.run? job.runId
  let run ← orRaise found (.invariant "record_job_failure requires the owning analysis run")
  if run.status = .running then
    transitionRunToFailed run now (terminalRunErrorCode r.errorCode r.transportRetryable canReclaim allowed)
  else pure ()

def recordJobFailure (r : FailureRequest) : Session Db JobError Unit := do
  let now ← lift (requireAwareUtc r.now "now")
  lift (requirePositiveInt r.maxAttempts "max_attempts")
  lift (requireErrorCode r.errorCode)
  lift (requireLeaseOwner r.leaseOwner)
  let deadline ← lift (requireAwareDeadline r.runDeadlineAt)
  let job ← loadLeasedJob r.jobId r.leaseOwner now
  let active ← loadActiveAttemptForUpdate r.jobId
  let attempt ← orRaise active (.invariant "record_job_failure requires an active job attempt")
  let canReclaim : Bool := (job.attemptCount : Int) < r.maxAttempts
  let allowed := deadlineAllowsRetry now deadline
  if r.transportRetryable && canReclaim && allowed then retryJob r now deadline job attempt
  else failJob r now canReclaim allowed job attempt

/-! ## Recovery of expired leases -/

structure RecoverRequest where
  now : Datetime
  maxAttempts : Int
  batchSize : Int
  locked : List Uuid
deriving DecidableEq, Repr

def recoverable (r : RecoverRequest) (now : Instant) (job : Job) : Bool :=
  job.status = .leased && (job.leaseExpiresAt.any fun e => e ≤ now) && job.jobId ∉ r.locked

/-- ordered by `lease_expires_at`, then by `job_id` -/
def recoverOrder (a b : Job) : Prop :=
  a.leaseExpiresAt.getD 0 < b.leaseExpiresAt.getD 0 ∨
    (a.leaseExpiresAt.getD 0 = b.leaseExpiresAt.getD 0 ∧ a.jobId ≤ b.jobId)

instance (a b : Job) : Decidable (recoverOrder a b) := by
  unfold recoverOrder
  infer_instance

def recoverSelect (r : RecoverRequest) (now : Instant) (jobs : List Job) : List Job :=
  ((jobs.filter (recoverable r now)).insertionSort recoverOrder).take r.batchSize.toNat

/-- what becomes of a job whose lease has expired -/
inductive Recovery where
  | reconcile
  | fail
  | failRun (run : Run)
  | requeue
deriving DecidableEq, Repr

def recovery (job : Job) (run : Option Run) (hasCompletedStep : Bool) (attempt : Option JobAttempt) (maxAttempts : Int) :
    Recovery :=
  if hasCompletedStep then .reconcile
  else
    match run with
    | none => .reconcile
    | some run =>
      if run.status.terminal then if run.status = .succeeded then .reconcile else .fail
      else if attempt = none then .reconcile
      else if run.status ≠ .running then .reconcile
      else if !job.stepIdempotent then .reconcile
      else if maxAttempts ≤ job.attemptCount then .failRun run
      else .requeue

def Recovery.status : Recovery → JobStatus
  | .reconcile => .reconciliationRequired
  | .fail | .failRun _ => .failed
  | .requeue => .available

def recoveredJob (job : Job) (outcome : Recovery) (now : Instant) : Job :=
  { clearLeaseFields job with
    lastErrorCode := some errorJobLeaseLost
    status := outcome.status
    availableAt := if outcome = .requeue then now else job.availableAt }

def endAttempt (attempt : Option JobAttempt) (now : Instant) : Session Db JobError Unit :=
  match attempt with
  | none => pure ()
  | some a => modify fun db => db.putAttempt (failedAttempt a now errorJobLeaseLost true)

def failRecoveredRun (outcome : Recovery) (now : Instant) : Session Db JobError Unit :=
  match outcome with
  | .failRun run => transitionRunToFailed run now errorDependencyAttemptsExhausted
  | _ => pure ()

def recoverSingleExpiredJob (now : Instant) (maxAttempts : Int) (job : Job) : Session Db JobError Job := do
  ensure (leaseIsExpired job.leaseExpiresAt now = true)
    (.invariant "recover selected a job whose lease has not expired")
  let run ← read fun db => db.run? job.runId
  let hasCompletedStep ← read fun db => completedRunStepExists db.runSteps job.runId job.stepKey
  let attempt ← loadActiveAttemptForUpdate job.jobId
  let outcome := recovery job run hasCompletedStep attempt maxAttempts
  endAttempt attempt now
  modify fun db => db.putJob (recoveredJob job outcome now)
  failRecoveredRun outcome now
  return recoveredJob job outcome now

def recoverJobs (now : Instant) (maxAttempts : Int) : List Job → Session Db JobError (List Uuid)
  | [] => pure []
  | job :: jobs => do
    let recovered ← recoverSingleExpiredJob now maxAttempts job
    ensure (recovered.status ≠ .leased) (.invariant "recover left an expired job in leased status")
    let rest ← recoverJobs now maxAttempts jobs
    return recovered.jobId :: rest

def recoverExpiredLeases (r : RecoverRequest) : Session Db JobError (List Uuid) := do
  let now ← lift (requireAwareUtc r.now "now")
  lift (requirePositiveInt r.maxAttempts "max_attempts")
  lift (requirePositiveInt r.batchSize "batch_size")
  let jobs ← read fun db => recoverSelect r now db.jobs
  recoverJobs now r.maxAttempts jobs

/-! ## The rest of the service -/

/-- the rows that `start_run` adds: a queued run and its job -/
def startAnalysis (runId jobId : Uuid) (stepKey : String) (stepIdempotent : Bool) (now : Instant) :
    Session Db JobError Unit := do
  let runIds ← read fun db => db.runs.map Run.runId
  ensure (runId ∉ runIds) (.integrityError "run_id")
  let jobIds ← read fun db => db.jobs.map Job.jobId
  ensure (jobId ∉ jobIds) (.integrityError "job_id")
  modify fun db => { db with
    runs := db.runs ++ [⟨runId, .queued, none, none, 0, none, none⟩]
    jobs := db.jobs ++ [⟨jobId, runId, stepKey, stepIdempotent, .available, 0, now, none, none, none, none⟩] }

/-- an analyzer records a completed step -/
def addRunStep (step : RunStep) : Session Db JobError Unit := do
  let runIds ← read fun db => db.runs.map Run.runId
  ensure (step.runId ∈ runIds) (.integrityError "run_id")
  let completed ← read fun db => completedRunStepExists db.runSteps step.runId step.stepKey
  ensure (completed = false) (.integrityError "step_key")
  modify fun db => { db with runSteps := db.runSteps ++ [step] }

/-- an analyzer or a cancellation moves a run, by a legal transition -/
def transitionRun (run' : Run) (condition : RunTransitionCondition) : Session Db JobError Unit := do
  let found ← read fun db => db.run? run'.runId
  let run ← orRaise found (.invariant "missing analysis run")
  lift (requireRunTransition run.status run'.status condition)
  modify fun db => db.putRun run'

end AtoService.Jobs
