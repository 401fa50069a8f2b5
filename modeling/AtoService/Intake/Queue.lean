/-
The intake queue of package revisions: a revision has one row of work for each phase, which workers claim under a lease
with a fence token.

An operation runs in a session on the rows of `Db`; when it raises, what it wrote before is still there. The row lock on
the work, which each operation takes first, makes the operations on a row follow one another. A claim chooses among the
rows that no other transaction has locked; it sees the revisions as they were when its SELECT began (`seen`), and reads
the revision again under its lock. `maxAttempts` is the service's setting.

Identifiers and fence tokens that `uuid.uuid4()` draws are arguments.
-/
import AtoService.Lib.Checks
import AtoService.Lib.LeaseQueue
import AtoService.Lib.Sessions

namespace AtoService.Intake

open Session Checks

abbrev Uuid := Nat

/-! ## Tables -/

inductive PackageRevisionStatus where
  | uploading | scanning | extracting | awaitingConfirmation | ready | invalid | quarantined | archived
deriving DecidableEq, Repr

structure PackageRevision where
  packageRevisionId : Uuid
  dataOrigin : Option String
  contentManifestSha256 : Option String
  revisionVersion : Int
  status : PackageRevisionStatus
deriving DecidableEq, Repr

inductive IntakeWorkPhase where
  | malwareScan | deterministicExtract
deriving DecidableEq, Repr

def IntakeWorkPhase.value : IntakeWorkPhase → String
  | .malwareScan => "malware_scan"
  | .deterministicExtract => "deterministic_extract"

abbrev IntakeWorkStatus := LeaseQueue.Status

structure IntakeWork where
  packageRevisionId : Uuid
  workPhase : IntakeWorkPhase
  status : IntakeWorkStatus
  attemptCount : Nat
  availableAt : Instant
  leaseOwner : Option String
  leaseExpiresAt : Option Instant
  heartbeatAt : Option Instant
  fenceToken : Option Uuid
  expectedRevisionVersion : Int
  lastErrorCode : Option String
deriving DecidableEq, Repr

inductive IntakeAttemptStatus where
  | active | succeeded | failed
deriving DecidableEq, Repr

structure IntakeAttempt where
  attemptId : Uuid
  packageRevisionId : Uuid
  workPhase : IntakeWorkPhase
  attemptNumber : Nat
  status : IntakeAttemptStatus
  leaseOwner : String
  fenceToken : Uuid
  expectedRevisionVersion : Int
  startedAt : Instant
  completedAt : Option Instant
  errorCode : Option String
  errorRetryable : Option Bool
deriving DecidableEq, Repr

structure Db where
  packageRevisions : List PackageRevision := []
  intakeWork : List IntakeWork := []
  intakeAttempts : List IntakeAttempt := []
deriving DecidableEq, Repr

/-! ## Errors and checks -/

inductive IntakeError where
  | leaseLost (packageRevisionId : Uuid) (workPhase : IntakeWorkPhase)
  | invariant (message : String)
  | valueError (message : String)
  | multipleResultsFound
  | integrityError (constraint : String)
deriving DecidableEq, Repr

def errorIntakeLeaseLost : String := "intake_lease_lost"

def errorIntakeReconciliationRequired : String := "reconciliation_required"

def requireAwareUtc (value : Datetime) (fieldName : String) : Except IntakeError Instant :=
  Checks.requireAwareUtc .valueError value fieldName

def requirePositiveInt (value : Int) (fieldName : String) : Except IntakeError Unit :=
  Checks.requirePositiveInt .valueError value fieldName

def requireLeaseOwner (leaseOwner : String) : Except IntakeError Unit := Checks.requireLeaseOwner .valueError leaseOwner

def requireErrorCode (errorCode : String) : Except IntakeError Unit := Checks.requireErrorCode .valueError errorCode

def requireWorkPhase (workPhase : String) : Except IntakeError IntakeWorkPhase :=
  if workPhase = IntakeWorkPhase.malwareScan.value then .ok .malwareScan
  else if workPhase = IntakeWorkPhase.deterministicExtract.value then .ok .deterministicExtract
  else .error (.valueError "work_phase must be a supported intake work phase")

def expectedRevisionStatus : IntakeWorkPhase → PackageRevisionStatus
  | .malwareScan => .scanning
  | .deterministicExtract => .extracting

def dataOriginValues : List String := ["synthetic", "redacted_nonproduction", "customer_production"]

def requireAllowedDataOrigins (allowedDataOrigins : Option (List String)) : Except IntakeError (List String) := do
  let values := allowedDataOrigins.getD dataOriginValues
  Results.ensure (values ≠ [] ∧ ∀ v ∈ values, v ∈ dataOriginValues)
    (.valueError "allowed_data_origins must contain supported data origins")
  return values

def validateRetrySchedule (now : Instant) (nextAvailableAt : Option Datetime) : Except IntakeError Instant := do
  let next ← Results.orRaise nextAvailableAt (.valueError "next_available_at is required for a retryable failure")
  let validated ← requireAwareUtc next "next_available_at"
  Results.ensure (now ≤ validated) (.valueError "next_available_at must not be before now")
  return validated

/-! ## Rows -/

abbrev WorkKey := Uuid × IntakeWorkPhase

def workKey (work : IntakeWork) : WorkKey := (work.packageRevisionId, work.workPhase)

def attemptKey (a : IntakeAttempt) : WorkKey × Nat := ((a.packageRevisionId, a.workPhase), a.attemptNumber)

def Db.work? (db : Db) (key : WorkKey) : Option IntakeWork := Rows.get? workKey key db.intakeWork

def Db.packageRevision? (db : Db) (id : Uuid) : Option PackageRevision :=
  Rows.get? PackageRevision.packageRevisionId id db.packageRevisions

def Db.putWork (db : Db) (work : IntakeWork) : Db := { db with intakeWork := Rows.put workKey work db.intakeWork }

def Db.putAttempt (db : Db) (a : IntakeAttempt) : Db :=
  { db with intakeAttempts := Rows.put attemptKey a db.intakeAttempts }

def loadActiveAttemptForUpdate (key : WorkKey) : Session Db IntakeError (Option IntakeAttempt) := do
  let active ← read fun db =>
    db.intakeAttempts.filter fun a => (a.packageRevisionId, a.workPhase) = key && a.status = .active
  scalarOneOrNone active .multipleResultsFound

def clearLeaseFields (work : IntakeWork) : IntakeWork :=
  { work with leaseOwner := none, leaseExpiresAt := none, heartbeatAt := none, fenceToken := none }

def setLeaseFields (work : IntakeWork) (leaseOwner : String) (fenceToken : Uuid) (now : Instant) (leaseSeconds : Int) :
    IntakeWork :=
  { work with
    leaseOwner := some leaseOwner
    fenceToken := some fenceToken
    leaseExpiresAt := some (now + leaseSeconds * microsecondsPerSecond)
    heartbeatAt := some now }

/-- the lease that `_assert_valid_lease` accepts -/
def validLease (work : IntakeWork) (leaseOwner : String) (fenceToken : Uuid) (now : Instant) : Prop :=
  work.status = .leased ∧ work.leaseOwner = some leaseOwner ∧ work.fenceToken = some fenceToken ∧
    leaseIsExpired work.leaseExpiresAt now = false

instance (work : IntakeWork) (leaseOwner : String) (fenceToken : Uuid) (now : Instant) :
    Decidable (validLease work leaseOwner fenceToken now) := by
  unfold validLease
  infer_instance

def assertValidLease (work : IntakeWork) (leaseOwner : String) (fenceToken : Uuid) (now : Instant) :
    Session Db IntakeError Unit :=
  ensure (validLease work leaseOwner fenceToken now) (.leaseLost work.packageRevisionId work.workPhase)

def assertIntakeClaimLive (work : IntakeWork) (revision : PackageRevision) (leaseOwner : String) (fenceToken : Uuid)
    (now : Instant) : Session Db IntakeError Unit := do
  assertValidLease work leaseOwner fenceToken now
  ensure (revision.revisionVersion = work.expectedRevisionVersion) (.leaseLost work.packageRevisionId work.workPhase)

/-- the work of a caller that holds its lease -/
def loadLeasedWork (key : WorkKey) (leaseOwner : String) (fenceToken : Uuid) (now : Instant) :
    Session Db IntakeError IntakeWork := do
  let found ← read fun db => db.work? key
  let work ← orRaise found (.leaseLost key.1 key.2)
  assertValidLease work leaseOwner fenceToken now
  return work

/-! ## Bootstrap -/

structure BootstrapRequest where
  packageRevisionId : Uuid
  expectedRevisionVersion : Int
  now : Datetime
deriving DecidableEq, Repr

def newWork (r : BootstrapRequest) (workPhase : IntakeWorkPhase) (now : Instant) : IntakeWork where
  packageRevisionId := r.packageRevisionId
  workPhase := workPhase
  status := .available
  attemptCount := 0
  availableAt := now
  leaseOwner := none
  leaseExpiresAt := none
  heartbeatAt := none
  fenceToken := none
  expectedRevisionVersion := r.expectedRevisionVersion
  lastErrorCode := none

/-- the row is written with the flush that follows, under the constraints of its table -/
def bootstrapWork (workPhase : IntakeWorkPhase) (r : BootstrapRequest) : Session Db IntakeError IntakeWork := do
  let now ← lift (requireAwareUtc r.now "now")
  lift (requirePositiveInt r.expectedRevisionVersion "expected_revision_version")
  let revisionIds ← read fun db => db.packageRevisions.map PackageRevision.packageRevisionId
  ensure (r.packageRevisionId ∈ revisionIds) (.integrityError "package_revision_id")
  let keys ← read fun db => db.intakeWork.map workKey
  ensure ((r.packageRevisionId, workPhase) ∉ keys) (.integrityError "primary key")
  modify fun db => { db with intakeWork := db.intakeWork ++ [newWork r workPhase now] }
  return newWork r workPhase now

def bootstrapMalwareScanWork : BootstrapRequest → Session Db IntakeError IntakeWork := bootstrapWork .malwareScan

def bootstrapDeterministicExtractWork : BootstrapRequest → Session Db IntakeError IntakeWork :=
  bootstrapWork .deterministicExtract

/-! ## Claiming -/

structure ClaimRequest where
  workPhase : String
  leaseOwner : String
  now : Datetime
  leaseSeconds : Int
  allowedDataOrigins : Option (List String)
  /-- the revisions as the SELECT saw them -/
  seen : List PackageRevision
  /-- the work that other transactions have locked -/
  locked : List WorkKey
  /-- the token and the identifier drawn for the attempt -/
  fenceToken : Uuid
  attemptId : Uuid
deriving DecidableEq, Repr

structure ClaimedIntakeWork where
  work : IntakeWork
  attempt : IntakeAttempt
  fenceToken : Uuid
deriving DecidableEq, Repr

def claimableRevision (workPhase : IntakeWorkPhase) (allowedOrigins : List String) (revision : PackageRevision) : Bool :=
  revision.status = expectedRevisionStatus workPhase && revision.contentManifestSha256.isSome &&
    revision.dataOrigin.all fun origin => origin ∈ allowedOrigins

def claimable (maxAttempts : Int) (r : ClaimRequest) (workPhase : IntakeWorkPhase) (allowedOrigins : List String)
    (now : Instant) (work : IntakeWork) : Bool :=
  work.workPhase = workPhase && work.status = .available && work.availableAt ≤ now &&
    (work.attemptCount : Int) < maxAttempts &&
    ((Rows.get? PackageRevision.packageRevisionId work.packageRevisionId r.seen).any
      (claimableRevision workPhase allowedOrigins)) && workKey work ∉ r.locked

/-- ordered by `available_at`, then by `package_revision_id` -/
def claimOrder (a b : IntakeWork) : Prop :=
  a.availableAt < b.availableAt ∨ (a.availableAt = b.availableAt ∧ a.packageRevisionId ≤ b.packageRevisionId)

instance (a b : IntakeWork) : Decidable (claimOrder a b) := by
  unfold claimOrder
  infer_instance

def claimSelect (maxAttempts : Int) (r : ClaimRequest) (workPhase : IntakeWorkPhase) (allowedOrigins : List String)
    (now : Instant) (work : List IntakeWork) : Option IntakeWork :=
  ((work.filter (claimable maxAttempts r workPhase allowedOrigins now)).insertionSort claimOrder).head?

def leasedWork (r : ClaimRequest) (now : Instant) (revision : PackageRevision) (work : IntakeWork) : IntakeWork :=
  setLeaseFields { work with
    attemptCount := work.attemptCount + 1
    status := .leased
    expectedRevisionVersion := revision.revisionVersion } r.leaseOwner r.fenceToken now r.leaseSeconds

def newAttempt (r : ClaimRequest) (now : Instant) (revision : PackageRevision) (work : IntakeWork) : IntakeAttempt where
  attemptId := r.attemptId
  packageRevisionId := work.packageRevisionId
  workPhase := work.workPhase
  attemptNumber := work.attemptCount + 1
  status := .active
  leaseOwner := r.leaseOwner
  fenceToken := r.fenceToken
  expectedRevisionVersion := revision.revisionVersion
  startedAt := now
  completedAt := none
  errorCode := none
  errorRetryable := none

def claimWork (maxAttempts : Int) (r : ClaimRequest) (now : Instant) (work : IntakeWork) :
    Session Db IntakeError ClaimedIntakeWork := do
  ensure ((work.attemptCount : Int) < maxAttempts)
    (.invariant "claim selected work that exhausted the transport attempt budget")
  let found ← read fun db => db.packageRevision? work.packageRevisionId
  let revision ← orRaise found (.invariant "claim selected intake work with a missing package revision")
  ensure (revision.status = expectedRevisionStatus work.workPhase)
    (.invariant "claim selected intake work for the wrong revision status")
  modify fun db => db.putWork (leasedWork r now revision work)
  modify fun db => { db with intakeAttempts := db.intakeAttempts ++ [newAttempt r now revision work] }
  return ⟨leasedWork r now revision work, newAttempt r now revision work, r.fenceToken⟩

def claimNextEligibleIntakeWork (maxAttempts : Int) (r : ClaimRequest) :
    Session Db IntakeError (Option ClaimedIntakeWork) := do
  let now ← lift (requireAwareUtc r.now "now")
  let workPhase ← lift (requireWorkPhase r.workPhase)
  lift (requirePositiveInt maxAttempts "max_attempts")
  lift (requirePositiveInt r.leaseSeconds "lease_seconds")
  lift (requireLeaseOwner r.leaseOwner)
  let allowedOrigins ← lift (requireAllowedDataOrigins r.allowedDataOrigins)
  let selected ← read fun db => claimSelect maxAttempts r workPhase allowedOrigins now db.intakeWork
  match selected with
  | none => pure none
  | some work => do
    let claimed ← claimWork maxAttempts r now work
    return some claimed

/-! ## Heartbeat and completion -/

/-- what a worker calls with: the work that it has claimed, and its fence token -/
structure Caller where
  packageRevisionId : Uuid
  workPhase : String
  leaseOwner : String
  fenceToken : Uuid
  now : Datetime
deriving DecidableEq, Repr

def heartbeatIntakeWork (c : Caller) (leaseSeconds : Int) : Session Db IntakeError Unit := do
  let now ← lift (requireAwareUtc c.now "now")
  let workPhase ← lift (requireWorkPhase c.workPhase)
  lift (requirePositiveInt leaseSeconds "lease_seconds")
  lift (requireLeaseOwner c.leaseOwner)
  let work ← loadLeasedWork (c.packageRevisionId, workPhase) c.leaseOwner c.fenceToken now
  modify fun db => db.putWork (setLeaseFields work c.leaseOwner c.fenceToken now leaseSeconds)

def succeededAttempt (a : IntakeAttempt) (now : Instant) : IntakeAttempt :=
  { a with status := .succeeded, completedAt := some now, errorCode := none, errorRetryable := none }

def failedAttempt (a : IntakeAttempt) (now : Instant) (errorCode : String) (retryable : Bool) : IntakeAttempt :=
  { a with status := .failed, completedAt := some now, errorCode := some errorCode, errorRetryable := some retryable }

/-- the revision and the active attempt of a claim that is still live -/
def loadLiveClaim (c : Caller) (work : IntakeWork) (now : Instant) (operation : String) :
    Session Db IntakeError (PackageRevision × IntakeAttempt) := do
  let found ← read fun db => db.packageRevision? c.packageRevisionId
  let revision ← orRaise found (.invariant (operation ++ " requires the owning package revision"))
  assertIntakeClaimLive work revision c.leaseOwner c.fenceToken now
  let active ← loadActiveAttemptForUpdate (workKey work)
  let attempt ← orRaise active (.invariant (operation ++ " requires an active intake attempt"))
  return (revision, attempt)

def completeIntakeWork (c : Caller) : Session Db IntakeError Unit := do
  let now ← lift (requireAwareUtc c.now "now")
  let workPhase ← lift (requireWorkPhase c.workPhase)
  lift (requireLeaseOwner c.leaseOwner)
  let work ← loadLeasedWork (c.packageRevisionId, workPhase) c.leaseOwner c.fenceToken now
  let claim ← loadLiveClaim c work now "complete"
  modify fun db => db.putAttempt (succeededAttempt claim.2 now)
  modify fun db => db.putWork (clearLeaseFields { work with status := .completed, lastErrorCode := none })

/-! ## Failure -/

structure Failure where
  errorCode : String
  transportRetryable : Bool
  nextAvailableAt : Option Datetime
deriving DecidableEq, Repr

/-- the work goes back to the queue, for the revision as it is now -/
def retriedWork (work : IntakeWork) (revision : PackageRevision) (errorCode : String) (next : Instant) : IntakeWork :=
  clearLeaseFields { work with
    lastErrorCode := some errorCode
    status := .available
    availableAt := next
    expectedRevisionVersion := revision.revisionVersion }

def recordIntakeWorkFailure (maxAttempts : Int) (c : Caller) (f : Failure) : Session Db IntakeError Unit := do
  let now ← lift (requireAwareUtc c.now "now")
  let workPhase ← lift (requireWorkPhase c.workPhase)
  lift (requirePositiveInt maxAttempts "max_attempts")
  lift (requireErrorCode f.errorCode)
  lift (requireLeaseOwner c.leaseOwner)
  let work ← loadLeasedWork (c.packageRevisionId, workPhase) c.leaseOwner c.fenceToken now
  let claim ← loadLiveClaim c work now "record_intake_work_failure"
  if f.transportRetryable ∧ (work.attemptCount : Int) < maxAttempts then do
    let next ← lift (validateRetrySchedule now f.nextAvailableAt)
    modify fun db => db.putAttempt (failedAttempt claim.2 now f.errorCode f.transportRetryable)
    modify fun db => db.putWork (retriedWork work claim.1 f.errorCode next)
  else do
    modify fun db => db.putAttempt (failedAttempt claim.2 now f.errorCode f.transportRetryable)
    modify fun db => db.putWork (clearLeaseFields { work with lastErrorCode := some f.errorCode, status := .failed })

/-! ## Reconciliation and recovery -/

def endAttempt (attempt : Option IntakeAttempt) (now : Instant) (errorCode : String) (retryable : Bool) :
    Session Db IntakeError Unit :=
  match attempt with
  | none => pure ()
  | some a => modify fun db => db.putAttempt (failedAttempt a now errorCode retryable)

/-- `False` where the claim is stale -/
def markIntakeWorkReconciliationRequired (c : Caller) : Session Db IntakeError Bool := do
  let now ← lift (requireAwareUtc c.now "now")
  let workPhase ← lift (requireWorkPhase c.workPhase)
  lift (requireLeaseOwner c.leaseOwner)
  let found ← read fun db => db.work? (c.packageRevisionId, workPhase)
  match found with
  | none => pure false
  | some work =>
    if validLease work c.leaseOwner c.fenceToken now then do
      let attempt ← loadActiveAttemptForUpdate (c.packageRevisionId, workPhase)
      endAttempt attempt now errorIntakeReconciliationRequired false
      modify fun db => db.putWork (clearLeaseFields { work with
        status := .reconciliationRequired
        lastErrorCode := some errorIntakeReconciliationRequired })
      return true
    else pure false

structure RecoverRequest where
  now : Datetime
  batchSize : Int
  locked : List WorkKey
deriving DecidableEq, Repr

def recoverable (r : RecoverRequest) (now : Instant) (work : IntakeWork) : Bool :=
  work.status = .leased && (work.leaseExpiresAt.any fun e => e ≤ now) && workKey work ∉ r.locked

/-- ordered by `lease_expires_at`, then by `package_revision_id`, then by `work_phase` -/
def recoverOrder (a b : IntakeWork) : Prop :=
  a.leaseExpiresAt.getD 0 < b.leaseExpiresAt.getD 0 ∨ (a.leaseExpiresAt.getD 0 = b.leaseExpiresAt.getD 0 ∧
    (a.packageRevisionId < b.packageRevisionId ∨
      (a.packageRevisionId = b.packageRevisionId ∧ a.workPhase.value ≤ b.workPhase.value)))

instance (a b : IntakeWork) : Decidable (recoverOrder a b) := by
  unfold recoverOrder
  infer_instance

def recoverSelect (r : RecoverRequest) (now : Instant) (work : List IntakeWork) : List IntakeWork :=
  ((work.filter (recoverable r now)).insertionSort recoverOrder).take r.batchSize.toNat

/-- work whose lease has expired, `attempt` and `revision` being what was found under its lock -/
def recoveredWork (maxAttempts : Int) (now : Instant) (work : IntakeWork) (attempt : Option IntakeAttempt)
    (revision : Option PackageRevision) : IntakeWork :=
  let work := clearLeaseFields { work with lastErrorCode := some errorIntakeLeaseLost }
  match attempt, revision with
  | some _, some revision =>
    if revision.status ≠ expectedRevisionStatus work.workPhase then { work with status := .reconciliationRequired }
    else if maxAttempts ≤ work.attemptCount then { work with status := .failed }
    else { work with
      status := .available
      availableAt := now
      expectedRevisionVersion := revision.revisionVersion }
  | _, _ => { work with status := .reconciliationRequired }

def recoverSingleExpiredIntakeWork (maxAttempts : Int) (now : Instant) (work : IntakeWork) :
    Session Db IntakeError IntakeWork := do
  ensure (leaseIsExpired work.leaseExpiresAt now = true)
    (.invariant "recover selected intake work whose lease has not expired")
  let attempt ← loadActiveAttemptForUpdate (workKey work)
  endAttempt attempt now errorIntakeLeaseLost true
  let revision ← read fun db => db.packageRevision? work.packageRevisionId
  modify fun db => db.putWork (recoveredWork maxAttempts now work attempt revision)
  return recoveredWork maxAttempts now work attempt revision

def recoverRows (maxAttempts : Int) (now : Instant) : List IntakeWork → Session Db IntakeError (List WorkKey)
  | [] => pure []
  | work :: rows => do
    let recovered ← recoverSingleExpiredIntakeWork maxAttempts now work
    ensure (recovered.status ≠ .leased) (.invariant "recover left expired intake work in leased status")
    let rest ← recoverRows maxAttempts now rows
    return workKey recovered :: rest

def recoverExpiredIntakeLeases (maxAttempts : Int) (r : RecoverRequest) : Session Db IntakeError (List WorkKey) := do
  let now ← lift (requireAwareUtc r.now "now")
  lift (requirePositiveInt maxAttempts "max_attempts")
  lift (requirePositiveInt r.batchSize "batch_size")
  let rows ← read fun db => recoverSelect r now db.intakeWork
  recoverRows maxAttempts now rows

/-! ## The rest of the service -/

/-- a revision is created or rewritten; revisions with work are not deleted -/
def writePackageRevision (revision : PackageRevision) : Session Db IntakeError Unit :=
  modify fun db =>
    if revision.packageRevisionId ∈ db.packageRevisions.map PackageRevision.packageRevisionId then
      { db with packageRevisions := Rows.put PackageRevision.packageRevisionId revision db.packageRevisions }
    else { db with packageRevisions := db.packageRevisions ++ [revision] }

end AtoService.Intake
