/-
The review revision of an analysis run: dispositions, submission, and the ETag of the revision.

A request is one transaction at read committed. It reads the row of the revision and then the rows of its dispositions,
checks them against the request, and writes the columns that it changes. An UPDATE waits until the row is not locked and
then sets its columns on the row as it is by then; neither it nor the check of `If-Match` looks at the version again. The
locks are held to the end of the transaction, so the writes of a request are applied at its commit, in `updateDisposition`
and `submitReviewRevision`, to the tables as they are there. What the request read is `held`.

The rows of the run's matrix do not change. Whether the caller is a reviewer of the package is a field of the request.
-/
import AtoService.Lib.JsonRoundTrip
import AtoService.Lib.PyText
import AtoService.Lib.Results
import AtoService.Lib.Rows
import AtoService.Matrix.Rows

namespace AtoService.Review

open AtoService.Results AtoService.JsonText AtoService.Py AtoService.Matrix
open AtoService.Rows (written)

abbrev Uuid := Nat

/-- microseconds since 1970-01-01T00:00:00Z -/
abbrev Instant := Int

/-! ## Tables -/

inductive ReviewStatus where
  | draft | submitted | superseded
deriving DecidableEq, Repr

inductive Decision where
  | pending | accepted | edited | rejected | evidenceRequested | weaknessConfirmed
deriving DecidableEq, Repr

structure MatrixRow where
  matrixRowId : Uuid
  assessmentItemId : String
  assessmentItemType : AssessmentItemType
  systemStatus : MatrixStatus
  findingSummary : String
deriving DecidableEq, Repr

structure ReviewRevision where
  reviewRevisionId : Uuid
  runId : Uuid
  version : Nat
  status : ReviewStatus
  createdBy : String
  createdAt : Instant
deriving DecidableEq, Repr

structure Disposition where
  dispositionId : Uuid
  matrixRowId : Uuid
  decision : Decision
  editedSummary : Option String
  notes : Option String
  version : Nat
  decidedBy : String
  decidedAt : Instant
deriving DecidableEq, Repr

/-- an evidence request or a POA&M candidate -/
structure RoutedItem where
  itemId : Uuid
  reviewRevisionId : Uuid
  dispositionId : Uuid
  matrixRowId : Uuid
  runId : Uuid
  assessmentItemId : String
  assessmentItemType : AssessmentItemType
  systemStatus : MatrixStatus
  summary : String
  decision : Decision
  createdBy : String
  createdAt : Instant
deriving DecidableEq, Repr

/-- the rows of one review revision, with those of its run's matrix -/
structure Db where
  revision : ReviewRevision
  dispositions : List Disposition
  matrixRows : List MatrixRow
  evidenceRequests : List RoutedItem
  poamCandidates : List RoutedItem
deriving DecidableEq, Repr

/-! ## Errors -/

inductive ErrorCode where
  | resourceNotFound | authorizationDenied | ifMatchRequired | etagMismatch | requestSchemaInvalid | reviewIncomplete
  | illegalStateTransition | valueError | dataError
deriving DecidableEq, Repr

structure ReviewError where
  code : ErrorCode
  message : String := ""
deriving DecidableEq, Repr

/-! ## ETags -/

def maxEtagInnerLength : Nat := 128

def maxVersionDigits : Nat := maxEtagInnerLength - 1

def etagText (version : Nat) : String := String.ofList ('"' :: 'v' :: (digits version ++ ['"']))

def formatPackageRevisionEtag (version : Nat) : Except ReviewError String := do
  ensure (1 ≤ version) ⟨.valueError, "revision_version must be a positive integer"⟩
  ensure ((digits version).length + 1 ≤ maxEtagInnerLength)
    ⟨.valueError, "revision_version exceeds the supported ETag token length"⟩
  return etagText version

/-- the version in what follows `"v`, up to the closing quote -/
def readVersion (cs : List Char) : Option Nat :=
  let ds := cs.takeWhile isDigit
  if ds ≠ [] ∧ ds.head? ≠ some '0' ∧ ds.length ≤ maxVersionDigits ∧ cs.drop ds.length = ['"'] then some (natOf ds)
  else none

def parsePackageRevisionEtag (ifMatch : String) : Except ReviewError Nat := do
  let cs := chars ifMatch
  ensure (cs.any isSpace = false) ⟨.valueError, "malformed PackageRevision ETag"⟩
  ensure (cs.take 2 ≠ ['W', '/'] ∧ cs ≠ ['*']) ⟨.valueError, "weak and wildcard If-Match values are rejected"⟩
  ensure (cs.take 2 = ['"', 'v']) ⟨.valueError, "malformed PackageRevision ETag"⟩
  orRaise (readVersion (cs.drop 2)) ⟨.valueError, "malformed PackageRevision ETag"⟩

def assertIfMatch (ifMatch : Option String) (currentVersion : Nat) : Except ReviewError Unit := do
  let header ← orRaise ifMatch ⟨.ifMatchRequired, ""⟩
  match parsePackageRevisionEtag header with
  | .error _ => .error ⟨.etagMismatch, ""⟩
  | .ok version => ensure (version = currentVersion) ⟨.etagMismatch, ""⟩

/-! ## Requests -/

structure UpdateRequest where
  matrixRowId : Uuid
  decision : String
  editedSummary : Option String
  notes : Option String
  ifMatch : Option String
  actorId : String
  /-- whether `require_package_role` accepts the caller as a reviewer -/
  authorized : Bool
  now : Instant
  /-- the identifier drawn for an evidence request or a POA&M candidate -/
  drawn : Uuid
deriving DecidableEq, Repr

structure SubmitRequest where
  ifMatch : Option String
  authorized : Bool
deriving DecidableEq, Repr

/-- what a transaction has read of the revision -/
structure Held where
  revision : ReviewRevision
  dispositions : List Disposition
deriving DecidableEq, Repr

/-- the revision with its dispositions as a response shows them, under the ETag of the response -/
structure Observation where
  etag : String
  status : ReviewStatus
  dispositions : List Disposition
deriving DecidableEq, Repr

structure DispositionResponse where
  disposition : Disposition
  evidenceRequestId : Option Uuid
  poamCandidateId : Option Uuid
  etag : String
deriving DecidableEq, Repr

def reviewMutationResult (held : Held) : Except ReviewError Observation := do
  let etag ← formatPackageRevisionEtag held.revision.version
  return ⟨etag, held.revision.status, held.dispositions⟩

/-! ## Writing back -/

def writeRevision (held new stored : ReviewRevision) : ReviewRevision :=
  { stored with
    version := written held.version new.version stored.version
    status := written held.status new.status stored.status }

def writeDisposition (held new stored : Disposition) : Disposition :=
  { stored with
    decision := written held.decision new.decision stored.decision
    editedSummary := written held.editedSummary new.editedSummary stored.editedSummary
    notes := written held.notes new.notes stored.notes
    version := written held.version new.version stored.version
    decidedBy := written held.decidedBy new.decidedBy stored.decidedBy
    decidedAt := written held.decidedAt new.decidedAt stored.decidedAt }

/-- the largest value of an INTEGER column -/
def integerMax : Nat := 2147483647

/-- the length of a summary or note column -/
def textColumnLength : Nat := 4000

/-- PostgreSQL takes the values of a disposition -/
def storable (d : Disposition) : Prop :=
  d.version ≤ integerMax ∧ (∀ s ∈ d.editedSummary, s.length ≤ textColumnLength) ∧
    ∀ s ∈ d.notes, s.length ≤ textColumnLength

instance (d : Disposition) : Decidable (storable d) := by
  unfold storable
  infer_instance

/-! ## Dispositions -/

/-- a decision that resolves a disposition -/
def resolvedDecision? (decision : String) : Option Decision :=
  if decision = "accepted" then some .accepted
  else if decision = "edited" then some .edited
  else if decision = "rejected" then some .rejected
  else if decision = "evidence_requested" then some .evidenceRequested
  else if decision = "weakness_confirmed" then some .weaknessConfirmed
  else none

def validateDispositionDecision (decision : String) (editedSummary : Option String) : Except ReviewError Decision := do
  let resolved ← orRaise (resolvedDecision? decision) ⟨.requestSchemaInvalid, "invalid disposition decision"⟩
  ensure (resolved = .edited → editedSummary.any hasText = true)
    ⟨.requestSchemaInvalid, "edited disposition requires edited_summary"⟩
  return resolved

def requireDecisionCompatibleWithMatrixStatus (decision : Decision) (systemStatus : MatrixStatus) :
    Except ReviewError Unit := do
  ensure (decision = .evidenceRequested → systemStatus = .insufficientEvidence)
    ⟨.requestSchemaInvalid, "evidence_requested is allowed only for insufficient_evidence rows"⟩
  ensure (decision = .weaknessConfirmed → systemStatus = .partialSupport ∨ systemStatus = .unsupported)
    ⟨.requestSchemaInvalid, "weakness_confirmed is allowed only for partial or unsupported rows"⟩

/-- the item of a matrix row, which is added when there is none -/
def routeItem (items : List RoutedItem) (new : RoutedItem) : Uuid × List RoutedItem :=
  match items.find? fun item => item.matrixRowId = new.matrixRowId with
  | some item => (item.itemId, items)
  | none => (new.itemId, items ++ [new])

/-- the evidence request or the POA&M candidate of a decision -/
def routeDispositionSideEffects (db : Db) (r : UpdateRequest) (d : Disposition) (row : MatrixRow) :
    Option Uuid × Option Uuid × Db :=
  let item : RoutedItem :=
    { itemId := r.drawn, reviewRevisionId := db.revision.reviewRevisionId, dispositionId := d.dispositionId
      matrixRowId := r.matrixRowId, runId := db.revision.runId, assessmentItemId := row.assessmentItemId
      assessmentItemType := row.assessmentItemType, systemStatus := row.systemStatus, summary := row.findingSummary
      decision := d.decision, createdBy := r.actorId, createdAt := r.now }
  if d.decision = .evidenceRequested then
    let (id, items) := routeItem db.evidenceRequests item
    (some id, none, { db with evidenceRequests := items })
  else if d.decision = .weaknessConfirmed then
    let (id, items) := routeItem db.poamCandidates item
    (none, some id, { db with poamCandidates := items })
  else (none, none, db)

/-- the disposition that a request makes of the one it read -/
def decided (r : UpdateRequest) (decision : Decision) (d : Disposition) : Disposition :=
  { d with
    decision := decision
    editedSummary := r.editedSummary
    notes := r.notes
    version := d.version + 1
    decidedBy := r.actorId
    decidedAt := r.now }

def updateDisposition (db : Db) (held : Held) (r : UpdateRequest) : Except ReviewError (DispositionResponse × Db) := do
  ensure (held.revision.status ≠ .submitted ∧ held.revision.status ≠ .superseded)
    ⟨.illegalStateTransition, "review revision is immutable"⟩
  ensure (r.authorized = true) ⟨.authorizationDenied, ""⟩
  assertIfMatch r.ifMatch held.revision.version
  let decision ← validateDispositionDecision r.decision r.editedSummary
  let d ← orRaise (held.dispositions.find? fun d => d.matrixRowId = r.matrixRowId) ⟨.resourceNotFound, ""⟩
  let row ← orRaise (db.matrixRows.find? fun row => row.matrixRowId = r.matrixRowId) ⟨.resourceNotFound, ""⟩
  requireDecisionCompatibleWithMatrixStatus decision row.systemStatus
  let d' := decided r decision d
  let revision' := { held.revision with version := held.revision.version + 1 }
  ensure (storable d' ∧ revision'.version ≤ integerMax) ⟨.dataError, ""⟩
  let db := { db with
    revision := writeRevision held.revision revision' db.revision
    dispositions := db.dispositions.map fun stored =>
      if stored.dispositionId = d.dispositionId then writeDisposition d d' stored else stored }
  let (evidenceRequestId, poamCandidateId, db) := routeDispositionSideEffects db r d' row
  let etag ← formatPackageRevisionEtag revision'.version
  return (⟨d', evidenceRequestId, poamCandidateId, etag⟩, db)

/-! ## Submitting and creating -/

def submitReviewRevision (db : Db) (held : Held) (r : SubmitRequest) : Except ReviewError (Observation × Db) := do
  ensure (r.authorized = true) ⟨.authorizationDenied, ""⟩
  assertIfMatch r.ifMatch held.revision.version
  ensure (∀ d ∈ held.dispositions, d.decision ≠ .pending)
    ⟨.reviewIncomplete, "all dispositions must be resolved before submit"⟩
  ensure (held.revision.status = .draft) ⟨.illegalStateTransition, "review revision is not in draft status"⟩
  let revision' := { held.revision with status := .submitted }
  let shown ← reviewMutationResult ⟨revision', held.dispositions⟩
  return (shown, { db with revision := writeRevision held.revision revision' db.revision })

/-- a new revision: version 1, a draft in which every row of the matrix is pending; the rows come with the identifiers
drawn for their dispositions -/
def createReviewRevision (reviewRevisionId runId : Uuid) (rows : List (MatrixRow × Uuid)) (actorId : String)
    (now : Instant) : Db where
  revision := ⟨reviewRevisionId, runId, 1, .draft, actorId, now⟩
  dispositions := rows.map fun (row, id) => ⟨id, row.matrixRowId, .pending, none, none, 1, actorId, now⟩
  matrixRows := rows.map Prod.fst
  evidenceRequests := []
  poamCandidates := []

end AtoService.Review
