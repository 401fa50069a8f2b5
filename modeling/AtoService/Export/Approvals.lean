/-
Export drafts, approvals and export records, under requests whose statements interleave.

A request reads its rows by plain queries, one statement at a time, checks what it has read, and writes at its commit.
`plan` is what it writes, from the rows that it holds; `applyPlan` is the commit. A column is written when the value set
differs from the value read, whatever the row stores by then. A refused request is answered like any other, so the status
that it has given to its draft by then is committed too (`Refusal`).
-/
import AtoService.Lib.Rows
import AtoService.Lib.Runs
import AtoService.Review.Revisions

namespace AtoService.Export

open AtoService.Results
open AtoService.Rows (written)

/-! ## Rows -/

inductive DraftStatus where
  | draft | pendingApproval | approved | rejected | expired | superseded | exported
deriving DecidableEq, Repr

inductive Decision where
  | pending | approved | rejected
deriving DecidableEq, Repr

structure ExportDraft where
  exportDraftId : Nat
  reviewRevisionId : Nat
  payloadManifestSha256 : String
  status : DraftStatus
  createdBy : String
  createdAt : Int
deriving DecidableEq, Repr

structure Approval where
  approvalId : Nat
  exportDraftId : Nat
  payloadManifestSha256 : String
  submittedBy : String
  decidedBy : Option String
  decision : Decision
  submittedAt : Int
  decidedAt : Option Int
  expiresAt : Int
  reason : Option String
deriving DecidableEq, Repr

structure ExportRecord where
  exportId : Nat
  approvalId : Nat
  reviewRevisionId : Nat
  payloadManifestSha256 : String
  createdAt : Int
deriving DecidableEq, Repr

structure Db where
  drafts : List ExportDraft := []
  approvals : List Approval := []
  exports : List ExportRecord := []
deriving DecidableEq, Repr

inductive ExportFailure where
  | notFound
  | authorizationDenied
  | selfApprovalDenied
  | ifMatch
  /-- `ExportValidationError`, with its code -/
  | validation (errorCode : String)
  /-- a constraint of the tables -/
  | integrity
deriving DecidableEq, Repr

/-! ## Requests -/

/-- Checks on rows that no request here writes (the review, its run, revision, system and content, and the roles of the
principal) are given by their outcome, `context`. -/
structure CreateRequest where
  reviewRevisionId : Nat
  context : Option ExportFailure
  payloadSha256 : String
  drawn : Nat
  actorId : String
  now : Int
deriving DecidableEq, Repr

structure SubmitRequest where
  exportDraftId : Nat
  context : Option ExportFailure
  ifMatch : Option String
  drawn : Nat
  actorId : String
  now : Int
  approvalExpiry : Int
deriving DecidableEq, Repr

/-- of `approve_export`, which may come without a reason, and of `reject_export`; `currentPayload` is the digest that
`_verify_approval_payload_binding` computes, when it is called -/
structure DecideRequest where
  approvalId : Nat
  approve : Bool
  reason : Option String
  context : Option ExportFailure
  actorId : String
  now : Int
  approvalExpiry : Int
  singleUserModeEnabled : Bool
  currentPayload : Option String
deriving DecidableEq, Repr

/-- `currentPayload` and `assembledPayload` are the digests that the two checks of a download compute -/
structure DownloadRequest where
  exportId : Nat
  context : Option ExportFailure
  now : Int
  currentPayload : String
  assembledPayload : String
deriving DecidableEq, Repr

inductive Request where
  | create (r : CreateRequest)
  | submit (r : SubmitRequest)
  | decide (r : DecideRequest)
  | download (r : DownloadRequest)
  | expire (now approvalExpiry : Int)
deriving DecidableEq, Repr

/-- the rows that a request has read so far -/
structure Held where
  approval : Option Approval := none
  draft : Option ExportDraft := none
  record : Option ExportRecord := none
  drafts : List ExportDraft := []
  pending : List (Approval × ExportDraft) := []
  approved : List (Approval × ExportDraft) := []
  recorded : List Nat := []
deriving DecidableEq, Repr

/-! ## What a request writes -/

/-- what a request writes; the writes of rows are given with the row as it was read -/
structure Plan where
  statuses : List (ExportDraft × DraftStatus) := []
  decision : Option (Approval × Approval) := none
  newDraft : Option ExportDraft := none
  newApproval : Option Approval := none
  newExport : Option (ExportRecord × Approval) := none
  /-- the digests that a download computed for its export -/
  computed : List (Nat × String) := []
deriving DecidableEq, Repr

/-- an error that a route answers, and the status that was given to a draft before it was raised -/
structure Refusal where
  failure : ExportFailure
  statuses : List (ExportDraft × DraftStatus) := []
deriving DecidableEq, Repr

/-- an error that is raised before anything is written -/
def refused (failure : ExportFailure) : Refusal := { failure }

def supersedeable (status : DraftStatus) : Bool := status = .draft ∨ status = .pendingApproval ∨ status = .approved

def passes (context : Option ExportFailure) : Except Refusal Unit :=
  match context with
  | none => .ok ()
  | some e => .error (refused e)

/-- `_supersede_stale_export_drafts`: the drafts of the review that are not final and have another digest -/
def supersedeStaleExportDrafts (drafts : List ExportDraft) (payloadManifestSha256 : String) :
    List (ExportDraft × DraftStatus) :=
  (drafts.filter fun d => supersedeable d.status && d.payloadManifestSha256 ≠ payloadManifestSha256).map
    fun d => (d, .superseded)

def createExportDraft (held : Held) (r : CreateRequest) : Except Refusal Plan := do
  passes r.context
  return {
    statuses := supersedeStaleExportDrafts held.drafts r.payloadSha256
    newDraft := some ⟨r.drawn, r.reviewRevisionId, r.payloadSha256, .draft, r.actorId, r.now⟩ }

def submitExportDraft (held : Held) (r : SubmitRequest) : Except Refusal Plan := do
  let draft ← orRaise held.draft (refused .notFound)
  passes r.context
  (Review.assertIfMatch r.ifMatch 1).mapError fun _ => refused .ifMatch
  ensure (draft.status = .draft) (refused (.validation "illegal_state_transition"))
  return {
    statuses := [(draft, .pendingApproval)]
    newApproval := some {
      approvalId := r.drawn
      exportDraftId := r.exportDraftId
      payloadManifestSha256 := draft.payloadManifestSha256
      submittedBy := r.actorId
      decidedBy := none
      decision := .pending
      submittedAt := r.now
      decidedAt := none
      expiresAt := r.now + r.approvalExpiry
      reason := none } }

/-- an approval that is past its deadline expires its draft -/
def assertApprovalPendingAndFresh (approval : Approval) (draft : ExportDraft) (approvalExpiry now : Int) :
    Except Refusal Unit := do
  ensure (approval.decision = .pending) (refused (.validation "approval_already_decided"))
  ensure (draft.status = .pendingApproval) (refused (.validation "illegal_state_transition"))
  ensure (now < approval.submittedAt + approvalExpiry) ⟨.validation "approval_expired", [(draft, .expired)]⟩

/-- a draft whose payload has changed is superseded -/
def verifyApprovalPayloadBinding (approval : Approval) (draft : ExportDraft) (currentPayload : String) :
    Except Refusal Unit :=
  ensure (currentPayload = approval.payloadManifestSha256)
    ⟨.validation "approval_payload_mismatch", if supersedeable draft.status then [(draft, .superseded)] else []⟩

/-- the binding is checked when the caller names the project, the authority manifest and the sealed content -/
def bindingIfComputed (approval : Approval) (draft : ExportDraft) : Option String → Except Refusal Unit
  | none => .ok ()
  | some currentPayload => verifyApprovalPayloadBinding approval draft currentPayload

/-- the row of an approval once it is decided; an approval moves the expiry, a rejection leaves it -/
def decidedRow (approval : Approval) (r : DecideRequest) : Approval :=
  { approval with
    decision := if r.approve then .approved else .rejected
    decidedBy := some r.actorId
    decidedAt := some r.now
    expiresAt := if r.approve then r.now + r.approvalExpiry else approval.expiresAt
    reason := if r.approve then r.reason else r.reason.map Py.strip }

def decideExport (held : Held) (r : DecideRequest) : Except Refusal Plan := do
  ensure (r.approve = true ∨ r.reason.any Py.hasText) (refused (.validation "request_schema_invalid"))
  let approval ← orRaise held.approval (refused .notFound)
  let draft ← orRaise held.draft (refused .notFound)
  passes r.context
  ensure (approval.submittedBy ≠ r.actorId ∨ r.singleUserModeEnabled = true) (refused .selfApprovalDenied)
  assertApprovalPendingAndFresh approval draft r.approvalExpiry r.now
  bindingIfComputed approval draft r.currentPayload
  return {
    decision := some (approval, decidedRow approval r)
    statuses := [(draft, if r.approve then .approved else .rejected)] }

/-- a download of an export that is recorded writes nothing -/
def deliverExportDownload (held : Held) (r : DownloadRequest) : Except Refusal Plan :=
  match held.record with
  | some _ => do
    passes r.context
    return {}
  | none => do
    let approval ← orRaise held.approval (refused .notFound)
    ensure (approval.decision = .approved) (refused (.validation "authorization_denied"))
    ensure (r.now < approval.expiresAt) (refused (.validation "export_expired"))
    let draft ← orRaise held.draft (refused .notFound)
    ensure (draft.status ≠ .superseded) (refused (.validation "approval_payload_mismatch"))
    ensure (draft.status ≠ .expired) (refused (.validation "export_expired"))
    ensure (draft.status = .approved) (refused (.validation "illegal_state_transition"))
    ensure (draft.payloadManifestSha256 = approval.payloadManifestSha256)
      (refused (.validation "approval_payload_mismatch"))
    passes r.context
    verifyApprovalPayloadBinding approval draft r.currentPayload
    ensure (r.assembledPayload = draft.payloadManifestSha256) (refused (.validation "approval_payload_mismatch"))
    return {
      statuses := [(draft, .exported)]
      newExport := some (⟨r.exportId, approval.approvalId, draft.reviewRevisionId, draft.payloadManifestSha256, r.now⟩,
        approval)
      computed := [(r.exportId, r.currentPayload), (r.exportId, r.assembledPayload)] }

/-- the approved drafts are those of the second query, which sees what the first loop wrote; an approval that the first
query loaded is passed over, since it is held as pending -/
def processApprovalExpiry (held : Held) (now approvalExpiry : Int) : Except Refusal Plan :=
  let pendingExpired := held.pending.filter fun p => p.1.submittedAt + approvalExpiry ≤ now
  let approvedExpired := held.approved.filter fun p =>
    (held.pending.all fun q => q.1.approvalId ≠ p.1.approvalId) && p.1.decidedAt.any (fun t => t + approvalExpiry ≤ now) &&
      p.1.approvalId ∉ held.recorded
  .ok { statuses := (pendingExpired ++ approvedExpired).map fun p => (p.2, .expired) }

def plan (held : Held) : Request → Except Refusal Plan
  | .create r => createExportDraft held r
  | .submit r => submitExportDraft held r
  | .decide r => decideExport held r
  | .download r => deliverExportDownload held r
  | .expire now approvalExpiry => processApprovalExpiry held now approvalExpiry

/-- what a request has written when it ends, refused or not -/
def writesOf (held : Held) (request : Request) : Plan :=
  match plan held request with
  | .ok p => p
  | .error e => { statuses := e.statuses }

/-! ## The commit -/

def writeStatus (statuses : List (ExportDraft × DraftStatus)) (stored : ExportDraft) : ExportDraft :=
  match statuses.find? fun w => w.1.exportDraftId = stored.exportDraftId with
  | none => stored
  | some (held, status) => { stored with status := written held.status status stored.status }

def writeDecision (decision : Option (Approval × Approval)) (stored : Approval) : Approval :=
  match decision with
  | none => stored
  | some (held, new) =>
    if stored.approvalId = held.approvalId then
      { stored with
        decision := written held.decision new.decision stored.decision
        decidedBy := written held.decidedBy new.decidedBy stored.decidedBy
        decidedAt := written held.decidedAt new.decidedAt stored.decidedAt
        expiresAt := written held.expiresAt new.expiresAt stored.expiresAt
        reason := written held.reason new.reason stored.reason }
    else stored

/-- the primary keys, one approval a draft, and one export an approval -/
structure Inserts (db : Db) (p : Plan) : Prop where
  draft : ∀ d ∈ p.newDraft, d.exportDraftId ∉ db.drafts.map ExportDraft.exportDraftId
  approval : ∀ a ∈ p.newApproval, a.approvalId ∉ db.approvals.map Approval.approvalId ∧
    a.exportDraftId ∉ db.approvals.map Approval.exportDraftId
  export_ : ∀ e ∈ p.newExport, e.1.exportId ∉ db.exports.map ExportRecord.exportId ∧
    e.1.approvalId ∉ db.exports.map ExportRecord.approvalId

instance (db : Db) (p : Plan) : Decidable (Inserts db p) :=
  decidable_of_iff ((∀ d ∈ p.newDraft, d.exportDraftId ∉ db.drafts.map ExportDraft.exportDraftId) ∧
    (∀ a ∈ p.newApproval, a.approvalId ∉ db.approvals.map Approval.approvalId ∧
      a.exportDraftId ∉ db.approvals.map Approval.exportDraftId) ∧
    ∀ e ∈ p.newExport, e.1.exportId ∉ db.exports.map ExportRecord.exportId ∧
      e.1.approvalId ∉ db.exports.map ExportRecord.approvalId)
    ⟨fun ⟨hd, ha, he⟩ => ⟨hd, ha, he⟩, fun h => ⟨h.draft, h.approval, h.export_⟩⟩

def applyPlan (db : Db) (p : Plan) : Except ExportFailure Db := do
  ensure (Inserts db p) .integrity
  return {
    drafts := db.drafts.map (writeStatus p.statuses) ++ p.newDraft.toList
    approvals := db.approvals.map (writeDecision p.decision) ++ p.newApproval.toList
    exports := db.exports ++ (p.newExport.map Prod.fst).toList }

/-! ## Interleaved requests -/

inductive Query where
  | approval | draft | record | drafts | pending | approved | recorded
deriving DecidableEq, Repr

structure Transaction where
  request : Request
  held : Held := {}
  queried : List Query := []
deriving DecidableEq, Repr

/-- the tables, the requests in progress, and a record of the approvals decided, in order, and of the digests that
downloads computed -/
structure System where
  db : Db := {}
  transactions : List (Option Transaction) := []
  decided : List Nat := []
  recomputed : List (Nat × String) := []
deriving DecidableEq, Repr

inductive Action where
  | start (request : Request)
  | read (i : Nat) (query : Query)
  | commit (i : Nat)
deriving DecidableEq, Repr

/-- the queries of a request before it writes, in their order -/
def queriesOf : Request → List Query
  | .create _ => [.drafts]
  | .submit _ => [.draft]
  | .decide _ => [.approval, .draft]
  | .download _ => [.record, .approval, .draft]
  | .expire _ _ => [.pending, .approved, .recorded]

def approvalIdOf : Request → Option Nat
  | .decide r => some r.approvalId
  | .download r => some r.exportId
  | _ => none

def draftIdOf (held : Held) : Request → Option Nat
  | .submit r => some r.exportDraftId
  | _ => held.approval.map Approval.exportDraftId

def reviewIdOf : Request → Option Nat
  | .create r => some r.reviewRevisionId
  | _ => none

/-- the rows of an approval and its draft, by the columns that the expiry selects -/
def joined (db : Db) (decision : Decision) (status : DraftStatus) : List (Approval × ExportDraft) :=
  db.approvals.flatMap fun a => (db.drafts.filter fun d =>
    d.exportDraftId = a.exportDraftId ∧ a.decision = decision ∧ d.status = status).map fun d => (a, d)

/-- one query of a request; a row that it holds is not replaced -/
def runQuery (db : Db) (request : Request) (held : Held) : Query → Held
  | .approval => { held with approval := held.approval.or ((approvalIdOf request).bind fun k =>
      Rows.get? Approval.approvalId k db.approvals) }
  | .draft => { held with draft := held.draft.or ((draftIdOf held request).bind fun k =>
      Rows.get? ExportDraft.exportDraftId k db.drafts) }
  | .record => { held with record := held.record.or ((approvalIdOf request).bind fun k =>
      Rows.get? ExportRecord.exportId k db.exports) }
  | .drafts => { held with drafts := db.drafts.filter fun d => some d.reviewRevisionId = reviewIdOf request }
  | .pending => { held with pending := joined db .pending .pendingApproval }
  | .approved => { held with approved := joined db .approved .approved }
  | .recorded => { held with recorded := db.exports.map ExportRecord.approvalId }

def System.transaction? (s : System) (i : Nat) : Option Transaction := s.transactions[i]?.join

def System.setTransaction (s : System) (i : Nat) (t : Option Transaction) : System :=
  { s with transactions := s.transactions.set i t }

/-- the tables after the writes of a request, unless a constraint fails, and the record -/
def finish (s : System) (p : Plan) : System :=
  match applyPlan s.db p with
  | .error _ => s
  | .ok db => { s with
      db
      decided := s.decided ++ (p.decision.map fun w => w.1.approvalId).toList
      recomputed := s.recomputed ++ p.computed }

def step (s : System) : Action → System
  | .start request => { s with transactions := s.transactions ++ [some { request }] }
  | .read i query =>
    match s.transaction? i with
    | none => s
    | some t => s.setTransaction i (some { t with
        held := runQuery s.db t.request t.held query
        queried := t.queried ++ [query] })
  | .commit i =>
    match s.transaction? i with
    | none => s
    | some t =>
      if t.queried ≠ queriesOf t.request then s
      else finish (s.setTransaction i none) (writesOf t.held t.request)

end AtoService.Export
