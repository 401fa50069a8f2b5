/-
The tables of one workspace, transactions over them, and the persistence operations: saving and approving a revision.

`Db` holds the rows of one workspace and the profile versions. A transaction `Txn α` reads and writes them and may raise;
what it wrote before it raised is kept, since it is the route that decides between commit and rollback. A locking SELECT
of a row that the session already holds returns the row as it was first read; such rows are passed in as `Held`.

`saveRevision_ok` and `approveCurrentRevision_ok` say what a successful call checked and wrote. `saveRevision_error`: a
call that raised an error of the workspace has written nothing; only what the database itself refuses comes later.
-/
import AtoService.Workspace.Evidence
import AtoService.Workspace.Metrics
import AtoService.Workspace.Document

namespace AtoService.Workspace

open AtoService.Py

/-! ## Tables -/

structure SystemRow where
  displayName : String
  externalSystemId : Option String
deriving DecidableEq, Repr

structure WorkspaceRow where
  profileVersionId : Uuid
  currentRevisionId : Option Uuid
  status : WorkspaceState
deriving DecidableEq, Repr

structure RevisionRow where
  revisionId : Uuid
  parentRevisionId : Option Uuid
  version : Nat
  status : RevisionState
  contentSha256 : String
  content : Json
  createdBy : String
deriving Repr

structure ArtifactRow where
  evidenceArtifactId : Uuid
  displayFilename : String
  mediaType : String
  detectedFormat : Option String
  sha256 : String
  status : EvidenceState
  extractedSegments : List ExtractedSegment
  removedAt : Option Nat
deriving Repr

structure PatchRow where
  patchId : Uuid
  baseRevisionId : Uuid
  appliedRevisionId : Option Uuid
  operations : PatchResult
  status : PatchState
deriving Repr

structure ApprovalRow where
  approvalSnapshotId : Uuid
  revisionId : Uuid
  revisionSha256 : String
  approvedBy : String
  approvedAt : Nat
deriving DecidableEq, Repr

structure Db where
  profiles : List ProfileRow
  system : SystemRow
  workspace : Option WorkspaceRow := none
  revisions : List RevisionRow := []
  artifacts : List ArtifactRow := []
  patches : List PatchRow := []
  approvals : List ApprovalRow := []
deriving Repr

namespace RevisionRow

/-- `RevisionContent.model_validate(revision.content)` -/
def load (r : RevisionRow) : Except Err RevisionContent := RevisionContent.load r.content

end RevisionRow

namespace Db

def revision? (db : Db) (id : Uuid) : Option RevisionRow := db.revisions.find? fun r => r.revisionId = id

def profile? (db : Db) (id : Uuid) : Option ProfileRow := db.profiles.find? fun p => p.profileVersionId = id

def patch? (db : Db) (id : Uuid) : Option PatchRow := db.patches.find? fun p => p.patchId = id

/-- the identifiers of the artifacts that are not removed -/
def activeArtifactIds (db : Db) : List Uuid :=
  (db.artifacts.filter fun a => a.removedAt.isNone).map ArtifactRow.evidenceArtifactId

def setRevisionStatus (db : Db) (id : Uuid) (status : RevisionState) : Db :=
  { db with revisions := db.revisions.map fun r => if r.revisionId = id then { r with status } else r }

/-- `max(version)`, zero when there is no revision -/
def maxVersion (db : Db) : Nat := (db.revisions.map RevisionRow.version).foldr max 0

end Db

/-! ## Transactions -/

/-- a transaction: the result, and the tables as it left them -/
def Txn (α : Type) : Type := Db → Except Err α × Db

namespace Txn

variable {α β : Type}

def bind (x : Txn α) (f : α → Txn β) : Txn β := fun db =>
  match x db with
  | (.ok a, db') => f a db'
  | (.error e, db') => (.error e, db')

instance : Monad Txn where
  pure a := fun db => (.ok a, db)
  bind := bind

def lift (x : Except Err α) : Txn α := fun db => (x, db)

def fail (cls : ErrClass) (detail : String) : Txn α := lift (raise cls detail)

/-- `if not p: raise …` -/
def require (p : Prop) [Decidable p] (cls : ErrClass) (detail : String) : Txn Unit := lift (ensure p cls detail)

def get : Txn Db := fun db => (.ok db, db)

def modify (f : Db → Db) : Txn Unit := fun db => (.ok (), f db)

theorem bind_ok {x : Txn α} {f : α → Txn β} {db db' : Db} {b : β} :
    (x >>= f) db = (.ok b, db') ↔ ∃ a db₁, x db = (.ok a, db₁) ∧ f a db₁ = (.ok b, db') := by
  show bind x f db = _ ↔ _
  unfold bind
  rcases h : x db with ⟨e | a, db₁⟩ <;> simp

theorem bind_error {x : Txn α} {f : α → Txn β} {db db' : Db} {e : Err} :
    (x >>= f) db = (.error e, db') ↔
      x db = (.error e, db') ∨ ∃ a db₁, x db = (.ok a, db₁) ∧ f a db₁ = (.error e, db') := by
  show bind x f db = _ ↔ _
  unfold bind
  rcases h : x db with ⟨e | a, db₁⟩ <;> simp

@[simp] theorem pure_ok {a : α} {r : Except Err α} {db db' : Db} :
    (pure a : Txn α) db = (r, db') ↔ r = .ok a ∧ db' = db := by
  show (Except.ok a, db) = _ ↔ _
  rw [Prod.mk.injEq, eq_comm, @eq_comm _ db]

@[simp] theorem lift_eq {x r : Except Err α} {db db' : Db} : lift x db = (r, db') ↔ r = x ∧ db' = db := by
  rw [lift, Prod.mk.injEq, eq_comm, @eq_comm _ db]

@[simp] theorem fail_eq {cls : ErrClass} {detail : String} {r : Except Err α} {db db' : Db} :
    fail cls detail db = (r, db') ↔ r = raise cls detail ∧ db' = db := lift_eq

@[simp] theorem require_ok {p : Prop} [Decidable p] {cls : ErrClass} {detail : String} {u : Unit}
    {db db' : Db} : require p cls detail db = (.ok u, db') ↔ p ∧ db' = db := by
  rw [require, lift_eq, eq_comm, ensure_eq_ok]

@[simp] theorem require_error {p : Prop} [Decidable p] {cls : ErrClass} {detail : String} {e : Err} {db db' : Db} :
    require p cls detail db = (.error e, db') ↔ ¬p ∧ e = { cls, detail } ∧ db' = db := by
  rw [require, lift_eq, eq_comm, ensure_eq_error, and_assoc]

@[simp] theorem get_eq {r : Except Err Db} {db db' : Db} : get db = (r, db') ↔ r = .ok db ∧ db' = db := by
  rw [get, Prod.mk.injEq, eq_comm, @eq_comm _ db]

@[simp] theorem modify_eq {f : Db → Db} {r : Except Err Unit} {db db' : Db} :
    modify f db = (r, db') ↔ r = .ok () ∧ db' = f db := by
  rw [modify, Prod.mk.injEq, eq_comm, @eq_comm _ (f db)]

/-- the transaction writes nothing, whether it returns or raises -/
def ReadOnly (x : Txn α) : Prop := ∀ db, (x db).2 = db

theorem ReadOnly.eq {x : Txn α} (hx : ReadOnly x) {db db' : Db} {r : Except Err α} (h : x db = (r, db')) : db' = db := by
  rw [← hx db, h]

theorem readOnly_bind {x : Txn α} {f : α → Txn β} (hx : ReadOnly x) (hf : ∀ a, ReadOnly (f a)) :
    ReadOnly (x >>= f) := by
  intro db
  rcases h : (x >>= f) db with ⟨e | b, db'⟩
  · rcases bind_error.1 h with h | ⟨a, db₁, h₁, h₂⟩
    · exact hx.eq h
    · exact ((hf a).eq h₂).trans (hx.eq h₁)
  · obtain ⟨a, db₁, h₁, h₂⟩ := bind_ok.1 h
    exact ((hf a).eq h₂).trans (hx.eq h₁)

theorem readOnly_pure (a : α) : ReadOnly (pure a) := fun _ => rfl

theorem readOnly_lift (x : Except Err α) : ReadOnly (lift x) := fun _ => rfl

theorem readOnly_get : ReadOnly get := fun _ => rfl

theorem readOnly_require (p : Prop) [Decidable p] (cls : ErrClass) (detail : String) :
    ReadOnly (require p cls detail) := readOnly_lift _

end Txn

/-- rows that the session holds when it locks them again, as they were read -/
structure Held where
  workspace : Option WorkspaceRow := none
  revision : Option RevisionRow := none

/-! ## What the columns take -/

/-- a value assigned to `VARCHAR(n)`: longer text is refused, unless only blanks are cut off -/
def varchar (n : Nat) (s : String) : Except Err String :=
  if !Json.storableText s then raise .dataError "invalid byte sequence"
  else if s.length ≤ n then .ok s
  else if ((Py.chars s).drop n).all (· == ' ') then .ok (String.ofList ((Py.chars s).take n))
  else raise .dataError "value too long"

def jsonColumn (v : Json) : Except Err Unit :=
  if v.storable then .ok () else raise .dataError "invalid input for type json"

def constraint (holds : Bool) (name : String) : Except Err Unit :=
  if holds then .ok () else raise .integrityError name

/-- `char_length(trim(s))` -/
def trimmedLength (s : String) : Nat := (stripChars (· == ' ') (Py.chars s)).length

/-- the rows of evidence links -/
def linkRows (key : String) (links : List EvidenceLink) : Except Err Unit :=
  links.forM fun l => do
    discard (varchar 255 key)
    jsonColumn (.obj l.locator)

def factRow (f : FactContent) : Except Err Unit := do
  let key ← varchar 255 f.key
  jsonColumn f.value
  constraint (decide (1 ≤ key.length)) "ck_ssp_system_facts_fact_key_min_length"
  linkRows f.key f.evidence

def sectionRow (s : SectionContent) : Except Err Unit := do
  let key ← varchar 255 s.key
  let title ← varchar 500 s.title
  let content ← varchar 100000 s.content
  constraint (decide (s.state = .empty ↔ trimmedLength content = 0)) "ck_ssp_sections_status_content"
  constraint (decide (1 ≤ key.length)) "ck_ssp_sections_section_key_min_length"
  constraint (decide (1 ≤ title.length)) "ck_ssp_sections_title_min_length"
  linkRows s.key s.evidence

/-- `status_content` of a control -/
def controlStatusContent (state : ControlState) (statement : String) (reason : Option String) : Bool :=
  match state with
  | .empty => decide (trimmedLength statement = 0)
  | .generated | .reviewed => decide (1 ≤ trimmedLength statement)
  | .partly => decide (1 ≤ trimmedLength statement ∨ 1 ≤ trimmedLength (textOf reason))

def controlRow (c : ControlContent) : Except Err Unit := do
  let controlId ← varchar 64 c.controlId
  let title ← varchar 500 c.title
  discard (c.implementationStatus.mapM (varchar 64))
  let statement ← varchar 100000 c.implementationStatement
  discard (c.responsibility.mapM (varchar 64))
  let reason ← c.unresolvedReason.mapM (varchar 4000)
  constraint (controlStatusContent c.state statement reason) "ck_ssp_control_statements_status_content"
  constraint (decide (1 ≤ controlId.length)) "ck_ssp_control_statements_control_id_min_length"
  constraint (decide (1 ≤ title.length)) "ck_ssp_control_statements_title_min_length"
  linkRows c.controlId c.evidence

/-- `status_answer`; a condition that is NULL does not refuse the row -/
def questionStatusAnswer (state : QuestionState) (answer : Option String) : Bool :=
  match state, answer with
  | .answered, some a => decide (1 ≤ trimmedLength a)
  | .opened, some _ => false
  | _, _ => true

def questionRow (q : QuestionContent) : Except Err Unit := do
  let question ← varchar 4000 q.question
  let targetKey ← varchar 255 q.targetKey
  let answer ← q.answer.mapM (varchar 20000)
  constraint (questionStatusAnswer q.state answer) "ck_ssp_questions_status_answer"
  constraint (decide (1 ≤ question.length)) "ck_ssp_questions_question_min_length"
  constraint (decide (1 ≤ targetKey.length)) "ck_ssp_questions_target_key_min_length"

/-- `_materialize_revision`: the rows of every item, flushed -/
def materializeRevision (c : RevisionContent) : Except Err Unit := do
  c.facts.forM factRow
  constraint (decide (KeyedList.Distinct FactContent.key c.facts)) "uq_ssp_system_facts_revision_fact_key"
  c.sections.forM sectionRow
  constraint (decide (KeyedList.Distinct SectionContent.key c.sections)) "uq_ssp_sections_revision_section_key"
  c.controls.forM controlRow
  constraint (decide (KeyedList.Distinct ControlContent.controlId c.controls))
    "uq_ssp_control_statements_revision_control_id"
  c.questions.forM questionRow
  constraint (decide (KeyedList.Distinct QuestionContent.idKey c.questions)) "uq_ssp_questions_revision_question_id"

/-- the row of a revision, flushed into the tables as they stand then -/
def revisionRow (db : Db) (row : RevisionRow) : Except Err Unit := do
  jsonColumn row.content
  discard (varchar 255 row.createdBy)
  constraint ((db.revision? row.revisionId).isNone) "ssp_workspace_revisions_pkey"
  constraint (decide (row.version ∉ db.revisions.map RevisionRow.version))
    "uq_ssp_workspace_revisions_workspace_version"
  constraint (!(decide (row.status = .working) && db.revisions.any fun r => r.status = .working))
    "uq_ssp_workspace_revisions_one_working"

/-! ## Operations -/

def loadWorkspaceForUpdate (held : Held) : Txn WorkspaceRow := do
  let db ← Txn.get
  match db.workspace with
  | none => Txn.fail .workspaceNotFound "workspace not found"
  | some w => return held.workspace.getD w

/-- a locking SELECT of a revision -/
def lockRevision (held : Held) (id : Uuid) : Txn (Option RevisionRow) := do
  let db ← Txn.get
  return (db.revision? id).map fun r => (held.revision.filter fun h => h.revisionId = id).getD r

def validateEvidenceReferences (content : RevisionContent) : Txn Unit := do
  let db ← Txn.get
  Txn.require (∀ id ∈ contentEvidenceIds content, id ∈ db.activeArtifactIds) .evidenceReference
    "revision contains foreign or missing evidence"

/-- the current revision that a save supersedes -/
def lockCurrent (held : Held) : Option Uuid → Txn (Option RevisionRow)
  | none => return none
  | some id => do
    match ← lockRevision held id with
    | none => Txn.fail .revisionIntegrity "current revision does not belong to workspace"
    | some r => do
      Txn.require (r.status ≠ .superseded) .revisionIntegrity "current revision is already superseded"
      return some r

/-- a working revision stops being one when another is saved over it -/
def supersede (current : Option RevisionRow) (db : Db) : Db :=
  match current with
  | some r => if r.status = .working then db.setRevisionStatus r.revisionId .superseded else db
  | none => db

/-- the checks of a save, under the lock of the workspace; returns the workspace and the current revision -/
def lockForSave (held : Held) (content : RevisionContent) (createdBy : String) (expectedRevisionId : Option Uuid) :
    Txn (WorkspaceRow × Option RevisionRow) := do
  Txn.require (hasText createdBy) .valueError "created_by cannot be empty"
  let workspace ← loadWorkspaceForUpdate held
  Txn.require (workspace.status = .working) .illegalWorkspaceState "archived workspaces cannot be edited"
  Txn.require (workspace.currentRevisionId = expectedRevisionId) .staleWorkspaceRevision "workspace revision changed"
  let current ← lockCurrent held workspace.currentRevisionId
  validateEvidenceReferences content
  return (workspace, current)

/-- the rows of a save, flushed in order: the superseded revision, the new one, its items, the workspace -/
def insertRevision (current : Option RevisionRow) (row : RevisionRow) (content : RevisionContent) : Txn Unit := do
  Txn.modify (supersede current)
  let db ← Txn.get
  Txn.lift (revisionRow db row)
  -- what is read back is the document as the JSONB column keeps it
  Txn.modify fun db => { db with revisions := db.revisions ++ [{ row with content := row.content.jsonb }] }
  Txn.lift (materializeRevision content)
  Txn.modify fun db =>
    { db with workspace := db.workspace.map fun w => { w with currentRevisionId := some row.revisionId } }

/-- the row of a new revision over the workspace's current one -/
def newRevision (db : Db) (workspace : WorkspaceRow) (content : RevisionContent) (createdBy : String)
    (revisionId : Uuid) : RevisionRow where
  revisionId := revisionId
  parentRevisionId := workspace.currentRevisionId
  version := db.maxVersion + 1
  status := .working
  contentSha256 := revisionContentSha256 content
  content := content.dump
  createdBy := strip createdBy

/-- save a new immutable revision after an exact optimistic-lock check; `revisionId` is the identifier it draws -/
def saveRevision (held : Held) (content : RevisionContent) (createdBy : String) (expectedRevisionId : Option Uuid)
    (revisionId : Uuid) : Txn RevisionRow := do
  let (workspace, current) ← lockForSave held content createdBy expectedRevisionId
  let db ← Txn.get
  let row := newRevision db workspace content createdBy revisionId
  insertRevision current row content
  return row

/-- approve the exact current revision and bind the approval to its verified hash -/
def approveCurrentRevision (held : Held) (revisionId : Uuid) (approvedBy : String) (now : Nat)
    (approvalSnapshotId : Uuid) : Txn ApprovalRow := do
  Txn.require (hasText approvedBy) .valueError "approved_by cannot be empty"
  let workspace ← loadWorkspaceForUpdate held
  Txn.require (workspace.status = .working) .illegalWorkspaceState "archived workspaces cannot be approved"
  Txn.require (workspace.currentRevisionId = some revisionId) .staleWorkspaceRevision
    "only the current revision can be approved"
  match ← lockRevision held revisionId with
  | none => Txn.fail .workspaceNotFound "revision not found"
  | some revision => do
    Txn.require (revision.status = .working) .illegalWorkspaceState "revision is not working"
    let validatedContent ← Txn.lift revision.load
    let actualHash := revisionContentSha256 validatedContent
    Txn.require (actualHash = revision.contentSha256) .revisionIntegrity "revision content hash does not match"
    let approval : ApprovalRow := {
      approvalSnapshotId := approvalSnapshotId
      revisionId := revisionId
      revisionSha256 := actualHash
      approvedBy := strip approvedBy
      approvedAt := now }
    Txn.modify fun db => db.setRevisionStatus revisionId .approved
    let db ← Txn.get
    Txn.lift (constraint (decide (approvalSnapshotId ∉ db.approvals.map ApprovalRow.approvalSnapshotId))
      "ssp_approval_snapshots_pkey")
    Txn.lift (constraint (decide (revisionId ∉ db.approvals.map ApprovalRow.revisionId))
      "ssp_approval_snapshots_revision_id_key")
    Txn.modify fun db => { db with approvals := db.approvals ++ [approval] }
    return approval

/-- apply the only legal workspace transition: working to archived -/
def archiveWorkspace : Txn Unit := do
  let workspace ← loadWorkspaceForUpdate {}
  Txn.require (workspace.status = .working) .illegalWorkspaceState "workspace is not working"
  Txn.modify fun db => { db with workspace := db.workspace.map fun w => { w with status := .archived } }

/-- create a working workspace pinned to one immutable profile version -/
def createWorkspace (profileVersionId : Uuid) (createdBy : String) : Txn WorkspaceRow := do
  Txn.require (hasText createdBy) .valueError "created_by cannot be empty"
  let db ← Txn.get
  Txn.require ((db.profile? profileVersionId).any fun p => p.status ≠ .archived) .profileVersionNotFound
    "available profile version not found"
  Txn.lift (constraint db.workspace.isNone "uq_ssp_workspaces_system_id")
  let workspace : WorkspaceRow := ⟨profileVersionId, none, .working⟩
  Txn.modify fun db => { db with workspace := some workspace }
  return workspace

/-! ## The lock of a save -/

theorem readOnly_loadWorkspaceForUpdate (held : Held) : Txn.ReadOnly (loadWorkspaceForUpdate held) := by
  refine Txn.readOnly_bind Txn.readOnly_get fun db => ?_
  cases db.workspace with
  | none => exact Txn.readOnly_lift _
  | some w => exact Txn.readOnly_pure _

theorem readOnly_lockRevision (held : Held) (id : Uuid) : Txn.ReadOnly (lockRevision held id) :=
  Txn.readOnly_bind Txn.readOnly_get fun _ => Txn.readOnly_pure _

theorem readOnly_lockCurrent (held : Held) (current : Option Uuid) : Txn.ReadOnly (lockCurrent held current) := by
  cases current with
  | none => exact Txn.readOnly_pure _
  | some id =>
    refine Txn.readOnly_bind (readOnly_lockRevision held id) fun r => ?_
    cases r with
    | none => exact Txn.readOnly_lift _
    | some r => exact Txn.readOnly_bind (Txn.readOnly_require _ _ _) fun _ => Txn.readOnly_pure _

theorem readOnly_validateEvidenceReferences (content : RevisionContent) :
    Txn.ReadOnly (validateEvidenceReferences content) :=
  Txn.readOnly_bind Txn.readOnly_get fun _ => Txn.readOnly_require _ _ _

theorem readOnly_lockForSave (held : Held) (content : RevisionContent) (createdBy : String) (expected : Option Uuid) :
    Txn.ReadOnly (lockForSave held content createdBy expected) :=
  Txn.readOnly_bind (Txn.readOnly_require _ _ _) fun _ =>
    Txn.readOnly_bind (readOnly_loadWorkspaceForUpdate held) fun _ =>
      Txn.readOnly_bind (Txn.readOnly_require _ _ _) fun _ =>
        Txn.readOnly_bind (Txn.readOnly_require _ _ _) fun _ =>
          Txn.readOnly_bind (readOnly_lockCurrent held _) fun _ =>
            Txn.readOnly_bind (readOnly_validateEvidenceReferences content) fun _ => Txn.readOnly_pure _

/-- the row that a locking SELECT of a revision returns -/
def Held.seen (held : Held) (db : Db) (id : Uuid) : Option RevisionRow :=
  (db.revision? id).map fun r => (held.revision.filter fun h => h.revisionId = id).getD r

theorem loadWorkspaceForUpdate_ok {held : Held} {db db' : Db} {w : WorkspaceRow} :
    loadWorkspaceForUpdate held db = (.ok w, db') ↔
      db' = db ∧ ∃ row, db.workspace = some row ∧ w = held.workspace.getD row := by
  unfold loadWorkspaceForUpdate
  rw [Txn.bind_ok]
  cases hw : db.workspace with
  | none => simp [hw]
  | some row => simp [hw, and_comm]

theorem lockRevision_ok {held : Held} {id : Uuid} {db db' : Db} {r : Option RevisionRow} :
    lockRevision held id db = (.ok r, db') ↔ db' = db ∧ r = held.seen db id := by
  unfold lockRevision
  rw [Txn.bind_ok]
  simp [Held.seen, and_comm]

theorem lockCurrent_ok {held : Held} {expected : Option Uuid} {db db' : Db} {current : Option RevisionRow} :
    lockCurrent held expected db = (.ok current, db') ↔
      db' = db ∧ current = expected.bind (held.seen db) ∧ (expected.isSome → current.isSome) ∧
        ∀ r ∈ current, r.status ≠ .superseded := by
  cases expected with
  | none =>
    simp only [lockCurrent, Txn.pure_ok, Except.ok.injEq, Option.bind_none, Option.isSome_none, Bool.false_eq_true]
    constructor
    · rintro ⟨rfl, rfl⟩; simp
    · rintro ⟨rfl, rfl, -⟩; simp
  | some id =>
    simp only [lockCurrent, Txn.bind_ok, lockRevision_ok, Option.bind_some, Option.isSome_some]
    constructor
    · rintro ⟨r, db₁, ⟨rfl, rfl⟩, h⟩
      cases hr : held.seen db₁ id with
      | none => simp [hr] at h
      | some r =>
        simp only [hr, Txn.bind_ok, Txn.require_ok, Txn.pure_ok] at h
        obtain ⟨-, db₂, ⟨hs, rfl⟩, hc, rfl⟩ := h
        obtain rfl : current = some r := by simpa using hc
        exact ⟨rfl, rfl, by simp, by simpa using hs⟩
    · rintro ⟨rfl, rfl, hsome, hs⟩
      refine ⟨_, _, ⟨rfl, rfl⟩, ?_⟩
      obtain ⟨r, hr⟩ := Option.isSome_iff_exists.1 (hsome trivial)
      simp only [hr, Txn.bind_ok, Txn.require_ok, Txn.pure_ok]
      exact ⟨(), _, ⟨hs r hr, rfl⟩, trivial, rfl⟩

/-- what a save found under the lock: the workspace and the current revision as the session sees them -/
structure SaveChecks (held : Held) (content : RevisionContent) (createdBy : String) (expected : Option Uuid) (db : Db)
    (workspace : WorkspaceRow) (current : Option RevisionRow) : Prop where
  author : hasText createdBy = true
  stored : ∃ row, db.workspace = some row ∧ workspace = held.workspace.getD row
  working : workspace.status = .working
  parent : workspace.currentRevisionId = expected
  seen : current = expected.bind (held.seen db)
  found : expected.isSome → current.isSome
  notSuperseded : ∀ r ∈ current, r.status ≠ .superseded
  evidence : ∀ id ∈ contentEvidenceIds content, id ∈ db.activeArtifactIds

theorem lockForSave_ok {held : Held} {content : RevisionContent} {createdBy : String} {expected : Option Uuid}
    {db db' : Db} {workspace : WorkspaceRow} {current : Option RevisionRow} :
    lockForSave held content createdBy expected db = (.ok (workspace, current), db') ↔
      db' = db ∧ SaveChecks held content createdBy expected db workspace current := by
  unfold lockForSave validateEvidenceReferences
  simp only [Txn.bind_ok, Txn.require_ok, loadWorkspaceForUpdate_ok, lockCurrent_ok, Txn.get_eq, Txn.pure_ok]
  constructor
  · rintro ⟨_, _, ⟨ha, rfl⟩, w, _, ⟨rfl, hw⟩, _, _, ⟨hs, rfl⟩, _, _, ⟨he, rfl⟩, c, _, ⟨rfl, hc, hsome, hopen⟩,
      _, _, ⟨d, _, ⟨hd, rfl⟩, hev, rfl⟩, hr, rfl⟩
    obtain rfl := Except.ok.inj hd
    obtain ⟨rfl, rfl⟩ := Prod.mk.inj (Except.ok.inj hr)
    exact ⟨rfl, ha, hw, hs, he, he ▸ hc, he ▸ hsome, hopen, hev⟩
  · rintro ⟨rfl, h⟩
    have hp := h.parent
    exact ⟨(), _, ⟨h.author, rfl⟩, workspace, _, ⟨rfl, h.stored⟩, (), _, ⟨h.working, rfl⟩, (), _, ⟨hp, rfl⟩, current, _,
      ⟨rfl, hp ▸ h.seen, hp ▸ h.found, h.notSuperseded⟩, (), _, ⟨_, _, ⟨rfl, rfl⟩, h.evidence, rfl⟩, rfl, rfl⟩

/-! ## A save -/

/-- an error that the database itself raises when rows are flushed -/
def isDatabaseError (cls : ErrClass) : Prop := cls = .dataError ∨ cls = .integrityError

theorem raises_varchar (n : Nat) (s : String) : Raises isDatabaseError (varchar n s) := by
  unfold varchar
  split_ifs
  · exact raises_raise (Or.inl rfl)
  · exact raises_ok _
  · exact raises_ok _
  · exact raises_raise (Or.inl rfl)

theorem raises_jsonColumn (v : Json) : Raises isDatabaseError (jsonColumn v) := by
  unfold jsonColumn
  split_ifs
  · exact raises_ok _
  · exact raises_raise (Or.inl rfl)

theorem raises_constraint (holds : Bool) (name : String) : Raises isDatabaseError (constraint holds name) := by
  unfold constraint
  split_ifs
  · exact raises_ok _
  · exact raises_raise (Or.inr rfl)

theorem raises_linkRows (key : String) (links : List EvidenceLink) : Raises isDatabaseError (linkRows key links) :=
  raises_forM fun _ _ => raises_bind (raises_map (raises_varchar _ _)) fun _ => raises_jsonColumn _

theorem raises_materializeRevision (c : RevisionContent) : Raises isDatabaseError (materializeRevision c) := by
  have factRows : ∀ f ∈ c.facts, Raises isDatabaseError (factRow f) := fun f _ =>
    raises_bind (raises_varchar _ _) fun _ => raises_bind (raises_jsonColumn _) fun _ =>
      raises_bind (raises_constraint _ _) fun _ => raises_linkRows _ _
  have sectionRows : ∀ s ∈ c.sections, Raises isDatabaseError (sectionRow s) := fun s _ =>
    raises_bind (raises_varchar _ _) fun _ => raises_bind (raises_varchar _ _) fun _ =>
      raises_bind (raises_varchar _ _) fun _ => raises_bind (raises_constraint _ _) fun _ =>
        raises_bind (raises_constraint _ _) fun _ => raises_bind (raises_constraint _ _) fun _ => raises_linkRows _ _
  have optional : ∀ (n : Nat) (o : Option String), Raises isDatabaseError (o.mapM (varchar n)) := fun n o =>
    raises_optionMapM fun _ _ => raises_varchar n _
  have controlRows : ∀ x ∈ c.controls, Raises isDatabaseError (controlRow x) := fun x _ =>
    raises_bind (raises_varchar _ _) fun _ => raises_bind (raises_varchar _ _) fun _ =>
      raises_bind (raises_map (optional _ _)) fun _ => raises_bind (raises_varchar _ _) fun _ =>
        raises_bind (raises_map (optional _ _)) fun _ => raises_bind (optional _ _) fun _ =>
          raises_bind (raises_constraint _ _) fun _ => raises_bind (raises_constraint _ _) fun _ =>
            raises_bind (raises_constraint _ _) fun _ => raises_linkRows _ _
  have questionRows : ∀ q ∈ c.questions, Raises isDatabaseError (questionRow q) := fun q _ =>
    raises_bind (raises_varchar _ _) fun _ => raises_bind (raises_varchar _ _) fun _ =>
      raises_bind (optional _ _) fun _ => raises_bind (raises_constraint _ _) fun _ =>
        raises_bind (raises_constraint _ _) fun _ => raises_constraint _ _
  exact raises_bind (raises_forM factRows) fun _ => raises_bind (raises_constraint _ _) fun _ =>
    raises_bind (raises_forM sectionRows) fun _ => raises_bind (raises_constraint _ _) fun _ =>
      raises_bind (raises_forM controlRows) fun _ => raises_bind (raises_constraint _ _) fun _ =>
        raises_bind (raises_forM questionRows) fun _ => raises_constraint _ _

theorem raises_revisionRow (db : Db) (row : RevisionRow) : Raises isDatabaseError (revisionRow db row) :=
  raises_bind (raises_jsonColumn _) fun _ => raises_bind (raises_map (raises_varchar _ _)) fun _ =>
    raises_bind (raises_constraint _ _) fun _ => raises_bind (raises_constraint _ _) fun _ => raises_constraint _ _

/-- the tables after a save of `row` -/
def Db.inserted (db : Db) (current : Option RevisionRow) (row : RevisionRow) : Db :=
  let db := supersede current db
  { db with
    revisions := db.revisions ++ [{ row with content := row.content.jsonb }]
    workspace := db.workspace.map fun w => { w with currentRevisionId := some row.revisionId } }

theorem insertRevision_ok {current : Option RevisionRow} {row : RevisionRow} {content : RevisionContent} {db db' : Db}
    {u : Unit} : insertRevision current row content db = (.ok u, db') ↔
      revisionRow (supersede current db) row = .ok () ∧ materializeRevision content = .ok () ∧
        db' = db.inserted current row := by
  unfold insertRevision
  simp only [Txn.bind_ok, Txn.modify_eq, Txn.get_eq, Txn.lift_eq, true_and, exists_const]
  constructor
  · rintro ⟨_, rfl, d, _, ⟨hd, rfl⟩, _, _, ⟨hr, rfl⟩, _, rfl, _, _, ⟨hm, rfl⟩, rfl⟩
    obtain rfl := Except.ok.inj hd
    exact ⟨hr.symm, hm.symm, rfl⟩
  · rintro ⟨hr, hm, rfl⟩
    exact ⟨_, rfl, _, _, ⟨rfl, rfl⟩, (), _, ⟨hr.symm, rfl⟩, _, rfl, (), _, ⟨hm.symm, rfl⟩, rfl⟩

/-- **What a save did.** It checked everything under the lock and then wrote exactly one revision. -/
theorem saveRevision_ok {held : Held} {content : RevisionContent} {createdBy : String} {expected : Option Uuid}
    {revisionId : Uuid} {db db' : Db} {row : RevisionRow} :
    saveRevision held content createdBy expected revisionId db = (.ok row, db') ↔
      ∃ workspace current, SaveChecks held content createdBy expected db workspace current ∧
        row = newRevision db workspace content createdBy revisionId ∧
        revisionRow (supersede current db) row = .ok () ∧ materializeRevision content = .ok () ∧
        db' = db.inserted current row := by
  unfold saveRevision
  simp only [Txn.bind_ok, Prod.exists, lockForSave_ok, Txn.get_eq, insertRevision_ok, Txn.pure_ok]
  constructor
  · rintro ⟨w, c, _, ⟨rfl, hc⟩, d, _, ⟨hd, rfl⟩, _, _, ⟨hr, hm, rfl⟩, hrow, rfl⟩
    obtain rfl := Except.ok.inj hd
    obtain rfl := Except.ok.inj hrow
    exact ⟨w, c, hc, rfl, hr, hm, rfl⟩
  · rintro ⟨w, c, hc, rfl, hr, hm, rfl⟩
    exact ⟨w, c, _, ⟨rfl, hc⟩, _, _, ⟨rfl, rfl⟩, (), _, ⟨hr, hm, rfl⟩, rfl, rfl⟩

/-- **A refused save.** Either a check under the lock refused it and nothing was written, or the database refused a
row. -/
theorem saveRevision_error_cases {held : Held} {content : RevisionContent} {createdBy : String} {expected : Option Uuid}
    {revisionId : Uuid} {db db' : Db} {e : Err}
    (h : saveRevision held content createdBy expected revisionId db = (.error e, db')) :
    (lockForSave held content createdBy expected db = (.error e, db') ∧ db' = db) ∨ isDatabaseError e.cls := by
  unfold saveRevision at h
  rcases Txn.bind_error.1 h with h | ⟨⟨w, c⟩, db₁, h₁, h⟩
  · exact Or.inl ⟨h, (readOnly_lockForSave held content createdBy expected).eq h⟩
  · right
    have hlift : ∀ {x : Except Err Unit} {d d' : Db}, Raises isDatabaseError x →
        Txn.lift x d = (.error e, d') → isDatabaseError e.cls := fun hx hl => hx e (Txn.lift_eq.1 hl).1.symm
    simp only [insertRevision, Txn.bind_error, Txn.bind_ok, Txn.get_eq, Txn.modify_eq, Txn.pure_ok, reduceCtorEq,
      false_and, and_false, exists_false, false_or, or_false] at h
    obtain ⟨d, d₁, ⟨-, -⟩, -, d₂, ⟨-, -⟩, d₃, d₄, ⟨-, -⟩, h | ⟨_, _, _, _, _, _, h⟩⟩ := h
    · exact hlift (raises_revisionRow _ _) h
    · exact hlift (raises_materializeRevision content) h

theorem saveRevision_error {held : Held} {content : RevisionContent} {createdBy : String} {expected : Option Uuid}
    {revisionId : Uuid} {db db' : Db} {e : Err}
    (h : saveRevision held content createdBy expected revisionId db = (.error e, db')) :
    db' = db ∨ isDatabaseError e.cls := (saveRevision_error_cases h).imp And.right id

/-! ## An approval -/

/-- **What an approval did.** It checked everything under the lock, set the status and wrote one snapshot. -/
theorem approveCurrentRevision_ok {held : Held} {revisionId : Uuid} {approvedBy : String} {now : Nat}
    {approvalSnapshotId : Uuid} {db db' : Db} {approval : ApprovalRow}
    (h : approveCurrentRevision held revisionId approvedBy now approvalSnapshotId db = (.ok approval, db')) :
    ∃ row revision content, db.workspace = some row ∧
      (held.workspace.getD row).status = .working ∧ (held.workspace.getD row).currentRevisionId = some revisionId ∧
      held.seen db revisionId = some revision ∧ revision.status = .working ∧ revision.load = .ok content ∧
      revisionContentSha256 content = revision.contentSha256 ∧
      approval = ⟨approvalSnapshotId, revisionId, revisionContentSha256 content, strip approvedBy, now⟩ ∧
      revisionId ∉ db.approvals.map ApprovalRow.revisionId ∧
      db' = { db.setRevisionStatus revisionId .approved with approvals := db.approvals ++ [approval] } := by
  unfold approveCurrentRevision at h
  simp only [Txn.bind_ok, Txn.require_ok, loadWorkspaceForUpdate_ok, lockRevision_ok] at h
  obtain ⟨-, _, ⟨-, rfl⟩, w, _, ⟨rfl, row, hrow, rfl⟩, -, _, ⟨hs, rfl⟩, -, _, ⟨hc, rfl⟩, r, _, ⟨rfl, hseen⟩, h⟩ := h
  cases r with
  | none => simp at h
  | some revision =>
    simp only [Txn.bind_ok, Txn.require_ok, Txn.lift_eq, Txn.modify_eq, Txn.get_eq, Txn.pure_ok] at h
    obtain ⟨_, _, ⟨hw, rfl⟩, content, _, ⟨hl, rfl⟩, _, _, ⟨hh, rfl⟩, _, _, ⟨-, rfl⟩, d, _, ⟨hd, rfl⟩, _, _,
      ⟨-, rfl⟩, _, db₁, ⟨hu, rfl⟩, _, _, ⟨-, rfl⟩, ha, rfl⟩ := h
    obtain rfl := Except.ok.inj hd
    obtain rfl := Except.ok.inj ha
    refine ⟨row, revision, content, hrow, hs, hc, hseen.symm, hw, hl.symm, hh, rfl, fun hm => ?_, rfl⟩
    simp only [constraint, Db.setRevisionStatus, hm, not_true, decide_false, Bool.false_eq_true, if_false] at hu
    simp at hu

end AtoService.Workspace
