/-
The HTTP routes of a workspace: authorization, the operation, the envelope of the response, and what becomes of an error.

A route turns the exceptions it catches into an error response and returns normally, so the session dependency commits
what the operation wrote before it raised; any other exception rolls everything back. `Route` is the list of what is
caught where, `Request` one constructor for each route, and `handle` one whole request: its response, and the tables as
they are when the request's session has ended.
-/
import AtoService.Workspace.Service

namespace AtoService.Workspace

/-- what does not change between requests -/
structure Env where
  host : Host
  /-- the text that `uuid4` draws for the `n`-th entry without an identifier -/
  fresh : Nat → String
  maxSingleFileBytes : Nat

/-- the operation of a request, with what the caller submits and what the models return -/
inductive Operation where
  | create (profileVersionId : Uuid) (level : Option String)
  | editSection (sectionKey text : String)
  | editControl (controlId statement : String) (implementationStatus responsibility : Option String)
  | answer (questionId : Uuid) (text : String)
  | generate (execution : Except Err GenerationResult)
  | analyzeCategorization (execution : Except Err (Option GeneratedCategorization))
  | proposePatch (execution : Except Err PatchResult) (patchId : Uuid)
  | applyPatch (patchId : Uuid)
  | rejectPatch (patchId : Uuid)
  | approve (approvalSnapshotId : Uuid)
  | restore (revisionId : Uuid)
  | migrate (profileVersionId : Uuid) (level : String)
  | categorize (form : CategorizationForm)
  | defineSystem (input : SystemDefinitionInput)
  | analyzeDiagram (artifactId : Uuid) (pageNumber : Nat) (execution : Except Err DiagramAnalysisResult)
  | mapInformationTypes (mappings : List InformationTypeMapping)
  | ingest (file : UploadedFile) (artifactId : Uuid)
  | remove (artifactId : Uuid)

/-- one request; `revisionId` is the identifier that a save would draw -/
structure Request where
  operation : Operation
  principal : Principal
  authorized : Bool
  expectedRevisionId : Uuid
  revisionId : Uuid
  now : Nat

/-- `error` is an error response of the route, `failure` an exception that it does not catch -/
inductive Response where
  | ok
  | error (e : Err)
  | failure (e : Err)
deriving DecidableEq, Repr

namespace Response

def isOk : Response → Bool
  | .ok => true
  | _ => false

end Response

namespace Operation

/-- the `except` clause of the route, after `AuthorizationDeniedError` and `WorkspacePersistenceError` -/
def catchesAlso : Operation → ErrClass → Bool
  | .create .., cls => cls = .profileBundle
  | .editSection .., cls | .editControl .., cls | .answer .., cls | .restore .., cls | .migrate .., cls
  | .categorize .., cls | .defineSystem .., cls | .analyzeDiagram .., cls | .mapInformationTypes .., cls =>
    cls.isValueError
  | .generate .., cls | .proposePatch .., cls => cls = .sspGeneration || cls = .runtimeConfig
  | .analyzeCategorization .., cls => cls = .sspGeneration || cls = .runtimeConfig || cls = .workspaceEdit
  | .applyPatch .., cls | .rejectPatch .., cls => cls = .agentPatchNotFound || cls = .agentPatchState
  | .approve .., cls => cls = .workspaceNotReviewable
  | .ingest .., cls => cls = .evidenceUpload || cls = .blobStore || cls = .runtimeConfig
  | .remove .., cls => cls = .evidenceRemoval

def catches (o : Operation) (cls : ErrClass) : Bool :=
  cls = .authorizationDenied || cls.isPersistence || o.catchesAlso cls

end Operation

section

variable (env : Env)

/-- the call that a route makes; the SELECT of the authorization came before -/
def perform (views : Views) (r : Request) : Txn Unit :=
  match r.operation with
  | .create profileVersionId level =>
    createInitializedWorkspace views profileVersionId level r.principal r.revisionId
  | .editSection sectionKey text =>
    discard (saveSectionEdit env.host env.fresh views r.expectedRevisionId sectionKey text r.principal r.revisionId)
  | .editControl controlId statement status responsibility =>
    discard (saveControlEdit views r.expectedRevisionId controlId statement status responsibility r.principal
      r.revisionId)
  | .answer questionId text =>
    discard (saveQuestionAnswer views r.expectedRevisionId questionId text r.principal r.revisionId)
  | .generate execution =>
    discard (generateWorkspaceDraft env.host views r.expectedRevisionId execution r.principal r.revisionId)
  | .analyzeCategorization execution =>
    discard (analyzeWorkspaceCategorization env.host views r.expectedRevisionId execution r.principal r.revisionId)
  | .proposePatch execution patchId => proposeAgentPatch views r.expectedRevisionId execution patchId
  | .applyPatch patchId =>
    applyProposedPatch env.host env.fresh views patchId r.expectedRevisionId r.principal r.revisionId
  | .rejectPatch patchId => rejectProposedPatch patchId
  | .approve approvalSnapshotId =>
    discard (approveWorkspaceRevision env.host env.fresh views r.expectedRevisionId r.principal r.now
      approvalSnapshotId)
  | .restore revisionId =>
    discard (restoreWorkspaceRevision views revisionId r.expectedRevisionId r.principal r.revisionId)
  | .migrate profileVersionId level =>
    discard (migrateWorkspaceProfile env.host views none profileVersionId level r.expectedRevisionId none r.principal
      r.revisionId)
  | .categorize form =>
    discard (saveSystemCategorization env.host views r.expectedRevisionId form r.principal r.revisionId)
  | .defineSystem input => discard (saveSystemDefinition views r.expectedRevisionId input r.principal r.revisionId)
  | .analyzeDiagram artifactId pageNumber execution =>
    discard (analyzeWorkspaceDiagram views r.expectedRevisionId artifactId pageNumber execution r.principal
      r.revisionId)
  | .mapInformationTypes mappings =>
    discard (saveInformationTypes views r.expectedRevisionId mappings r.principal r.revisionId)
  | .ingest file artifactId =>
    ingestWorkspaceEvidence env.host env.maxSingleFileBytes views r.expectedRevisionId file artifactId r.principal
      r.revisionId
  | .remove artifactId => removeWorkspaceEvidence artifactId r.expectedRevisionId r.principal r.now r.revisionId

/-- whether the response carries the envelope; proposing a patch answers with the patch -/
def Operation.answersEnvelope : Operation → Bool
  | .proposePatch .. => false
  | _ => true

/-- `_authorize_workspace`, or the check of the system for a new workspace -/
def authorize (view : Db) (r : Request) : Except Err Unit :=
  match r.operation with
  | .create .. => ensure (r.authorized = true) .authorizationDenied "authorization denied"
  | _ => do
    ensure view.workspace.isSome .workspaceNotFound "workspace not found"
    ensure (r.authorized = true) .authorizationDenied "authorization denied"

/-- the body of a route's `try` -/
def route (views : Views) (r : Request) : Txn Unit := do
  Txn.lift (authorize (views 0) r)
  perform env (views.after 1) r
  if r.operation.answersEnvelope then do
    let db ← Txn.get
    discard (Txn.lift (loadWorkspaceEnvelope env.host env.fresh fun _ => db))
  else pure ()

/-- a request until its session has ended: a response is committed, an uncaught exception rolls back -/
def handle (views : Views) (r : Request) (db : Db) : Response × Db :=
  match route env views r db with
  | (.ok (), db') => (.ok, db')
  | (.error e, db') => if r.operation.catches e.cls then (.error e, db') else (.failure e, db)

end

end AtoService.Workspace
