/-
The workspace operations: what each reads before it takes the lock of the workspace, what it computes and what it saves.

An operation first runs SELECTs without a lock. Other transactions may commit between any two of them, so the `n`-th
SELECT sees its own state of the tables, `views n`. From its first locking SELECT of the workspace on, an operation is a
`Txn`: no other transaction writes the workspace, its revisions, approvals or evidence until it ends.

What a model returns, what an extractor reads and what `uuid4` draws is passed in. Audit events are not modelled.
-/
import AtoService.Workspace.Persistence
import AtoService.Workspace.Diagram
import AtoService.Workspace.Migration

namespace AtoService.Workspace

open AtoService.Py

/-- what the `n`-th unlocked SELECT of an operation sees -/
abbrev Views := Nat → Db

/-- the SELECTs after the first `n` -/
def Views.after (views : Views) (n : Nat) : Views := fun i => views (n + i)

/-- the identity of the caller, as `AuthenticatedPrincipal` checks it -/
structure Principal where
  actorId : String
  stripped : strip actorId = actorId
  nonempty : actorId ≠ ""
  bounded : actorId.length ≤ 255
deriving DecidableEq

/-! ## Reading -/

namespace Db

def currentRevisionId (db : Db) : Option Uuid := db.workspace.bind WorkspaceRow.currentRevisionId

/-- the row of the workspace's profile version -/
def workspaceProfile (db : Db) : Option ProfileRow := db.workspace.bind fun w => db.profile? w.profileVersionId

end Db

/-- `scalar_one()` -/
def scalarOne {α : Type} (x : Option α) : Except Err α :=
  match x with
  | some a => .ok a
  | none => raise .noResultFound "No row was found when one was required"

/-- `_load_exact_current_revision`: one SELECT of the workspace, one of the revision -/
def loadExactCurrentRevision (views : Views) (revisionId : Uuid) : Except Err RevisionRow := do
  ensure ((views 0).currentRevisionId = some revisionId) .staleWorkspaceRevision "workspace revision changed"
  match (views 1).revision? revisionId with
  | some r => return r
  | none => raise .staleWorkspaceRevision "workspace revision changed"

/-- `_resolved_profile_for_revision`: one SELECT of the workspace, one of its profile version -/
def resolvedProfileForRevision (views : Views) (revision : RevisionRow) : Except Err ResolvedProfile := do
  let content ← revision.load
  let workspace ← scalarOne (views 0).workspace
  let profileRow ← scalarOne ((views 1).profile? workspace.profileVersionId)
  resolveStoredProfile profileRow (impactLevel content)

/-- `resolve_workspace_evidence_links`: the artifacts must be in the workspace and not removed -/
def resolveWorkspaceEvidenceLinks (view : Db) (e : Err) (links : List EvidenceLink) : Except Err Unit :=
  if ∀ l ∈ links, l.artifactId ∈ view.activeArtifactIds then .ok () else .error e

/-- a `ProfileValidationError` becomes a `WorkspaceProfileValidationError` with its text -/
def asWorkspaceProfileError {α : Type} (x : Except Err α) : Except Err α :=
  match x with
  | .error e =>
    if e.cls = .profileValidation then raise .workspaceProfileValidation e.detail else .error e
  | .ok a => .ok a

/-- `_save_edited_revision` -/
def saveEditedRevision (held : Held) (expectedRevisionId : Uuid) (content : RevisionContent) (actor : Principal)
    (revisionId : Uuid) : Txn RevisionRow :=
  saveRevision held content actor.actorId (some expectedRevisionId) revisionId

/-! ## The first revision -/

/-- `impact_level or "moderate"` -/
def workingImpactLevel (level : Option String) : String :=
  match level with
  | none | some "" => "moderate"
  | some s => s

/-- the content of the first, empty revision -/
def initialContent (profile : ResolvedProfile) (system : SystemRow) (level : Option String) :
    Except Err RevisionContent := do
  let identifier :=
    match system.externalSystemId with
    | none | some "" => []
    | some s => [FactContent.isso "system.identifier" (.str s)]
  let facts ← ([.isso "profile_id" (.str profile.profileId), .isso "profile_version" (.str profile.profileVersion),
    .isso "system.name" (.str system.displayName),
    .isso (if level.isSome then "system.impact_level" else "system.provisional_impact_level") (.str (workingImpactLevel level))] ++
      identifier).mapM (validated FactContent.firstError)
  let sections ← profile.sspRequiredItems.mapM fun i =>
    validated SectionContent.firstError { key := i.itemId, title := i.title, content := "", state := .empty }
  let controls ← profile.controls.mapM fun c =>
    validated ControlContent.firstError {
      controlId := c.controlId
      title := c.title
      implementationStatus := some "unknown"
      responsibility := some "unknown"
      state := .empty }
  validated RevisionContent.firstError { facts, sections, controls }

def createInitializedWorkspace (views : Views) (profileVersionId : Uuid) (level : Option String) (actor : Principal)
    (revisionId : Uuid) : Txn Unit := do
  let profileRow ← Txn.lift <|
    match (views 0).profile? profileVersionId with
    | none => raise .profileVersionNotFound "profile version not found"
    | some p => .ok p
  Txn.require (profileRow.status = .active) .profileVersionNotFound "profile version is not active"
  let profile ← Txn.lift (resolveStoredProfile profileRow (workingImpactLevel level))
  discard (createWorkspace profileVersionId actor.actorId)
  let content ← Txn.lift (initialContent profile (views 1).system level)
  discard (saveRevision {} content actor.actorId none revisionId)

/-! ## Edits of the current revision -/

section

variable (host : Host) (fresh : Nat → String)

def saveSectionEdit (views : Views) (expectedRevisionId : Uuid) (sectionKey text : String) (actor : Principal)
    (revisionId : Uuid) : Txn RevisionRow := do
  let revision ← Txn.lift (loadExactCurrentRevision views expectedRevisionId)
  let profile ← Txn.lift (resolvedProfileForRevision (views.after 2) revision)
  let policy := SelectedProfilePolicy.fromResolved profile
  Txn.lift (asWorkspaceProfileError (validateWorkspaceSectionContent host fresh sectionKey text policy))
  Txn.require (((policy.item? sectionKey).bind SspItemPolicy.structuredKind).isNone) .workspaceProfileValidation
    "structured SSP sections must be saved via dedicated confirm endpoints"
  let content ← Txn.lift revision.load
  let updated ← Txn.lift (editSection content sectionKey text)
  saveEditedRevision { revision := some revision } expectedRevisionId updated actor revisionId

def saveControlEdit (views : Views) (expectedRevisionId : Uuid) (controlId statement : String)
    (implementationStatus responsibility : Option String) (actor : Principal) (revisionId : Uuid) :
    Txn RevisionRow := do
  let revision ← Txn.lift (loadExactCurrentRevision views expectedRevisionId)
  let profile ← Txn.lift (resolvedProfileForRevision (views.after 2) revision)
  let policy := SelectedProfilePolicy.fromResolved profile
  Txn.lift (asWorkspaceProfileError (validateWorkspaceControlFields implementationStatus responsibility policy))
  Txn.lift (asWorkspaceProfileError (validateWorkspaceImplementationStatement statement policy))
  let content ← Txn.lift revision.load
  let updated ← Txn.lift (editControl content controlId statement implementationStatus responsibility)
  saveEditedRevision { revision := some revision } expectedRevisionId updated actor revisionId

def saveQuestionAnswer (views : Views) (expectedRevisionId questionId : Uuid) (answer : String) (actor : Principal)
    (revisionId : Uuid) : Txn RevisionRow := do
  let revision ← Txn.lift (loadExactCurrentRevision views expectedRevisionId)
  let content ← Txn.lift revision.load
  let updated ← Txn.lift (answerQuestion content questionId answer)
  saveEditedRevision { revision := some revision } expectedRevisionId updated actor revisionId

/-! ## Model output -/

/-- `_generation_context`: a read-only transaction of its own, ended before the model is called -/
def generationContext (views : Views) (expectedRevisionId : Uuid) : Except Err RevisionContent := do
  let revision ← loadExactCurrentRevision views expectedRevisionId
  let profileRow ← scalarOne (views 2).workspaceProfile
  let content ← revision.load
  discard (resolveStoredProfile profileRow (impactLevel content))
  return content

/-- `execution` is what the model returned, or how it failed -/
def generateWorkspaceDraft (views : Views) (expectedRevisionId : Uuid) (execution : Except Err GenerationResult)
    (actor : Principal) (revisionId : Uuid) : Txn RevisionRow := do
  let content ← Txn.lift (generationContext views expectedRevisionId)
  let result ← Txn.lift execution
  let updated ← Txn.lift (mergeGeneration host content result)
  discard (Txn.lift (loadExactCurrentRevision (views.after 3) expectedRevisionId))
  saveEditedRevision {} expectedRevisionId updated actor revisionId

def analyzeWorkspaceCategorization (views : Views) (expectedRevisionId : Uuid)
    (execution : Except Err (Option GeneratedCategorization)) (actor : Principal) (revisionId : Uuid) :
    Txn RevisionRow := do
  let content ← Txn.lift (generationContext views expectedRevisionId)
  let active := KeyedList.ofList FactContent.key (content.facts.filter fun f => f.state = .active)
  Txn.require (activeCategorizationStatus active ≠ some "confirmed") .workspaceEdit
    "categorization is already confirmed"
  match ← Txn.lift execution with
  | none => Txn.fail .sspGeneration "insufficient evidence to propose FIPS 199 categorization"
  | some proposal => do
    let updated ← Txn.lift (mergeCategorizationProposal host content proposal)
    discard (Txn.lift (loadExactCurrentRevision (views.after 3) expectedRevisionId))
    saveEditedRevision {} expectedRevisionId updated actor revisionId

def proposeAgentPatch (views : Views) (expectedRevisionId : Uuid) (execution : Except Err PatchResult)
    (patchId : Uuid) : Txn Unit := do
  discard (Txn.lift (generationContext views expectedRevisionId))
  let result ← Txn.lift execution
  discard (Txn.lift (loadExactCurrentRevision (views.after 3) expectedRevisionId))
  discard (Txn.lift (varchar 2000 result.changeSummary))
  Txn.lift (constraint (decide (1 ≤ result.changeSummary.length)) "ck_ssp_agent_patches_summary_min_length")
  let db ← Txn.get
  Txn.lift (constraint (db.patch? patchId).isNone "ssp_agent_patches_pkey")
  Txn.modify fun db => { db with patches := db.patches ++ [⟨patchId, expectedRevisionId, none, result, .proposed⟩] }

/-- the patch's row once it is resolved -/
def Db.setPatch (db : Db) (patchId : Uuid) (status : PatchState) (applied : Option Uuid) : Db :=
  { db with patches := db.patches.map fun p =>
      if p.patchId = patchId then { p with status := status, appliedRevisionId := applied } else p }

/-- `_load_patch_for_update`: the lock of the patch only keeps other requests from resolving it meanwhile -/
def loadPatchForUpdate (patchId : Uuid) : Txn PatchRow := do
  let db ← Txn.get
  match db.patch? patchId with
  | some p => return p
  | none => Txn.fail .agentPatchNotFound "agent patch not found"

def applyProposedPatch (views : Views) (patchId expectedRevisionId : Uuid) (actor : Principal) (revisionId : Uuid) :
    Txn Unit := do
  let patch ← loadPatchForUpdate patchId
  Txn.require (patch.status = .proposed) .agentPatchState "agent patch is not proposed"
  if patch.baseRevisionId ≠ expectedRevisionId then do
    Txn.modify fun db => db.setPatch patchId .stale none
    Txn.fail .staleWorkspaceRevision "agent patch base revision is stale"
  else do
    let revision ← Txn.lift (loadExactCurrentRevision views expectedRevisionId)
    let content ← Txn.lift revision.load
    let profile ← Txn.lift (resolvedProfileForRevision (views.after 2) revision)
    let policy := SelectedProfilePolicy.fromResolved profile
    let allowed := (content.facts.filter fun f => !f.evidence.isEmpty).map FactContent.key
    Txn.lift (asWorkspaceProfileError (validateAppliedPatchResult host fresh patch.operations policy allowed))
    let updated ← Txn.lift (applyAgentPatch host content patch.operations revision.version)
    let saved ← saveEditedRevision { revision := some revision } expectedRevisionId updated actor revisionId
    Txn.modify fun db => db.setPatch patchId .applied (some saved.revisionId)

def rejectProposedPatch (patchId : Uuid) : Txn Unit := do
  let patch ← loadPatchForUpdate patchId
  Txn.require (patch.status = .proposed) .agentPatchState "agent patch is not proposed"
  Txn.modify fun db => db.setPatch patchId .rejected none

end

/-! ## The profile of a workspace -/

/-- `workspace.profile_version_id = …` on a row as it was read: nothing is written when the value is the same -/
def setProfileVersion (seen : WorkspaceRow) (profileVersionId : Uuid) : Txn Unit :=
  if seen.profileVersionId = profileVersionId then pure ()
  else Txn.modify fun db =>
    { db with workspace := db.workspace.map fun w => { w with profileVersionId := profileVersionId } }

/-- `select(SspWorkspace)…with_for_update()` followed by `scalar_one()` -/
def lockWorkspace (held : Option WorkspaceRow) : Txn WorkspaceRow := do
  let db ← Txn.get
  let w ← Txn.lift (scalarOne db.workspace)
  return held.getD w

/-- the value of a fact, whatever its state -/
def factValue (content : RevisionContent) (key : String) : Option Json := (getFact key content.factDict).map FactContent.value

/-- the profile version with a key and a version; a comparison with a missing value holds of no row -/
def profileByKey (db : Db) (key version : Option Json) : Except Err (Option ProfileRow) :=
  match key, version with
  | none, _ | _, none | some .null, _ | _, some .null => .ok none
  | some (.str k), some (.str v) => .ok (db.profiles.find? fun p => p.profileKey = k ∧ p.version = v)
  | _, _ => raise .dataError "invalid input for query argument"

def restoreWorkspaceRevision (views : Views) (revisionId expectedRevisionId : Uuid) (actor : Principal)
    (newRevisionId : Uuid) : Txn RevisionRow := do
  discard (Txn.lift (loadExactCurrentRevision views expectedRevisionId))
  match (views 2).revision? revisionId with
  | none => Txn.fail .staleWorkspaceRevision "restore revision was not found"
  | some target => do
    let content ← Txn.lift target.load
    match ← Txn.lift (profileByKey (views 3) (factValue content "profile_id") (factValue content "profile_version")) with
    | none => Txn.fail .valueError "restored revision profile is unavailable"
    | some profileRow => do
      let workspace ← lockWorkspace none
      setProfileVersion workspace profileRow.profileVersionId
      saveEditedRevision { revision := some target } expectedRevisionId content actor newRevisionId

/-- what a migration decides under the lock: the profiles it compares and their difference -/
structure MigrationPlan where
  content : RevisionContent
  old : ResolvedProfile
  new : ResolvedProfile
  newRow : ProfileRow
deriving Repr

/-- the profile version that a migration may go to -/
def activeProfile (db : Db) (profileVersionId : Uuid) : Except Err ProfileRow :=
  match (db.profile? profileVersionId).filter fun p => p.status = .active with
  | none => raise .valueError "target profile version is not active"
  | some p => .ok p

/-- the checks of a migration, under the lock -/
def planMigration (current : RevisionRow) (workspace : WorkspaceRow) (profileVersionId : Uuid) (level : String)
    (db : Db) : Except Err MigrationPlan := do
  let oldRow ← scalarOne (db.profile? workspace.profileVersionId)
  let newRow ← activeProfile db profileVersionId
  let content ← current.load
  let old ← resolveStoredProfile oldRow (impactLevel content)
  let new ← resolveStoredProfile newRow level
  ensure (old.profileId = new.profileId) .valueError "profile migration requires the same profile_id"
  return ⟨content, old, new, newRow⟩

/-- create a new working revision for an explicit profile migration; a confirmation of the categorization passes the
workspace row that it holds and the facts that it writes -/
def migrateWorkspaceProfile (host : Host) (views : Views) (held : Option WorkspaceRow) (profileVersionId : Uuid)
    (level : String) (expectedRevisionId : Uuid) (categorization : Option (List FactContent)) (actor : Principal)
    (revisionId : Uuid) : Txn (RevisionRow × ProfileDiff) := do
  -- the SELECT of the workspace returns the row that is held
  let seen : Views := fun i => { views i with workspace := (views i).workspace.map held.getD }
  let current ← Txn.lift (loadExactCurrentRevision seen expectedRevisionId)
  let workspace ← lockWorkspace held
  Txn.require (workspace.currentRevisionId = some expectedRevisionId) .staleWorkspaceRevision
    "workspace revision changed"
  let db ← Txn.get
  let plan ← Txn.lift (planMigration current workspace profileVersionId level db)
  if categorization.isNone ∧ workspace.profileVersionId = profileVersionId ∧ impactLevel plan.content = level then
    return (current, impactProfileDiff plan.old plan.new)
  else do
    let diff ← Txn.lift (migrationDiff plan.old plan.new plan.newRow)
    let migrated ← Txn.lift (migrateContent host plan.content plan.old plan.new diff level categorization)
    setProfileVersion workspace profileVersionId
    let saved ← saveEditedRevision { workspace := held, revision := some current } expectedRevisionId migrated actor
      revisionId
    return (saved, diff)

/-- what the ISSO submits to confirm the categorization -/
structure CategorizationForm where
  confidentiality : String
  integrity : String
  availability : String
  confidentialityRationale : String
  integrityRationale : String
  availabilityRationale : String
  evidence : CategorizationEvidenceInput

def evidenceGone : Err :=
  { cls := .categorizationValidation
    detail := "Selected evidence is no longer in this workspace. Reload and re-select processed artifacts."
    field := "confidentiality_evidence" }

namespace CategorizationForm

/-- the checks of a submitted form; three SELECTs -/
def check (form : CategorizationForm) (views : Views) : Except Err CategorizationInput := do
  validateCategorizationImpacts form.confidentiality form.integrity form.availability
  let rationales ← validateCategorizationRationales form.confidentialityRationale form.integrityRationale
    form.availabilityRationale
  resolveWorkspaceEvidenceLinks (views 0) evidenceGone form.evidence.confidentiality
  resolveWorkspaceEvidenceLinks (views 1) evidenceGone form.evidence.integrity
  resolveWorkspaceEvidenceLinks (views 2) evidenceGone form.evidence.availability
  validateCategorizationEvidence form.evidence
  return ⟨form.confidentiality, form.integrity, form.availability, rationales, form.evidence⟩

def overall (form : CategorizationForm) : String :=
  highWaterMarkImpact form.confidentiality form.integrity form.availability

end CategorizationForm

/-- confirm FIPS 199 impacts and reconcile the selected control baseline -/
def saveSystemCategorization (host : Host) (views : Views) (expectedRevisionId : Uuid) (form : CategorizationForm)
    (actor : Principal) (revisionId : Uuid) : Txn (RevisionRow × ProfileDiff) := do
  let input ← Txn.lift (form.check views)
  let workspace ← Txn.lift (scalarOne (views 3).workspace)
  migrateWorkspaceProfile host (views.after 4) (some workspace) workspace.profileVersionId form.overall
    expectedRevisionId (some (buildConfirmedCategorizationFacts input)) actor revisionId

/-! ## Registers -/

def definitionEvidenceError : Err :=
  { cls := .valueError, detail := "system definition evidence must reference workspace artifacts" }

/-- the evidence of the entries, one SELECT for each -/
def resolveEach (views : Views) (e : Err) (links : List (List EvidenceLink)) : Except Err Unit :=
  links.zipIdx.forM fun p => resolveWorkspaceEvidenceLinks (views p.2) e p.1

/-- the checks of submitted registers, in the order in which the code makes them -/
def SystemDefinitionInput.check (i : SystemDefinitionInput) (views : Views) : Except Err Unit := do
  validateAuthorizationBoundary i.boundary
  resolveEach views definitionEvidenceError (i.components.map SystemComponent.evidence)
  validateComponentInventory i.components
  resolveEach (views.after i.components.length) definitionEvidenceError
    (i.interconnections.map Interconnection.evidence)
  validateInterconnectionRegister i.interconnections
  (i.boundary.diagramLinks.zipIdx).forM fun p =>
    ensure (p.1.artifactId ∈ (views (i.components.length + i.interconnections.length + p.2)).activeArtifactIds)
      .valueError definitionEvidenceError.detail

def saveSystemDefinition (views : Views) (expectedRevisionId : Uuid) (input : SystemDefinitionInput)
    (actor : Principal) (revisionId : Uuid) : Txn RevisionRow := do
  let revision ← Txn.lift (loadExactCurrentRevision views expectedRevisionId)
  let content ← Txn.lift revision.load
  Txn.lift (input.check (views.after 2))
  let updated ← Txn.lift (applySystemDefinitionSections content input)
  saveEditedRevision { revision := some revision } expectedRevisionId updated actor revisionId

/-- the artifact whose diagram is analyzed -/
def diagramArtifact (view : Db) (artifactId : Uuid) : Option ArtifactRow :=
  view.artifacts.find? fun a => a.evidenceArtifactId = artifactId ∧ a.removedAt = none

/-- the locator of the page or image that was read -/
def diagramLocator (detectedFormat : Option String) (pageNumber : Nat) :
    Except Err { l : List (String × Json) // l ≠ [] } :=
  if detectedFormat = some "pdf" then
    .ok ⟨[("page", .int pageNumber), ("kind", .str "rendered_page")], by simp⟩
  else if detectedFormat ∈ [some "png", some "jpeg", some "webp"] then
    .ok ⟨[("kind", .str "image"), ("page", .int pageNumber)], by simp⟩
  else raise .valueError "diagram analysis requires PNG, JPEG, WebP, or PDF evidence"

/-- `execution` is what the vision model returned, or how reading and analyzing the page failed -/
def analyzeWorkspaceDiagram (views : Views) (expectedRevisionId artifactId : Uuid) (pageNumber : Nat)
    (execution : Except Err DiagramAnalysisResult) (actor : Principal) (revisionId : Uuid) : Txn RevisionRow := do
  Txn.require (1 ≤ pageNumber) .valueError "page_number must be >= 1"
  let revision ← Txn.lift (loadExactCurrentRevision views expectedRevisionId)
  let content ← Txn.lift revision.load
  match diagramArtifact (views 2) artifactId with
  | none => Txn.fail .valueError "diagram evidence artifact not found"
  | some artifact => do
    Txn.require (artifact.status = .processed) .valueError "diagram evidence must be processed before analysis"
    let locator ← Txn.lift (diagramLocator artifact.detectedFormat pageNumber)
    let analysis ← Txn.lift execution
    -- the row of the revision is still held and is read again here
    let held ← Txn.lift (loadExactCurrentRevision (views.after 3) expectedRevisionId)
    Txn.require ((diagramArtifact (views 5) artifactId).any fun a =>
      a.status = .processed ∧ a.sha256 = artifact.sha256) .staleWorkspaceRevision "diagram evidence changed"
    let source : DiagramSource := ⟨⟨artifactId, locator.1, locator.2⟩, artifact.displayFilename, artifact.sha256⟩
    let updated ← Txn.lift (applySystemDefinitionProposal content (buildSystemDefinitionFromAnalysis analysis source)
      (proposalMetadataFromAnalysis analysis source expectedRevisionId))
    saveEditedRevision { revision := some held } expectedRevisionId updated actor revisionId

def informationTypeEvidenceError : Err :=
  { cls := .valueError, detail := "information type evidence must reference workspace artifacts" }

def saveInformationTypes (views : Views) (expectedRevisionId : Uuid) (mappings : List InformationTypeMapping)
    (actor : Principal) (revisionId : Uuid) : Txn RevisionRow := do
  let revision ← Txn.lift (loadExactCurrentRevision views expectedRevisionId)
  let content ← Txn.lift revision.load
  Txn.lift (resolveEach (views.after 2) informationTypeEvidenceError (mappings.map InformationTypeMapping.evidence))
  let updated ← Txn.lift (applyInformationTypeRegister content mappings)
  saveEditedRevision { revision := some revision } expectedRevisionId updated actor revisionId

/-! ## Evidence -/

/-- an uploaded file: `extraction` is what scanning, storing and reading it gave, or how that was refused -/
structure UploadedFile where
  filename : String
  mediaType : String
  sizeBytes : Nat
  sha256 : String
  extraction : Except Err Extraction

namespace UploadedFile

def check (host : Host) (maxSingleFileBytes : Nat) (f : UploadedFile) : Except Err Unit := do
  ensure (hasText f.filename) .evidenceUpload "filename cannot be empty"
  ensure ((strip f.filename).length ≤ 255) .evidenceUpload "filename exceeds 255 characters"
  ensure (host.lower (strip f.mediaType) ≠ "" ∧ (host.lower (strip f.mediaType)).length ≤ 255) .evidenceUpload
    "media_type is invalid"
  ensure (0 < f.sizeBytes) .evidenceUpload "evidence file cannot be empty"
  ensure (f.sizeBytes ≤ maxSingleFileBytes) .evidenceUpload "evidence file exceeds configured limit"

def artifact (host : Host) (f : UploadedFile) (artifactId : Uuid) (e : Extraction) : ArtifactRow where
  evidenceArtifactId := artifactId
  displayFilename := strip f.filename
  mediaType := host.lower (strip f.mediaType)
  detectedFormat := e.detectedFormat
  sha256 := f.sha256
  status := if e.failed then .failed else .processed
  extractedSegments := (e.extractedSegments artifactId).map ExtractedSegment.jsonb
  removedAt := none

end UploadedFile

/-- the row of an artifact, flushed -/
def artifactRow (db : Db) (a : ArtifactRow) : Except Err Unit := do
  discard (varchar 255 a.displayFilename)
  discard (varchar 255 a.mediaType)
  a.extractedSegments.forM fun s => jsonColumn (.arr [.str s.text, .obj s.locator])
  constraint (decide (a.evidenceArtifactId ∉ db.artifacts.map ArtifactRow.evidenceArtifactId))
    "ssp_evidence_artifacts_pkey"
  constraint (decide (a.sha256 ∉ db.artifacts.map ArtifactRow.sha256)) "uq_ssp_evidence_artifacts_workspace_sha256"

def Db.setRemovedAt (db : Db) (artifactId : Uuid) (removedAt : Option Nat) : Db :=
  { db with artifacts := db.artifacts.map fun a =>
      if a.evidenceArtifactId = artifactId then { a with removedAt } else a }

/-- the facts filed into the current revision, when there are any -/
def saveExtractedFacts (revision : RevisionRow) (facts : List FactContent) (actor : Principal) (revisionId : Uuid) :
    Txn Unit :=
  if facts.isEmpty then pure ()
  else do
    let current ← Txn.lift revision.load
    discard (saveRevision {} (addExtractedFacts current facts) actor.actorId (some revision.revisionId) revisionId)

/-- the workspace and its current revision, read under the lock -/
def lockCurrentRevision (expectedRevisionId : Uuid) : Txn RevisionRow := do
  let db ← Txn.get
  Txn.require db.workspace.isSome .workspaceNotFound "workspace not found"
  Txn.require (db.currentRevisionId = some expectedRevisionId) .staleWorkspaceRevision "workspace revision changed"
  match db.revision? expectedRevisionId with
  | none => Txn.fail .workspaceNotFound "workspace revision not found"
  | some r => return r

/-- the read-only transaction that precedes scanning and extraction -/
def evidenceSnapshot (views : Views) (expectedRevisionId : Uuid) : Except Err Unit := do
  ensure (views 0).workspace.isSome .workspaceNotFound "workspace not found"
  ensure ((views 0).currentRevisionId = some expectedRevisionId) .staleWorkspaceRevision "workspace revision changed"
  match (views 1).revision? expectedRevisionId with
  | none => raise .workspaceNotFound "workspace revision not found"
  | some r => discard r.load

/-- a file that the workspace already has: a removed one comes back with its facts -/
def restoreDuplicate (duplicate : ArtifactRow) (revision : RevisionRow) (actor : Principal) (revisionId : Uuid) :
    Txn Unit :=
  if duplicate.removedAt.isNone then pure ()
  else do
    Txn.modify fun db => db.setRemovedAt duplicate.evidenceArtifactId none
    let facts ← Txn.lift
      (duplicate.extractedSegments.mapM (ExtractedSegment.fact duplicate.evidenceArtifactId))
    saveExtractedFacts revision facts actor revisionId

/-- store, extract, and revision-bind one file -/
def ingestWorkspaceEvidence (host : Host) (maxSingleFileBytes : Nat) (views : Views) (expectedRevisionId : Uuid)
    (file : UploadedFile) (artifactId : Uuid) (actor : Principal) (revisionId : Uuid) : Txn Unit := do
  Txn.lift (file.check host maxSingleFileBytes)
  Txn.lift (evidenceSnapshot views expectedRevisionId)
  let extraction ← Txn.lift file.extraction
  let facts ← Txn.lift ((extraction.extractedSegments artifactId).mapM (ExtractedSegment.fact artifactId))
  let revision ← lockCurrentRevision expectedRevisionId
  let db ← Txn.get
  match db.artifacts.find? fun a => a.sha256 = file.sha256 with
  | some duplicate => restoreDuplicate duplicate revision actor revisionId
  | none => do
    let artifact := file.artifact host artifactId extraction
    Txn.lift (artifactRow db artifact)
    Txn.modify fun db => { db with artifacts := db.artifacts ++ [artifact] }
    discard (Txn.lift revision.load)
    saveExtractedFacts revision facts actor revisionId

/-- hide one artifact and remove its extracted facts before analysis begins -/
def removeWorkspaceEvidence (artifactId expectedRevisionId : Uuid) (actor : Principal) (now : Nat)
    (revisionId : Uuid) : Txn Unit := do
  let revision ← lockCurrentRevision expectedRevisionId
  let content ← Txn.lift revision.load
  let db ← Txn.get
  Txn.require (!analysisStarted content ∧ db.patches = []) .evidenceRemoval
    "evidence can be removed only before generation or agent analysis"
  Txn.require (artifactId ∈ db.activeArtifactIds) .workspaceNotFound "active evidence artifact not found"
  discard (saveRevision {} (removeArtifact content artifactId) actor.actorId (some expectedRevisionId) revisionId)
  Txn.modify fun db => db.setRemovedAt artifactId (some now)

/-! ## The envelope and the approval gate -/

/-- what the envelope computes from the persisted records -/
structure Envelope where
  satisfiedRequirementIds : List String
  metrics : WorkspaceMetrics
  impactLevel : Option String
  provisionalImpactLevel : String
deriving Repr

section

variable (host : Host) (fresh : Nat → String)

/-- the row of the workspace -/
def loadWorkspace (view : Db) : Except Err WorkspaceRow :=
  match view.workspace with
  | none => raise .workspaceNotFound "workspace not found"
  | some w => .ok w

/-- the content of the current revision, empty when there is none -/
def currentContent (view : Db) : Option Uuid → Except Err RevisionContent
  | none => .ok {}
  | some id => scalarOne (view.revision? id) >>= RevisionRow.load

/-- one SELECT of the workspace with its profile, one of the current revision, one of the evidence -/
def loadWorkspaceEnvelope (views : Views) : Except Err Envelope := do
  let workspace ← loadWorkspace (views 0)
  let profileRow ← scalarOne ((views 0).profile? workspace.profileVersionId)
  let content ← currentContent (views 1) workspace.currentRevisionId
  let requirements ← metricRequirements profileRow
  let facts ← effectiveMetricFacts host fresh content requirements
  let evidence := ((views 2).artifacts.filter fun a => a.removedAt.isNone).map fun a =>
    (⟨a.status, a.mediaType⟩ : EvidenceMetricRecord)
  discard (resolveStoredProfile profileRow (impactLevel content))
  return {
    satisfiedRequirementIds := satisfiedRequirementIds requirements facts
    metrics := calculateWorkspaceMetrics host evidence facts requirements content.controls content.questions
      (contentEvidenceIds content).length
    impactLevel := confirmedImpactLevel content
    provisionalImpactLevel := impactLevel content }

/-- the statuses that an approval asks for, in order -/
def checkConfirmations (content : RevisionContent) : Except Err Unit := do
  let facts := KeyedList.ofList FactContent.key (content.facts.filter fun f => f.state = .active)
  ensure (activeCategorizationStatus facts ≠ some "stale") .workspaceNotReviewable
    "system categorization must be re-confirmed before approval"
  ensure (activeCategorizationStatus facts = some "confirmed") .workspaceNotReviewable
    "system categorization must be explicitly confirmed before approval"
  ensure (activeSystemDefinitionStatus facts ≠ some "stale") .workspaceNotReviewable
    "system definition must be re-confirmed before approval"
  ensure (activeSystemDefinitionStatus facts = some "confirmed") .workspaceNotReviewable
    "system definition must be explicitly confirmed before approval"
  ensure (activeInformationTypesStatus facts ≠ some "stale") .workspaceNotReviewable
    "information type mapping must be re-confirmed before approval"
  ensure (activeInformationTypesStatus facts = some "confirmed") .workspaceNotReviewable
    "information type mapping must be explicitly confirmed before approval"

/-- unremoved evidence that is still uploaded or processing -/
def nonterminalEvidence (db : Db) : Bool :=
  db.artifacts.any fun a => a.removedAt.isNone && (a.status = .uploaded || a.status = .processing)

/-- the revision to approve -/
def reviewedRevision (view : Db) (revisionId : Uuid) : Except Err RevisionRow :=
  match view.revision? revisionId with
  | none => raise .workspaceNotReviewable "current revision is unavailable"
  | some r => .ok r

/-- the gate of an approval: unlocked SELECTs of the revision, the profile, the evidence and the envelope -/
def approvalGate (views : Views) (revisionId : Uuid) : Except Err RevisionRow := do
  let revision ← reviewedRevision (views 0) revisionId
  let content ← revision.load
  checkConfirmations content
  let profileRow ← scalarOne (views 1).workspaceProfile
  let profile ← resolveStoredProfile profileRow (impactLevel content)
  let requirements ← metricRequirements profileRow
  let targets := openTargets content
  let envelope ← loadWorkspaceEnvelope host fresh (views.after 3)
  let policy := SelectedProfilePolicy.fromResolved profile
  ensure (!content.controls.any (agentControlBlocksApproval policy.controlResponse.evidenceRequiredForAgentStatement))
    .workspaceNotReviewable "workspace has ungrounded agent control metadata"
  ensure (!nonterminalEvidence (views 2) ∧
      (∀ r ∈ requirements, r.required = true →
        r.key ∈ envelope.satisfiedRequirementIds ∨ (TargetType.sspSection, r.key) ∈ targets) ∧
      controlsHaveTrackedResponses content.controls targets
        policy.implementationStatementRules.requireStatementGapOrQuestionBeforeApproval)
    .workspaceNotReviewable "workspace has untracked required information gaps"
  return revision

def approveWorkspaceRevision (views : Views) (revisionId : Uuid) (actor : Principal) (now : Nat)
    (approvalSnapshotId : Uuid) : Txn ApprovalRow := do
  let revision ← Txn.lift (approvalGate host fresh views revisionId)
  approveCurrentRevision { revision := some revision } revisionId actor.actorId now approvalSnapshotId

end

end AtoService.Workspace
