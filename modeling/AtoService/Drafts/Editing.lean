/-
The draft of one package revision: intake writes it, users edit it, patches of the revision's metadata reshape it, and the
confirmation seals it.

Each request runs in a transaction under the row lock of the revision, so requests follow one another; one that raises
leaves everything as it was. What is checked before the revision is read (the digest of the request, roles and the record of
the idempotency key) and after it is written (the audit event and the record of the response) is an argument of the request,
as are the validations of documents; `json.loads(json.dumps(document))` copies.
-/
import AtoService.Drafts.Recording
import AtoService.Intake.Queue
import AtoService.Review.Revisions

namespace AtoService.Drafts

open Results Json
open AtoService.Intake (PackageRevisionStatus)

/-! ## Rows -/

structure PackageRevision where
  status : PackageRevisionStatus
  profileId : Option String
  certificationClass : Option String
  impactLevel : Option String
  dataOrigin : Option String
  sensitivity : Option String
  revisionVersion : Nat
deriving DecidableEq, Repr

structure PackageRevisionDraft where
  document : Json
  fieldProvenance : Fields
  /-- the value that was written with each entry of field provenance -/
  recorded : Fields
  updatedBy : String

structure SealedPackageContent where
  document : Json
  fieldProvenance : Fields
  recorded : Fields
  contentSha256 : String
  sealedBy : String

structure State where
  revision : PackageRevision
  systemDisplayName : String
  draft : Option PackageRevisionDraft
  sealedContent : Option SealedPackageContent

inductive DraftError where
  | intake (e : IntakeError)
  | etag (e : Review.ReviewError)
  | ifMatchRequired
  | illegalStateTransition
  | draftNotFound
  | patchMetadataState
  /-- what a check that is an argument raises -/
  | other (message : String)
deriving DecidableEq, Repr

/-- the checks of documents and of the revision's metadata -/
structure Checks where
  intake : Services
  /-- `validate_draft_profile_match`, the profile's combinations of fields and the schema -/
  validateDraft : Option String → Json → Except DraftError Unit
  /-- `validate_draft_ready_to_seal` -/
  readyToSeal : PackageRevision → Json → Except DraftError Unit
  /-- `validate_patch_metadata_boundaries` -/
  patchBoundaries : PackageRevision → PackageRevision → Except DraftError Unit
  /-- `require_complete_revision_metadata` -/
  completeMetadata : PackageRevision → Except DraftError Unit
  /-- the document has no blocker of its export -/
  exportReady : PackageRevision → Json → Except DraftError Unit
  /-- `compute_sealed_document_digest` -/
  sealedDigest : Json → Except DraftError String
  /-- what remains to do when the draft is missing: no fact proposal is pending -/
  noPendingProposals : Except DraftError Unit

structure Request where
  actorId : String
  ifMatch : Option String
  /-- whether the key of the request has a record already, unless a check before that raises -/
  admission : Except DraftError Bool
  /-- the audit event and the record of the response -/
  closing : PackageRevision → Except DraftError Unit

/-! ## Profiles -/

def allowedDraftImpactLevels : List String := ["low", "moderate", "high"]

def expectedAuthorizationPath (profileId : String) : String :=
  if profileId = "fedramp_20x_program" ∨ profileId = "fedramp_rev5_transition" then "fedramp" else "agency"

def textMember (key : String) (fs : Fields) : Option String := (member key fs).bind asStr

/-- `system.get(key) is None` -/
def isNone (o : Option Json) : Bool :=
  match o with
  | none => true
  | some .null => true
  | some _ => false

/-- the impact level that a profile makes of a section -/
def coerceImpactLevel (profileId : Option String) (revisionImpactLevel : Option String) (section' : Fields) : Fields :=
  if profileId = some "fedramp_20x_program" then putMember "impact_level" .null section'
  else
    match revisionImpactLevel with
    | some level =>
      if isNone (member "impact_level" section') ∧ level ∈ allowedDraftImpactLevels then
        putMember "impact_level" (.str level) section'
      else section'
    | none => section'

def normalizeDraftDocumentForProfile (document : Json) (profileId : Option String)
    (revisionImpactLevel : Option String) : Json :=
  match profileId, document with
  | some profileId, .obj fs =>
    let profileId := ((((member "package" fs).bind asObj).bind (textMember "profile_id"))).getD profileId
    match (member "system" fs).bind asObj with
    | none => document
    | some system =>
      .obj (putMember "system" (.obj (putMember "authorization_path" (.str (expectedAuthorizationPath profileId))
        (coerceImpactLevel (some profileId) revisionImpactLevel system))) fs)
  | _, _ => document

def shellPackage : Fields := [("title", .str ""), ("prepared_for", .str ""), ("reporting_period", .null)]

def shellSystem (profileId : Option String) (displayName : String) : Fields :=
  [("display_name", .str displayName), ("authorization_boundary", .str ""), ("mission_summary", .str ""),
    ("impact_level", .null), ("authorization_path", .str (expectedAuthorizationPath (profileId.getD "")))]

/-- the section of a profile in its shell -/
def shellSection : String → Json
  | "fedramp_20x" => .obj [("cpo", .obj []), ("sdr", .obj []), ("ocr", .obj []), ("scg", .obj []), ("ksi_methods", .arr []),
      ("metric_history", .arr []), ("independent_assessment", .obj [])]
  | "fedramp_rev5_transition" => .obj [("ssp", .obj []), ("sap", .obj []), ("sar", .obj []), ("poam", .obj []),
      ("oscal", .obj [])]
  | _ => .obj [("security_plan_sections", .obj [])]

/-- the defaults of a shell, where a section has nothing, null or an empty text -/
def fillDefaults (defaults section' : Fields) : Fields :=
  defaults.foldl (fun fs p =>
    if (match member p.1 fs with | none => true | some .null => true | some (.str s) => s = "" | some _ => false)
    then putMember p.1 p.2 fs else fs) section'

def objectOrEmpty (o : Option Json) : Fields := (o.bind asObj).getD []

/-- the section of each profile, with its profile -/
def profileSections : List (String × String) :=
  [("fedramp_20x", "fedramp_20x_program"), ("fedramp_rev5_transition", "fedramp_rev5_transition"),
    ("fisma_agency_security", "fisma_agency_security")]

def applyProfileSection (profileId : Option String) (fs : Fields) (p : String × String) : Fields :=
  if profileId = some p.2 then
    match member p.1 fs with
    | some (.obj existing) => putMember p.1 (.obj existing) fs
    | _ => putMember p.1 (shellSection p.1) fs
  else putMember p.1 .null fs

def profileIdJson (profileId : Option String) : Json := (profileId.map Json.str).getD .null

def applyProfileShellToDraft (document : Json) (profileId : Option String) (displayName : String)
    (revisionImpactLevel : Option String) : Json :=
  match document with
  | .obj fs =>
    let package := fillDefaults shellPackage
      (putMember "profile_id" (profileIdJson profileId) (objectOrEmpty (member "package" fs)))
    let fs := putMember "package" (.obj package) fs
    let system := coerceImpactLevel profileId revisionImpactLevel
      (fillDefaults (shellSystem profileId displayName) (objectOrEmpty (member "system" fs)))
    let system := putMember "authorization_path" (.str (expectedAuthorizationPath (profileId.getD ""))) system
    .obj (profileSections.foldl (applyProfileSection profileId) (putMember "system" (.obj system) fs))
  | v => v

/-! ## Operations -/

section

variable (checks : Checks)

def requireStatus (s : State) (statuses : List PackageRevisionStatus) : Except DraftError Unit :=
  Results.ensure (s.revision.status ∈ statuses) .illegalStateTransition

/-- `persist_intake_merge_draft` -/
def persistIntakeMergeDraft (s : State) (r : Recording) (actorId : String) : Except DraftError State := do
  requireStatus s [.extracting, .awaitingConfirmation]
  let document := normalizeDraftDocumentForProfile r.document s.revision.profileId s.revision.impactLevel
  checks.validateDraft s.revision.profileId document
  return { s with draft := some ⟨document, r.fieldProvenance, r.recorded, actorId⟩ }

/-- the commit of an extraction that succeeded -/
def commitSuccessfulExtract (s : State) (f : IntakeFindings) (actorId : String) : Except DraftError State := do
  Results.ensure (s.revision.status = .extracting) .illegalStateTransition
  let r ← (intakeDraft checks.intake f).mapError .intake
  let s ← persistIntakeMergeDraft checks s r actorId
  return { s with
    revision := { s.revision with status := .awaitingConfirmation, revisionVersion := s.revision.revisionVersion + 1 } }

/-- the checks that requests begin with; whether the request is a replay -/
def beginRequest (r : Request) : Except DraftError Bool := do
  Results.ensure (r.ifMatch.isSome = true) .ifMatchRequired
  r.admission

def assertIfMatch (r : Request) (s : State) : Except DraftError Unit :=
  (Review.assertIfMatch r.ifMatch s.revision.revisionVersion).mapError .etag

/-- what a saved document is checked for: a revision without a profile has a draft, but none that can be sealed -/
def validateSaved (s : State) (document : Json) : Except DraftError Unit :=
  if s.revision.profileId = none then checks.validateDraft none document else checks.readyToSeal s.revision document

def savePackageRevisionDraft (s : State) (r : Request) (document : Json) : Except DraftError State := do
  if ← beginRequest r then return s
  else
    requireStatus s [.awaitingConfirmation]
    let draft ← orRaise s.draft .draftNotFound
    assertIfMatch r s
    let document := normalizeDraftDocumentForProfile document s.revision.profileId s.revision.impactLevel
    validateSaved checks s document
    let revision := { s.revision with revisionVersion := s.revision.revisionVersion + 1 }
    r.closing revision
    return { s with revision, draft := some { draft with document, updatedBy := r.actorId } }

/-- a patch sets the fields that it provides -/
structure Patch where
  profileId : Option (Option String)
  certificationClass : Option (Option String)
  impactLevel : Option (Option String)
  dataOrigin : Option (Option String)
  sensitivity : Option (Option String)
deriving DecidableEq, Repr

def Patch.apply (p : Patch) (revision : PackageRevision) : PackageRevision :=
  { revision with
    profileId := p.profileId.getD revision.profileId
    certificationClass := p.certificationClass.getD revision.certificationClass
    impactLevel := p.impactLevel.getD revision.impactLevel
    dataOrigin := p.dataOrigin.getD revision.dataOrigin
    sensitivity := p.sensitivity.getD revision.sensitivity }

/-- the patch changes what the shell of a draft depends on -/
def Patch.reshapes (p : Patch) : Bool := p.profileId.isSome || p.certificationClass.isSome || p.impactLevel.isSome

/-- the draft in the shell of the revision as it is now -/
def reshaped (s : State) (draft : PackageRevisionDraft) : PackageRevisionDraft :=
  { draft with
    document := applyProfileShellToDraft draft.document s.revision.profileId s.systemDisplayName s.revision.impactLevel }

def validateReshaped (s : State) (draft : PackageRevisionDraft) : Except DraftError Unit :=
  if s.revision.profileId = none then .ok () else checks.validateDraft s.revision.profileId draft.document

def synchronizeDraftAfterMetadataPatch (s : State) (p : Patch) : Except DraftError State := do
  if p.reshapes = false then return s
  else
    match s.draft with
    | none => return s
    | some draft => do
      validateReshaped checks s (reshaped s draft)
      return { s with draft := some (reshaped s draft) }

def patchPackageRevisionMetadata (s : State) (r : Request) (p : Patch) : Except DraftError State := do
  if ← beginRequest r then return s
  else
    assertIfMatch r s
    Results.ensure (s.revision.status ∈ [.uploading, .scanning, .extracting, .awaitingConfirmation]) .patchMetadataState
    checks.patchBoundaries s.revision (p.apply s.revision)
    let s ← synchronizeDraftAfterMetadataPatch checks { s with revision := p.apply s.revision } p
    let revision := { s.revision with revisionVersion := s.revision.revisionVersion + 1 }
    r.closing revision
    return { s with revision }

def sealPackageRevisionDraft (s : State) (draft : PackageRevisionDraft) (actorId : String) : Except DraftError State := do
  let document := normalizeDraftDocumentForProfile draft.document s.revision.profileId s.revision.impactLevel
  checks.readyToSeal s.revision document
  let contentSha256 ← checks.sealedDigest document
  return { s with
    draft := some { draft with document }
    sealedContent := some ⟨document, draft.fieldProvenance, draft.recorded, contentSha256, actorId⟩ }

/-- a revision without a draft is confirmed as its fact proposals stand -/
def sealDraftIfAny (s : State) (actorId : String) : Except DraftError State :=
  match s.draft with
  | none => do
    checks.noPendingProposals
    return s
  | some draft => do
    checks.exportReady s.revision draft.document
    sealPackageRevisionDraft checks s draft actorId

def confirmPackageRevision (s : State) (r : Request) : Except DraftError State := do
  if ← beginRequest r then return s
  else
    assertIfMatch r s
    requireStatus s [.awaitingConfirmation]
    checks.completeMetadata s.revision
    let s ← sealDraftIfAny checks s r.actorId
    let revision := { s.revision with status := .ready, revisionVersion := s.revision.revisionVersion + 1 }
    r.closing revision
    return { s with revision }

inductive Op where
  | extract (f : IntakeFindings) (actorId : String)
  | save (r : Request) (document : Json)
  | patch (r : Request) (p : Patch)
  | confirm (r : Request)

def perform (s : State) : Op → Except DraftError State
  | .extract f actorId => commitSuccessfulExtract checks s f actorId
  | .save r document => savePackageRevisionDraft checks s r document
  | .patch r p => patchPackageRevisionMetadata checks s r p
  | .confirm r => confirmPackageRevision checks s r

/-- an operation that raises leaves the state as it was -/
def step (s : State) (op : Op) : State := (perform checks s op).toOption.getD s

end

end AtoService.Drafts
