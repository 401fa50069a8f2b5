/-
REDUCE: the proposals of the MAP steps are merged into a draft document, one target at a time.

Proposals are sorted, and grouped by target. A group is rejected, leaves an unresolved conflict, or is merged: its value is
set where the document has none, and its sources become the provenance of the target. Targets of the catalog that nobody
proposed a value for, and that are still empty, are gaps.

Values are copied here. Python shares them, which shows only where one target leads into another; no target of a catalog
does. What `jsonschema` says of a step and of a document is an argument.
-/
import AtoService.Audit.Event
import AtoService.Drafts.Recording
import AtoService.Lib.Sha
import AtoService.Lib.StrictPointer
import AtoService.Workspace.Contracts

namespace AtoService.IntakeMerge

open Json Results
open AtoService.Drafts (Fields startsWith escapesOk isUnfilled Same)
open AtoService.Workspace (Uuid)

/-! ## Errors and arguments -/

inductive ReduceError where
  | merge (message errorCode : String)
  | draftBuild (message : String)
  /-- any other exception -/
  | raised (message : String)
deriving DecidableEq, Repr

/-- `IntakeMergeError(message, error_code="intake_merge_invalid_input")` -/
def invalidInput (message : String) : ReduceError := .merge message "intake_merge_invalid_input"

structure Schemas where
  /-- the message of the first error of `_map_step_validator` -/
  step : Json → Option String
  /-- the message of the first error of the validator of draft documents -/
  draft : Json → Option String
  /-- `str.casefold` -/
  casefold : String → String

/-! ## Targets -/

inductive ValueKind where
  | string | nullableString | enum
deriving DecidableEq, Repr

structure TargetSpec where
  pointer : String
  valueKind : ValueKind
  maxLength : Option Nat := none
  enumValues : Option (List String) := none
deriving DecidableEq, Repr

def fismaTargets : List TargetSpec :=
  [{ pointer := "/package/title", valueKind := .string, maxLength := some 500 },
    { pointer := "/package/prepared_for", valueKind := .string, maxLength := some 500 },
    { pointer := "/package/reporting_period", valueKind := .nullableString, maxLength := some 128 },
    { pointer := "/system/authorization_boundary", valueKind := .string, maxLength := some 8000 },
    { pointer := "/system/mission_summary", valueKind := .string, maxLength := some 8000 },
    { pointer := "/system/impact_level", valueKind := .enum, enumValues := some ["low", "moderate", "high"] },
    { pointer := "/system/authorization_path", valueKind := .string, maxLength := some 500 }]

def fedramp20xTargets : List TargetSpec :=
  [{ pointer := "/package/title", valueKind := .string, maxLength := some 500 },
    { pointer := "/package/prepared_for", valueKind := .string, maxLength := some 500 },
    { pointer := "/package/reporting_period", valueKind := .nullableString, maxLength := some 128 },
    { pointer := "/system/authorization_boundary", valueKind := .string, maxLength := some 8000 },
    { pointer := "/system/mission_summary", valueKind := .string, maxLength := some 8000 },
    { pointer := "/system/authorization_path", valueKind := .string, maxLength := some 500 }]

/-- the same targets as those of the 20x program -/
def fedrampRev5Targets : List TargetSpec := fedramp20xTargets

/-- nothing where it raises `ValueError` -/
def catalogForProfile (profileId : String) : Option (List TargetSpec) :=
  [("fisma_agency_security", fismaTargets), ("fedramp_20x_program", fedramp20xTargets),
    ("fedramp_rev5_transition", fedrampRev5Targets)].lookup profileId

def targetSpecForPointer (catalog : List TargetSpec) (pointer : String) : Option TargetSpec :=
  catalog.find? fun spec => spec.pointer = pointer

def prohibitedTargetPrefixes : List String :=
  ["/assessor_inputs", "/findings", "/poam_candidates", "/fedramp_20x/independent_assessment",
    "/fedramp_rev5_transition/sar", "/package/profile_id"]

def isProhibitedTarget (pointer : String) : Bool :=
  prohibitedTargetPrefixes.any fun start => pointer = start || startsWith pointer (start ++ "/")

def isTargetAllowed (catalog : List TargetSpec) (pointer : String) : Bool :=
  !isProhibitedTarget pointer && (targetSpecForPointer catalog pointer).isSome

def withinLength (maxLength : Option Nat) (s : String) : Bool :=
  match maxLength with
  | some n => (Py.chars s).length ≤ n
  | none => true

/-- `_validate_against_target_spec` passes -/
def meetsTargetSpec (spec : TargetSpec) (proposedValue : Json) : Bool :=
  match spec.valueKind, proposedValue with
  | .nullableString, .null => true
  | .nullableString, .str s => withinLength spec.maxLength s
  | .nullableString, _ => false
  | .enum, .str s =>
    match spec.enumValues with
    | some values => values.isEmpty || values.contains s
    | none => true
  | .enum, _ => false
  | .string, .str s => withinLength spec.maxLength s
  | .string, _ => false

/-! ## Proposals -/

structure IntakeMapProposal where
  targetPointer : String
  proposedValue : Json
  evidenceKind : String
  sourceArtifactId : Uuid
  sourceSha256 : String
  sourceLocator : Fields
  modelStepId : Uuid
  confidence : String
  chunkId : Option String
  segmentIndex : Option Int
  stepKey : String

structure IntakeMapStepResult where
  stepKey : String
  contextComplete : Bool
  proposals : List IntakeMapProposal

/-- `stable_json_dumps` -/
def stableJsonDumps (value : Json) : String := String.ofList (value.dumps .compact)

/-- `f"{n:09d}"` -/
def nineDigits (n : Int) : String :=
  let sign := if n < 0 then ['-'] else []
  let ds := digits n.natAbs
  String.ofList (sign ++ List.replicate (9 - sign.length - ds.length) '0' ++ ds)

def proposalSortKey (p : IntakeMapProposal) : List String :=
  [p.targetPointer, p.stepKey, p.sourceArtifactId.str, p.chunkId.getD "",
    match p.segmentIndex with
    | none => ""
    | some n => nineDigits n,
    p.modelStepId.str, stableJsonDumps p.proposedValue]

def byKey {α : Type} (key : α → List String) (xs : List α) : List α := xs.insertionSort fun a b => key a ≤ key b

def sortedProposals (steps : List IntakeMapStepResult) : List IntakeMapProposal :=
  byKey proposalSortKey (steps.flatMap IntakeMapStepResult.proposals)

def proposalIdentity (p : IntakeMapProposal) : String := String.intercalate "|" (proposalSortKey p)

def conflictId (targetPointer : String) (entries : List IntakeMapProposal) : String :=
  Sha.sha256Hex (Json.dumps .compact (.obj [("target_pointer", .str targetPointer),
    ("candidates", .arr (entries.map fun entry => .str (proposalIdentity entry)))]))

/-- `fields.setdefault(key, value)` -/
def setDefault (key : String) (value : Json) (fields : Fields) : Fields :=
  if (member key fields).isSome then fields else fields ++ [(key, value)]

def setDefault? (key : String) (value : Option Json) (fields : Fields) : Fields :=
  match value with
  | some value => setDefault key value fields
  | none => fields

def provenanceFromProposal (p : IntakeMapProposal) : Fields :=
  [("source_artifact_id", .str p.sourceArtifactId.str), ("source_sha256", .str p.sourceSha256),
    ("source_locator", .obj (setDefault? "segment_index" (p.segmentIndex.map Json.int)
      (setDefault? "chunk_id" (p.chunkId.map Json.str)
        (setDefault "evidence_kind" (.str p.evidenceKind) p.sourceLocator)))),
    ("extraction_method", .str "llm_normalize"), ("model_step_id", .str p.modelStepId.str)]

def candidateFromProposal (p : IntakeMapProposal) : Fields :=
  [("value", p.proposedValue), ("source_artifact_id", .str p.sourceArtifactId.str),
    ("source_sha256", .str p.sourceSha256), ("source_locator", .obj p.sourceLocator),
    ("model_step_id", .str p.modelStepId.str), ("step_key", .str p.stepKey), ("evidence_kind", .str p.evidenceKind),
    ("confidence", .str p.confidence)] ++
    (p.chunkId.map fun c => ("chunk_id", Json.str c)).toList ++
    (p.segmentIndex.map fun n => ("segment_index", Json.int n)).toList

def candidateFromExisting (targetPointer : String) (value : Json) (provenance : Option Json) : Fields :=
  [("value", value), ("source_kind", .str "deterministic_base"), ("target_pointer", .str targetPointer)] ++
    match provenance with
    | some (.obj entry) => ["source_artifact_id", "source_sha256", "source_locator", "extraction_method",
        "model_step_id"].filterMap fun key => (member key entry).map fun v => (key, v)
    | _ => []

/-- the text of a member that `_provenance_from_proposal` has written -/
def entryText (key : String) (entry : Fields) : String := ((member key entry).bind asStr).getD ""

def provenanceSortKey (entry : Fields) : List String :=
  let locator := ((member "source_locator" entry).bind asObj).getD []
  [entryText "source_artifact_id" entry, entryText "model_step_id" entry, entryText "chunk_id" locator,
    match member "segment_index" locator with
    | some (.int n) => nineDigits n
    | some (.bool b) => nineDigits (if b then 1 else 0)
    | _ => ""]

/-- the first of the sorted entries, and the rest -/
def selectPrimaryProvenance (entries : List Fields) : Option (Fields × List Fields) :=
  match byKey provenanceSortKey entries with
  | [] => none
  | primary :: supplements => some (primary, supplements)

/-! ## Merging -/

structure IntakeFieldConflict where
  conflictId : String
  targetPointer : String
  resolution : String
  candidates : List Fields

structure IntakeGap where
  targetPointer : String
  reason : String
  stepKey : Option String := none
deriving DecidableEq, Repr

/-- the structures that the loop over the targets updates -/
structure Merging where
  document : Json
  provenance : Fields
  supplements : List (String × List Fields) := []
  conflicts : List IntakeFieldConflict := []
  mergedTargets : List String := []
  rejectedProposals : List String := []
  /-- a target has replaced the extensions -/
  detached : Bool := false

/-- `value_at_json_pointer`, with `None` for a missing value; the `ValueError` of an index is not caught -/
def currentValue (document : Json) (pointer : String) : Except ReduceError (Option Json) :=
  if pointer = "" then .ok (some document)
  else match readAt (pointerParts pointer) document with
    | .ok v => .ok (some v)
    | .error .missing => .ok none
    | .error .notANumber => .error (.raised "invalid literal for int()")

def setJsonPointer (document : Json) (pointer : String) (value : Json) : Except ReduceError Json :=
  if pointer = "" then .error (.raised "cannot set the empty JSON pointer")
  else (writeAt value (pointerParts pointer) document).mapError fun _ => .raised pointer

/-- `validate_proposed_value_for_target` passes, in the document as it is -/
def validProposedValue (schemas : Schemas) (catalog : List TargetSpec) (pointer : String) (proposedValue : Json)
    (document : Json) : Bool :=
  match setJsonPointer document pointer proposedValue with
  | .error _ => false
  | .ok candidate => (schemas.draft candidate).isNone &&
      match targetSpecForPointer catalog pointer with
      | none => false
      | some spec => meetsTargetSpec spec proposedValue

def valueText (p : IntakeMapProposal) : String := stableJsonDumps p.proposedValue

/-- the candidates of a group that proposes different values, in the order of the values -/
def disagreeing (targetPointer : String) (entries : List IntakeMapProposal) : IntakeFieldConflict :=
  ⟨conflictId targetPointer entries, targetPointer, "unresolved",
    (((entries.map valueText).dedup.insertionSort (· ≤ ·)).flatMap fun text =>
      byKey proposalSortKey (entries.filter fun entry => valueText entry = text)).map candidateFromProposal⟩

def disagreeingWithBase (targetPointer : String) (entries : List IntakeMapProposal) (existing : Json)
    (provenance : Option Json) : IntakeFieldConflict :=
  ⟨conflictId targetPointer entries, targetPointer, "unresolved",
    candidateFromExisting targetPointer existing provenance :: entries.map candidateFromProposal⟩

/-- the sources of a group become the provenance of its target -/
def Merging.recordSources (m : Merging) (targetPointer : String) (entries : List IntakeMapProposal) : Merging :=
  match selectPrimaryProvenance (entries.map provenanceFromProposal) with
  | none => m
  | some (primary, supplements) =>
    { m with
      provenance := putMember targetPointer (.obj primary) m.provenance
      supplements := if supplements.isEmpty then m.supplements
        else KeyedList.put Prod.fst (targetPointer, supplements) m.supplements
      mergedTargets := m.mergedTargets ++ [targetPointer] }

def Merging.reject (m : Merging) (targetPointer : String) : Merging :=
  { m with rejectedProposals := m.rejectedProposals ++ [targetPointer] }

def Merging.conflict (m : Merging) (c : IntakeFieldConflict) : Merging := { m with conflicts := m.conflicts ++ [c] }

/-- whether a profile takes the group's first value -/
def admitted (schemas : Schemas) (profileId : Option String) (targetPointer : String) (proposedValue : Json)
    (document : Json) : Except ReduceError Bool :=
  match profileId with
  | none => .ok true
  | some profileId => do
    let catalog ← orRaise (catalogForProfile profileId) (.raised "unsupported profile_id")
    return isTargetAllowed catalog targetPointer &&
      validProposedValue schemas catalog targetPointer proposedValue document

/-- `_merge_target_group`, and what the loop does with its conflict -/
def mergeTargetGroup (schemas : Schemas) (profileId : Option String) (m : Merging) (targetPointer : String)
    (first : IntakeMapProposal) (entries : List IntakeMapProposal) : Except ReduceError Merging := do
  if (← admitted schemas profileId targetPointer first.proposedValue m.document) = false then
    return m.reject targetPointer
  else if ¬∀ entry ∈ entries, valueText entry = valueText first then
    return m.conflict (disagreeing targetPointer entries)
  else
    let existing ← currentValue m.document targetPointer
    if isUnfilled existing then
      let document ← setJsonPointer m.document targetPointer first.proposedValue
      return { m.recordSources targetPointer entries with
        document := document, detached := m.detached || pointerParts targetPointer = ["extensions"] }
    else if ∃ v ∈ existing, ¬Same v first.proposedValue then
      return m.conflict (disagreeingWithBase targetPointer entries (existing.getD .null)
        (member targetPointer m.provenance))
    else return m.recordSources targetPointer entries

/-- `sorted(grouped)` -/
def targetsOf (proposals : List IntakeMapProposal) : List String :=
  (proposals.map IntakeMapProposal.targetPointer).dedup.insertionSort (· ≤ ·)

def entriesFor (proposals : List IntakeMapProposal) (targetPointer : String) : List IntakeMapProposal :=
  proposals.filter fun p => p.targetPointer = targetPointer

/-- one round of the loop over the targets -/
def mergeTarget (schemas : Schemas) (profileId : Option String) (proposals : List IntakeMapProposal) (m : Merging)
    (targetPointer : String) : Except ReduceError Merging :=
  match entriesFor proposals targetPointer with
  | [] => .ok m
  | first :: rest => mergeTargetGroup schemas profileId m targetPointer first (first :: rest)

def mergeTargets (schemas : Schemas) (profileId : Option String) (proposals : List IntakeMapProposal) (base : Merging) :
    Except ReduceError Merging :=
  (targetsOf proposals).foldlM (mergeTarget schemas profileId proposals) base

/-! ## Gaps and extensions -/

/-- the gap of a target of the catalog, when nobody proposed a value for it and it is still empty -/
def catalogGap (proposals : List IntakeMapProposal) (document : Json) (spec : TargetSpec) :
    Except ReduceError (Option IntakeGap) :=
  if spec.pointer ∈ proposals.map IntakeMapProposal.targetPointer then .ok none
  else do
    let current ← currentValue document spec.pointer
    return if isUnfilled current then some { targetPointer := spec.pointer, reason := "catalog_target_unfilled" } else none

def catalogGaps (profileId : Option String) (proposals : List IntakeMapProposal) (document : Json) :
    Except ReduceError (List IntakeGap) :=
  match profileId with
  | none => .ok []
  | some profileId => do
    let catalog ← orRaise (catalogForProfile profileId) (.raised "unsupported profile_id")
    let gaps ← catalog.mapM (catalogGap proposals document)
    return gaps.filterMap id

/-- one gap for each step whose context was incomplete, in the order of the steps -/
def contextGaps (steps : List IntakeMapStepResult) : List IntakeGap :=
  (steps.filter fun step => !step.contextComplete).map fun step =>
    { targetPointer := "", reason := "map_step_context_incomplete", stepKey := some step.stepKey }

def gapToDict (gap : IntakeGap) : Json :=
  .obj ([("target_pointer", .str gap.targetPointer), ("reason", .str gap.reason)] ++
    (gap.stepKey.map fun key => ("step_key", Json.str key)).toList)

def conflictToDict (c : IntakeFieldConflict) : Json :=
  .obj [("conflict_id", .str c.conflictId), ("target_pointer", .str c.targetPointer), ("resolution", .str c.resolution),
    ("candidates", .arr (c.candidates.map Json.obj))]

def sortedConflicts (conflicts : List IntakeFieldConflict) : List IntakeFieldConflict :=
  byKey (fun c => [c.targetPointer, c.conflictId]) conflicts

/-- `bool(value)` -/
def truthy : Json → Bool
  | .null | .bool false | .int 0 | .str "" | .arr [] | .obj [] => false
  | .float (.finite d) => d.coeff ≠ 0
  | _ => true

def defaultAuthorizationPath (profileId : Option String) : String :=
  if profileId = some "fedramp_20x_program" ∨ profileId = some "fedramp_rev5_transition" then "fedramp" else "agency"

def draftProfileId (document : Fields) : Option String :=
  (((member "package" document).bind asObj).bind (member "profile_id")).bind asStr

/-- `build_system_context_proposal_from_draft` -/
def systemContextProposal (document provenance : Fields) (systemDisplayName : String) : Option Json := do
  let system ← (member "system" document).bind asObj
  let displayName := ((member "display_name" system).filter truthy).getD (.str systemDisplayName)
  let entries := provenance.filter fun p => startsWith p.1 "/system/"
  if entries.isEmpty then none
  else some (.obj [("status", .str "proposed"),
    ("document", .obj [("display_name", displayName),
      ("authorization_boundary", (member "authorization_boundary" system).getD (.str "")),
      ("mission_summary", (member "mission_summary" system).getD (.str "")),
      ("impact_level", (member "impact_level" system).getD .null),
      ("authorization_path", (member "authorization_path" system).getD
        (.str (defaultAuthorizationPath (draftProfileId document))))]),
    ("field_provenance", .obj entries), ("requires_human_approval", .bool true)])

/-- what is written to the extensions before the system context is proposed -/
def intakeExtensions (m : Merging) (gaps : List IntakeGap) (contextComplete : Bool) : Fields :=
  [("intake_conflicts", .arr ((sortedConflicts m.conflicts).map conflictToDict)),
    ("intake_gaps", .arr (gaps.map gapToDict)), ("intake_metadata_suggestions", .obj []),
    ("intake_context_complete", .bool contextComplete)] ++
    if m.supplements.isEmpty then []
    else [("intake_provenance_supplements", .obj ((KeyedList.sorted Prod.fst m.supplements).map fun p =>
      (p.1, .arr (p.2.map Json.obj))))]

/-- assignments to the extensions of the document; they are lost when a target has replaced the extensions -/
def writeExtensions (detached : Bool) (written : Fields) (document : Fields) : Fields :=
  match detached, member "extensions" document with
  | false, some (.obj extensions) =>
    putMember "extensions" (.obj (KeyedList.update Prod.fst extensions written)) document
  | _, _ => document

/-- `merged_document.setdefault("extensions", {})`, which must be an object -/
def withExtensions (document : Fields) : Except ReduceError Fields :=
  match member "extensions" document with
  | none => .ok (document ++ [("extensions", .obj [])])
  | some (.obj _) => .ok document
  | some _ => .error (.merge "draft extensions must be an object" "draft_schema_invalid")

structure IntakeMergeResult where
  document : Fields
  fieldProvenance : Fields
  conflicts : List IntakeFieldConflict
  gaps : List IntakeGap
  contextComplete : Bool
  systemContextProposal : Option Json
  mergedTargets : List String
  rejectedProposals : List String

/-- `tuple(sorted(set(targets)))` -/
def sortedSet (targets : List String) : List String := targets.dedup.insertionSort (· ≤ ·)

/-- `validate_package_draft_document` -/
def validatePackageDraftDocument (schemas : Schemas) (document : Json) : Except ReduceError Unit :=
  match schemas.draft document with
  | none => .ok ()
  | some message => .error (.draftBuild message)

/-- what follows the loop over the targets -/
def finishMerge (schemas : Schemas) (m : Merging) (gaps : List IntakeGap) (contextComplete : Bool)
    (systemDisplayName : String) : Except ReduceError IntakeMergeResult := do
  let merged ← orRaise m.document.asObj (.raised "the document is an object")
  let document := writeExtensions m.detached (intakeExtensions m gaps contextComplete) merged
  let proposal := systemContextProposal document m.provenance systemDisplayName
  let document := writeExtensions m.detached (proposal.map fun p => ("system_context_proposal", p)).toList document
  validatePackageDraftDocument schemas (.obj document)
  return {
    document := document
    fieldProvenance := m.provenance
    conflicts := sortedConflicts m.conflicts
    gaps := gaps
    contextComplete := contextComplete
    systemContextProposal := proposal
    mergedTargets := sortedSet m.mergedTargets
    rejectedProposals := sortedSet m.rejectedProposals }

/-- `reduce_intake_map_results`, of steps that were validated -/
def reduceSteps (schemas : Schemas) (profileId : Option String) (baseDocument baseFieldProvenance : Fields)
    (systemDisplayName : String) (steps : List IntakeMapStepResult) : Except ReduceError IntakeMergeResult := do
  let document ← withExtensions baseDocument
  let proposals := sortedProposals steps
  let m ← mergeTargets schemas profileId proposals { document := .obj document, provenance := baseFieldProvenance }
  let unfilled ← catalogGaps profileId proposals m.document
  finishMerge schemas m (unfilled ++ contextGaps steps) (steps.all IntakeMapStepResult.contextComplete) systemDisplayName

/-! ## Steps -/

/-- a validated step, or a JSON value -/
inductive MapStep where
  | result (step : IntakeMapStepResult)
  | payload (value : Json)

/-- `is_valid_json_pointer` -/
def isValidJsonPointer (pointer : String) : Bool :=
  let cs := Py.chars pointer
  cs.length ≤ 2000 && (cs.isEmpty || cs.head? = some '/') && escapesOk cs

/-- `uuid.UUID(str(value))`; the texts of other values are none -/
def uuidOf : Json → Option Uuid
  | .str s => Uuid.parse s
  | .int n => Uuid.parse (String.ofList (intText n))
  | _ => none

def containsText (text s : String) : Bool :=
  (List.range ((Py.chars s).length + 1)).any fun i => (Py.chars text).isPrefixOf ((Py.chars s).drop i)

def humanOnlyTargetMarkers : List String := ["data_origin", "sensitivity"]

def rejectHumanOnlyOrProhibitedTarget (schemas : Schemas) (pointer : String) : Except ReduceError Unit := do
  ensure (¬humanOnlyTargetMarkers.any fun marker => containsText marker (schemas.casefold pointer))
    (invalidInput ("human-only target is prohibited: " ++ pointer))
  ensure (isProhibitedTarget pointer = false) (invalidInput ("prohibited target prefix: " ++ pointer))

/-- `payload[key]` -/
def required (key : String) (payload : Fields) : Except ReduceError Json := orRaise (member key payload) (.raised key)

def textOf (key : String) (payload : Fields) : Option String := (member key payload).bind asStr

def segmentIndexOf (entry : Fields) : Option Int :=
  match member "segment_index" entry with
  | some (.int n) => some n
  | _ => none

def isBool : Option Json → Bool
  | some (.bool _) => true
  | _ => false

/-- `f"proposal {proposal_index} {text}"` -/
def proposalError (proposalIndex : Nat) (text : String) : ReduceError :=
  invalidInput ("proposal " ++ toString proposalIndex ++ " " ++ text)

/-- a member that is one of some texts -/
def oneOf (texts : List String) (key : String) (entry : Fields) (e : ReduceError) : Except ReduceError String :=
  orRaise ((textOf key entry).filter fun s => texts.contains s) e

def parseMapProposal (schemas : Schemas) (stepKey : String) (proposalIndex : Nat) (entry : Json) :
    Except ReduceError IntakeMapProposal := do
  let entry ← orRaise entry.asObj (proposalError proposalIndex "must be an object")
  let targetPointer ← orRaise ((textOf "target_pointer" entry).filter isValidJsonPointer)
    (proposalError proposalIndex "has invalid target_pointer")
  rejectHumanOnlyOrProhibitedTarget schemas targetPointer
  let evidenceKind ← oneOf ["direct_evidence", "inference"] "evidence_kind" entry
    (proposalError proposalIndex "has unsupported evidence_kind")
  let sourceSha256 ← orRaise ((textOf "source_sha256" entry).filter Audit.isSha256)
    (proposalError proposalIndex "has invalid source_sha256")
  let sourceLocator ← orRaise ((member "source_locator" entry).bind asObj)
    (proposalError proposalIndex "missing source_locator")
  let chunkId := textOf "chunk_id" entry
  -- `isinstance(True, int)` holds, and is refused next
  ensure (chunkId.isSome ∨ (segmentIndexOf entry).isSome ∨ isBool (member "segment_index" entry))
    (proposalError proposalIndex "requires chunk_id or segment_index")
  ensure (isBool (member "segment_index" entry) = false) (proposalError proposalIndex "has invalid segment_index")
  ensure (evidenceKind = "direct_evidence" → sourceLocator ≠ [])
    (proposalError proposalIndex "missing direct evidence locator")
  let sourceArtifactId ← orRaise (uuidOf (← required "source_artifact_id" entry))
    (proposalError proposalIndex "has invalid UUID field")
  let modelStepId ← orRaise (uuidOf (← required "model_step_id" entry))
    (proposalError proposalIndex "has invalid UUID field")
  let confidence ← oneOf ["low", "medium", "high"] "confidence" entry
    (proposalError proposalIndex "has invalid confidence")
  let proposedValue ← orRaise (member "proposed_value" entry) (proposalError proposalIndex "missing proposed_value")
  return { targetPointer, proposedValue, evidenceKind, sourceArtifactId, sourceSha256, sourceLocator, modelStepId,
           confidence, chunkId, segmentIndex := segmentIndexOf entry, stepKey }

/-- the proposals of a step, each identity once -/
def parseProposals (schemas : Schemas) (stepKey : String) :
    Nat → List Json → List String → Except ReduceError (List IntakeMapProposal)
  | _, [], _ => .ok []
  | i, entry :: entries, seen => do
    let proposal ← parseMapProposal schemas stepKey i entry
    ensure (proposalIdentity proposal ∉ seen)
      (.merge ("duplicate proposal identity in step " ++ stepKey ++ ": " ++ proposalIdentity proposal)
        "duplicate_canonical_id")
    let proposals ← parseProposals schemas stepKey (i + 1) entries (proposalIdentity proposal :: seen)
    return proposal :: proposals

/-- a step that is a JSON value; `notAnObject` is raised for a value that is none -/
def coercePayload (schemas : Schemas) (notAnObject : ReduceError) (value : Json) :
    Except ReduceError IntakeMapStepResult := do
  let payload ← orRaise value.asObj notAnObject
  match schemas.step value with
  | some message => .error (invalidInput message)
  | none => pure ()
  ensure (textOf "schema_version" payload = some "1.0.0") (invalidInput "unsupported map step schema_version")
  let _stepId ← orRaise (uuidOf (← required "step_id" payload)) (invalidInput "invalid map step_id")
  let stepKey ← orRaise (textOf "step_key" payload) (.raised "step_key")
  let entries ← orRaise ((member "proposals" payload).bind asArr) (invalidInput "map step proposals must be an array")
  let proposals ← parseProposals schemas stepKey 0 entries []
  let contextComplete ← required "context_complete" payload
  return { stepKey, contextComplete := truthy contextComplete, proposals }

/-- `_coerce_map_step_result` -/
def coerceMapStepResult (schemas : Schemas) (index : Nat) : MapStep → Except ReduceError IntakeMapStepResult
  | .result step => .ok step
  | .payload value => coercePayload schemas (invalidInput ("map step " ++ toString index ++ " must be an object")) value

/-- the steps with their places in the input -/
def validatedSteps (schemas : Schemas) (steps : List MapStep) : Except ReduceError (List IntakeMapStepResult) :=
  steps.zipIdx.mapM fun p => coerceMapStepResult schemas p.2 p.1

def reduceIntakeMapResults (schemas : Schemas) (profileId : Option String) (baseDocument baseFieldProvenance : Fields)
    (systemDisplayName : String) (steps : List MapStep) : Except ReduceError IntakeMergeResult := do
  let validated ← validatedSteps schemas steps
  reduceSteps schemas profileId baseDocument baseFieldProvenance systemDisplayName validated

end AtoService.IntakeMerge
