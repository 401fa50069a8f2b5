/-
Profile requirements and the workspace metrics computed from persisted records.

`metricRequirements` reads the requirements off a stored profile, `effectiveMetricFacts` projects the section texts into
typed facts, and `requirementIsSatisfied` judges one requirement. Both readers can raise: a requirement with allowed
values is refused unless it is a string, and a structured section text must parse. `controlsHaveTrackedResponses` and
`agentControlBlocksApproval` are the control checks of the approval gate.
-/
import AtoService.Lib.Binary64
import AtoService.Workspace.Policy

namespace AtoService.Workspace

open AtoService.Py

/-! ## Requirements -/

/-- `value_type` of a requirement -/
inductive RequirementType where
  | string | boolean | number | array | object
deriving DecidableEq, Repr

structure ProfileRequirement where
  key : String
  valueType : RequirementType
  required : Bool
  enumValues : List String
  minLength : Nat
  evidenceRequiredForAgentValue : Bool
  structuredKind : Option StructuredKind
deriving DecidableEq, Repr

namespace ProfileRequirement

def firstError (r : ProfileRequirement) : Option String :=
  firstFailure [
    (decide (1 ≤ r.key.length), minLengthText 1),
    (decide (r.key.length ≤ 255), maxLengthText 255),
    (decide (r.minLength ≤ 100000), "Input should be less than or equal to 100000"),
    (r.enumValues.isEmpty || decide (r.valueType = .string),
      "enum_values are supported only for string requirements"),
    (decide r.enumValues.Nodup, "enum_values must be unique")]

def typeOf (i : SspRequiredItem) : RequirementType :=
  match i.structuredKind with
  | some .authorizationBoundary => .object
  | some _ => .array
  | none => if i.valueType = .stringList then .array else .string

/-- `item.get("min_length") or 1` -/
def minLengthOf : Option Nat → Nat
  | none | some 0 => 1
  | some n => n

def ofItem (i : SspRequiredItem) : Except Err ProfileRequirement :=
  validated firstError {
    key := i.itemId
    valueType := typeOf i
    required := i.required
    enumValues := i.allowedValues
    minLength := minLengthOf i.minLength
    evidenceRequiredForAgentValue := i.evidenceRequiredForAgent
    structuredKind := i.structuredKind }

end ProfileRequirement

/-- `_metric_requirements(profile_row)` -/
def metricRequirements (row : ProfileRow) : Except Err (List ProfileRequirement) :=
  row.bundle.sspRequiredItems.mapM ProfileRequirement.ofItem

def valueMatches (r : ProfileRequirement) (value : Json) : Bool :=
  match r.valueType, value with
  | .string, .str s => decide (r.minLength ≤ (strip s).length) && (r.enumValues.isEmpty || r.enumValues.contains s)
  | .boolean, .bool _ | .number, .int _ | .number, .float _ => true
  | .array, .arr xs => decide (r.minLength ≤ xs.length)
  | .object, .obj fs => decide (r.minLength ≤ fs.length)
  | _, _ => false

/-- evaluate one profile requirement without model judgment -/
def requirementIsSatisfied (r : ProfileRequirement) (fact : Option FactContent) : Bool :=
  match fact with
  | none => false
  | some f =>
    decide (f.state = .active) && valueMatches r f.value &&
      !(r.evidenceRequiredForAgentValue && decide (f.provenance = .agentGenerated) && f.evidence.isEmpty)

/-! ## Sections as facts -/

section

variable (host : Host) (fresh : Nat → String)

def boundaryMetricValue (content : String) : Except Err (Option Json) := do
  let b ← parseAuthorizationBoundary host content
  return b.map fun b =>
    .obj [("narrative", .str (strip b.narrative)), ("diagram_links", .arr (b.diagramLinks.map fun l => .obj l.toDict))]

/-- the value of a structured section; a badly formed information type register counts as none -/
def structuredSectionMetricValue (content : String) : StructuredKind → Except Err (Option Json)
  | .authorizationBoundary => boundaryMetricValue host content
  | .componentInventory => do
    let cs ← parseComponentInventory host fresh content
    return some (.arr (cs.map fun c => .obj c.toDict))
  | .interconnectionRegister => do
    let is ← parseInterconnectionRegister host fresh content
    return some (.arr (is.map fun i => .obj i.toDict))
  | .informationTypeRegister =>
    match parseInformationTypeRegister host fresh content with
    | .error e => if e.cls.isValueError then .ok none else .error e
    | .ok [] => .ok none
    | .ok ms => (fun entries => some (.arr entries)) <$> ms.mapM InformationTypeMapping.toDictOf

def sectionMetricValue (r : ProfileRequirement) (content : String) : Except Err (Option Json) :=
  match r.structuredKind with
  | some kind => structuredSectionMetricValue host fresh content kind
  | none =>
    if r.valueType = .array then .ok (some (.arr ((normalizedStringListItems content).map .str)))
    else .ok (some (.str (strip content)))

def sectionProvenance (s : SectionContent) : Provenance :=
  if s.state = .edited ∨ s.state = .reviewed then .issoEntered else .agentGenerated

/-- the fact that a section stands for, when the profile asks for it and it counts -/
def sectionFact (requirements : List ProfileRequirement) (s : SectionContent) : Except Err (Option FactContent) :=
  match KeyedList.get? ProfileRequirement.key s.key (KeyedList.ofList ProfileRequirement.key requirements) with
  | none => .ok none
  | some r =>
    if !hasText s.content then .ok none
    else do
      match ← sectionMetricValue host fresh r s.content with
      | none => return none
      | some value =>
        if sectionProvenance s = .agentGenerated ∧ s.evidence.isEmpty then return none
        let fact ← validated FactContent.firstError
          { key := s.key, value := value, provenance := sectionProvenance s, evidence := s.evidence }
        return some fact

/-- project edited and generated SSP fields into typed requirement facts -/
def effectiveMetricFacts (content : RevisionContent) (requirements : List ProfileRequirement) :
    Except Err (List FactContent) := do
  let projected ← content.sections.mapM (sectionFact host fresh requirements)
  return sortFacts (KeyedList.update FactContent.key content.factDict projected.reduceOption)

end

/-- the keys of the requirements that the facts satisfy -/
def satisfiedRequirementIds (requirements : List ProfileRequirement) (facts : List FactContent) : List String :=
  (requirements.filter fun r =>
    requirementIsSatisfied r (getFact r.key (KeyedList.ofList FactContent.key facts))).map ProfileRequirement.key

/-! ## Counts -/

structure EvidenceMetricRecord where
  state : EvidenceState
  mediaType : String
deriving DecidableEq, Repr

structure WorkspaceMetrics where
  evidence : Nat
  processedEvidence : Nat
  screenshots : Nat
  selectedControls : Nat
  controlsDrafted : Nat
  partialControls : Nat
  openQuestions : Nat
  evidenceLinks : Nat
  satisfiedRequiredItems : Nat
  totalRequiredItems : Nat
  sspCompletionPercent : Int
deriving DecidableEq, Repr

def supportedScreenshotMediaTypes : List String := ["image/jpeg", "image/png", "image/tiff", "image/webp"]

/-- `round(100 * satisfied / total) if total else 100`; the quotient is a double -/
def percent (satisfied total : Nat) : Int :=
  if total = 0 then 100 else Binary64.halfEven (Binary64.nearest ((100 * satisfied : Nat) / (total : ℚ)))

def calculateWorkspaceMetrics (host : Host) (evidence : List EvidenceMetricRecord) (facts : List FactContent)
    (requirements : List ProfileRequirement) (controls : List ControlContent) (questions : List QuestionContent)
    (evidenceLinkCount : Nat) : WorkspaceMetrics :=
  let required := requirements.filter ProfileRequirement.required
  let satisfied := (satisfiedRequirementIds required facts).length
  { evidence := evidence.length
    processedEvidence := evidence.countP fun e => e.state = .processed
    screenshots := evidence.countP fun e => supportedScreenshotMediaTypes.contains (host.lower e.mediaType)
    selectedControls := controls.length
    controlsDrafted := controls.countP fun c => hasText c.implementationStatement && decide (c.state ≠ .empty)
    partialControls := controls.countP fun c =>
      decide (c.state = .empty ∨ c.state = .partly) || !hasText c.implementationStatement || c.evidence.isEmpty
    openQuestions := questions.countP fun q => q.state = .opened
    evidenceLinks := evidenceLinkCount
    satisfiedRequiredItems := satisfied
    totalRequiredItems := required.length
    sspCompletionPercent := percent satisfied required.length }

/-! ## Controls at approval -/

/-- the targets of the open questions -/
def openTargets (content : RevisionContent) : List (TargetType × String) :=
  (content.questions.filter fun q => q.state = .opened).map fun q => (q.targetType, q.targetKey)

/-- whether every control has a statement, a gap, or an open question -/
def controlsHaveTrackedResponses (controls : List ControlContent) (targets : List (TargetType × String))
    (required : Bool) : Bool :=
  !required || controls.all fun c =>
    hasText c.implementationStatement || hasText (textOf c.unresolvedReason) ||
      targets.contains (.control, c.controlId)

/-- whether a control that an agent wrote must block approval -/
def agentControlBlocksApproval (evidenceRequired : Bool) (c : ControlContent) : Bool :=
  evidenceRequired && decide (c.state = .generated ∨ c.state = .partly) &&
    (hasText c.implementationStatement || orUnknown c.implementationStatus != "unknown" ||
      orUnknown c.responsibility != "unknown") && c.evidence.isEmpty

end AtoService.Workspace
