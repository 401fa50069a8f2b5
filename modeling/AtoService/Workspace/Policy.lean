/-
What a model proposes for a workspace, and the policy of the selected profile that edits and stored patches are checked
against.

`GenerationResult` and `PatchResult` are the validated outputs of the two model passes. `SelectedProfilePolicy` is built
from a resolved profile; the `validateWorkspace…` functions raise when a value violates it.
-/
import AtoService.Workspace.InformationTypes

namespace AtoService.Workspace

open AtoService.Py

/-! ## Model output -/

structure GeneratedSection where
  sectionId : String
  content : String
  supportingFactIds : List String
deriving Repr

structure GeneratedControl where
  controlId : String
  implementationStatus : String
  responsibility : String
  implementationStatement : String
  supportingFactIds : List String
deriving Repr

structure GeneratedQuestion where
  questionKey : String
  targetType : TargetType
  targetId : String
  question : String
  ownerType : String
deriving Repr

structure GeneratedCategorization where
  confidentiality : String
  integrity : String
  availability : String
  confidentialityRationale : String
  integrityRationale : String
  availabilityRationale : String
  supportingFactIds : List String
deriving Repr

structure GenerationResult where
  sections : List GeneratedSection
  controls : List GeneratedControl
  questions : List GeneratedQuestion
  categorization : Option GeneratedCategorization := none
deriving Repr

structure TargetedPatch where
  targetType : TargetType
  targetId : String
  expectedRevision : Nat
  changes : List (String × String)
  supportingFactIds : List String
deriving Repr

structure PatchResult where
  patches : List TargetedPatch
  questionsToAdd : List GeneratedQuestion
  questionIdsToResolve : List String
  changeSummary : String
deriving Repr

namespace TargetedPatch

/-- `patch.changes.get(key)` -/
def change (p : TargetedPatch) (key : String) : Option String :=
  (KeyedList.get? Prod.fst key p.changes).map Prod.snd

end TargetedPatch

/-! ## OSCAL parameters -/

/-- the letter that a character matches when case is ignored -/
def foldLetter (c : Char) : Char :=
  if 'A' ≤ c ∧ c ≤ 'Z' then Char.ofNat (c.toNat + 32)
  else if c.toNat = 0x130 ∨ c.toNat = 0x131 then 'i'
  else if c.toNat = 0x17F then 's'
  else c

/-- drop a word at the head, ignoring case -/
def dropWord : List Char → List Char → Option (List Char)
  | [], cs => some cs
  | _ :: _, [] => none
  | w :: ws, c :: cs => if foldLetter c = w then dropWord ws cs else none

/-- `\{\{\s*insert\s*:\s*param\s*,` at the head of a text -/
def paramInsertAt (cs : List Char) : Bool :=
  let blank := fun ds : List Char => ds.dropWhile isSpace
  ((((((dropWord ['{', '{'] cs).bind fun r => dropWord ['i', 'n', 's', 'e', 'r', 't'] (blank r)).bind
    fun r => dropWord [':'] (blank r)).bind fun r => dropWord ['p', 'a', 'r', 'a', 'm'] (blank r)).bind
    fun r => dropWord [','] (blank r))).isSome

def containsOscalParameterInsertSyntax (text : String) : Bool := (Py.chars text).tails.any paramInsertAt

/-! ## The policy of a profile -/

structure SspItemPolicy where
  itemId : String
  required : Bool
  valueType : ValueType
  minLength : Nat
  allowedValues : List String
  structuredKind : Option StructuredKind
deriving DecidableEq, Repr

structure SelectedProfilePolicy where
  sections : List SspItemPolicy
  controlResponse : ControlResponsePolicy
  implementationStatementRules : ImplementationStatementDeterministicPolicy
deriving DecidableEq, Repr

namespace SelectedProfilePolicy

def ofItem (i : SspRequiredItem) : SspItemPolicy where
  itemId := i.itemId
  required := i.required
  valueType := i.valueType
  minLength := i.minLength.getD 1
  allowedValues := i.allowedValues
  structuredKind := i.structuredKind

def fromResolved (p : ResolvedProfile) : SelectedProfilePolicy :=
  let deterministic := p.implementationStatementPolicy.deterministic
  { sections := KeyedList.ofList SspItemPolicy.itemId (p.sspRequiredItems.map ofItem)
    controlResponse := { p.controlResponse with
      evidenceRequiredForAgentStatement := p.controlResponse.evidenceRequiredForAgentStatement &&
        deterministic.requireEvidenceForAgentNonUnknownClaims }
    implementationStatementRules := deterministic }

def item? (p : SelectedProfilePolicy) (sectionId : String) : Option SspItemPolicy :=
  KeyedList.get? SspItemPolicy.itemId sectionId p.sections

end SelectedProfilePolicy

/-- the entries of a list kept as lines, without their bullets -/
def normalizedStringListItems (content : String) : List String :=
  ((splitLines content).map fun line => strip (lstripOf ['-', '*', '•'] (strip line))).filter (· != "")

/-- a `ValueError` met while checking model output is reported as a contract error with its text -/
def asContractError {α : Type} (x : Except Err α) : Except Err α :=
  match x with
  | .error e => if e.cls.isValueError then raise .generationContract e.detail else .error e
  | .ok a => .ok a

section

variable (host : Host) (fresh : Nat → String)

/-- `_validate_section_content_against_policy` -/
def validateSectionContentAgainstPolicy (sectionId content : String) (r : SspItemPolicy) : Except Err Unit :=
  match r.structuredKind with
  | some .authorizationBoundary => do
    match ← parseAuthorizationBoundary host content with
    | none =>
      raise .generationContract ("section " ++ sectionId ++ " requires authorization boundary content")
    | some b => asContractError (validateAuthorizationBoundary b)
  | some .componentInventory =>
    asContractError (parseComponentInventory host fresh content >>= validateComponentInventory)
  | some .interconnectionRegister =>
    asContractError (parseInterconnectionRegister host fresh content >>= validateInterconnectionRegister)
  | some .informationTypeRegister =>
    asContractError (parseInformationTypeRegister host fresh content >>= validateInformationTypeRegister)
  | none =>
    match r.valueType with
    | .stringList =>
      let items := normalizedStringListItems content
      let invalid := sortedDifference items r.allowedValues
      if items.length < r.minLength then
        raise .generationContract
          ("section " ++ sectionId ++ " requires at least " ++ toString r.minLength ++ " list items")
      else if !r.allowedValues.isEmpty && !invalid.isEmpty then
        raise .generationContract ("section " ++ sectionId ++ " contains disallowed values: " ++
          host.pyStr (.arr (invalid.map .str)))
      else .ok ()
    | .string =>
      let normalized := strip content
      if normalized.length < r.minLength then
        raise .generationContract
          ("section " ++ sectionId ++ " requires at least " ++ toString r.minLength ++ " characters")
      else if !r.allowedValues.isEmpty && normalized ∉ r.allowedValues then
        raise .generationContract ("section " ++ sectionId ++ " value is not allowed: " ++ normalized)
      else .ok ()

def validateWorkspaceSectionContent (sectionId content : String) (p : SelectedProfilePolicy) : Except Err Unit :=
  if !hasText content then .ok ()
  else
    match p.item? sectionId with
    | none => raise .profileValidation ("unknown SSP section: " ++ sectionId)
    | some r =>
      match validateSectionContentAgainstPolicy host fresh sectionId content r with
      | .error e => if e.cls = .generationContract then raise .profileValidation e.detail else .error e
      | .ok () => .ok ()

/-- `(value or "unknown").strip()` -/
def orUnknown (value : Option String) : String :=
  match value with
  | none | some "" => "unknown"
  | some s => strip s

def validateWorkspaceControlFields (implementationStatus responsibility : Option String)
    (p : SelectedProfilePolicy) : Except Err Unit :=
  if orUnknown implementationStatus ∉ p.controlResponse.implementationStatuses then
    raise .profileValidation ("implementation_status is not allowed: " ++ orUnknown implementationStatus)
  else if orUnknown responsibility ∉ p.controlResponse.responsibilities then
    raise .profileValidation ("responsibility is not allowed: " ++ orUnknown responsibility)
  else .ok ()

def validateWorkspaceImplementationStatement (statement : String) (p : SelectedProfilePolicy) : Except Err Unit :=
  if p.implementationStatementRules.rejectOscalParameterInsertSyntax &&
      containsOscalParameterInsertSyntax statement then
    raise .profileValidation ("implementation_statement must not contain OSCAL " ++
      "organization-defined parameter placeholder syntax")
  else .ok ()

def validateWorkspaceQuestionOwner (ownerType : String) (p : SelectedProfilePolicy) : Except Err Unit :=
  if ownerType ∉ p.controlResponse.questionOwnerTypes then
    raise .profileValidation ("owner_type is not allowed: " ++ ownerType)
  else .ok ()

def agentControlRequiresFacts (implementationStatus responsibility statement : String) (evidenceRequired : Bool) :
    Bool :=
  evidenceRequired &&
    (hasText statement || implementationStatus != "unknown" || responsibility != "unknown")

/-- the checks of one patch -/
def validateAppliedPatch (p : SelectedProfilePolicy) (allowedFactIds : List String) (patch : TargetedPatch) :
    Except Err Unit := do
  let unknownFacts := sortedDifference patch.supportingFactIds allowedFactIds
  if !unknownFacts.isEmpty then
    raise .profileValidation ("unknown supporting_fact_ids: " ++ host.pyStr (.arr (unknownFacts.map .str)))
  if patch.targetType = .sspSection then
    let content := (patch.change "content").getD ""
    validateWorkspaceSectionContent host fresh patch.targetId content p
    if hasText content && patch.supportingFactIds.isEmpty then
      raise .profileValidation ("section " ++ patch.targetId ++ " has content without supporting facts")
    else .ok ()
  else
    let status := (patch.change "implementation_status").getD "unknown"
    let responsibility := (patch.change "responsibility").getD "unknown"
    let statement := (patch.change "implementation_statement").getD ""
    validateWorkspaceControlFields (some status) (some responsibility) p
    if (patch.change "implementation_statement").isSome then
      validateWorkspaceImplementationStatement statement p
    if agentControlRequiresFacts status responsibility statement
        p.controlResponse.evidenceRequiredForAgentStatement && patch.supportingFactIds.isEmpty then
      raise .profileValidation ("control " ++ patch.targetId ++ " requires supporting facts for agent metadata")
    else .ok ()

/-- re-validate a stored patch against the selected profile -/
def validateAppliedPatchResult (r : PatchResult) (p : SelectedProfilePolicy) (allowedFactIds : List String) :
    Except Err Unit := do
  r.questionsToAdd.forM fun q => validateWorkspaceQuestionOwner q.ownerType p
  r.patches.forM (validateAppliedPatch host fresh p allowedFactIds)

end

end AtoService.Workspace
