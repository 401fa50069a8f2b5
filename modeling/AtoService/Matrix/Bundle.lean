/-
The fact bundle of one batch: the assessment items and the evidence that the prompt holds.

Sources are ranked by identifier, cut to an excerpt, and packed while they fit the token budget. The prompt has one entry an
identifier, the last text under it.
-/
import AtoService.Matrix.Citations
import AtoService.Matrix.Rows

namespace AtoService.Matrix

open AtoService.Sealed (CitableSource buildSealedCitableSources sectionItems)

structure AssessmentItem where
  assessmentItemId : String
  assessmentItemType : AssessmentItemType
  title : Json
  requirementText : Json
  modelAnalysisAllowed : Bool
  requiredEvidenceKinds : List Json

structure Profile where
  profileId : String
  assessmentItems : List AssessmentItem
  statusPolicy : StatusPolicy

/-- the sealed document and its provenance -/
structure SealedContent where
  document : List (String × Json)
  fieldProvenance : List (String × Json)

inductive RunError where
  /-- `AnalysisProfileError` -/
  | profile (message : String)
  /-- `ContextLimitExceededError` -/
  | contextLimit (message : String)
deriving DecidableEq, Repr

/-! ## Token estimates -/

def charsPerToken : Nat := 4

def estimateTokensFromText (text : String) : Nat := ((Py.chars text).length + charsPerToken - 1) / charsPerToken

def orOne (n : Nat) : Nat := if n = 0 then 1 else n

mutual

def estimateTokensFromObject : Json → Nat
  | .str s => estimateTokensFromText s
  | .arr xs => orOne (estimateItems xs)
  | .obj fs => orOne (estimateFields fs)
  | _ => 1

def estimateItems : List Json → Nat
  | [] => 0
  | x :: xs => estimateTokensFromObject x + estimateItems xs

def estimateFields : List (String × Json) → Nat
  | [] => 0
  | (k, v) :: fs => estimateTokensFromText k + estimateTokensFromObject v + estimateFields fs

end

/-! ## Assessment items -/

/-- the item with an identifier; the last one, as a dict has it -/
def itemById (profile : Profile) (assessmentItemId : String) : Option AssessmentItem :=
  KeyedList.get? AssessmentItem.assessmentItemId assessmentItemId
    (KeyedList.ofList AssessmentItem.assessmentItemId profile.assessmentItems)

def assessmentItemTypeForId (profile : Profile) (assessmentItemId : String) : Except RunError AssessmentItemType := do
  let item ← Results.orRaise (KeyedList.get? AssessmentItem.assessmentItemId assessmentItemId profile.assessmentItems)
    (.profile ("unknown assessment item id: " ++ assessmentItemId))
  return item.assessmentItemType

def AssessmentItemType.text : AssessmentItemType → String
  | .nistControl => "nist_control"
  | .fedrampRule => "fedramp_rule"
  | .fedrampKsi => "fedramp_ksi"

def assessmentItemForPrompt (profile : Profile) (assessmentItemId : String) : Except RunError Json := do
  let item ← Results.orRaise (itemById profile assessmentItemId)
    (.profile ("unknown assessment item id: " ++ assessmentItemId))
  let itemType ← assessmentItemTypeForId profile assessmentItemId
  return .obj [("assessment_item_id", .str assessmentItemId), ("assessment_item_type", .str itemType.text),
    ("title", item.title), ("requirement_text", item.requirementText),
    ("model_analysis_allowed", .bool item.modelAnalysisAllowed),
    ("required_evidence_kinds", .arr item.requiredEvidenceKinds)]

/-! ## Evidence -/

structure EvidenceSource where
  sourceId : String
  sourceSha256 : String
  text : String
  controlId : Option String
deriving DecidableEq, Repr

def maxEvidenceExcerptChars : Nat := 4000

/-- an excerpt, and whether it was cut -/
def capExcerpt (text : String) : String × Bool :=
  if (Py.chars text).length ≤ maxEvidenceExcerptChars then (text, false)
  else (String.ofList ((Py.chars text).take maxEvidenceExcerptChars), true)

/-- the first control with the text as its implementation statement -/
def controlWithStatement (controls : List (String × Json)) (text : String) : Option String :=
  (controls.find? fun p =>
    match p.2.asObj.bind (Json.member "implementation_statement") with
    | some (.str statement) => statement ≠ "" && text = statement
    | _ => false).map Prod.fst

/-- source identifiers are in lower case already -/
def indexEvidenceSources (content : SealedContent) : List EvidenceSource :=
  let controls := sectionItems "security_controls" content.document
  ((buildSealedCitableSources content.document content.fieldProvenance).map fun p =>
    ({ sourceId := p.2.sourceId
       sourceSha256 := p.2.sourceSha256
       text := p.2.text
       controlId := controlWithStatement controls p.2.text } : EvidenceSource)).insertionSort
    fun a b => a.sourceId ≤ b.sourceId

/-- an entry of the prompt -/
structure PromptEntry where
  sourceId : String
  sourceSha256 : String
  controlId : Option String
  text : String
  textTruncated : Bool
deriving DecidableEq, Repr

def PromptEntry.dict (e : PromptEntry) : Json :=
  .obj [("source_id", .str e.sourceId), ("source_sha256", .str e.sourceSha256),
    ("control_id", (e.controlId.map Json.str).getD .null), ("text", .str e.text), ("text_truncated", .bool e.textTruncated)]

def promptEntry (s : EvidenceSource) : PromptEntry :=
  let (excerpt, truncated) := capExcerpt s.text
  ⟨s.sourceId, s.sourceSha256, s.controlId, excerpt, truncated⟩

structure RankedPackEntry where
  entryId : String
  tokenEstimate : Nat
deriving DecidableEq, Repr

/-- the identifiers that fit, and those that are left out -/
def packRankedEntries : Nat → List RankedPackEntry → List String × List String
  | _, [] => ([], [])
  | remaining, e :: es =>
    if e.tokenEstimate ≤ remaining then
      let (included, omitted) := packRankedEntries (remaining - e.tokenEstimate) es
      (e.entryId :: included, omitted)
    else
      let (included, omitted) := packRankedEntries remaining es
      (included, e.entryId :: omitted)

structure FactBundle where
  profileId : String
  assessmentItemIds : List String
  assessmentItems : List Json
  evidenceSources : List EvidenceSource
  omittedSourceIds : List String
  contextComplete : Bool
  /-- `prompt_payload["evidence_sources"]` -/
  promptSources : List PromptEntry

def minimumBundleReserveTokens : Nat := 256

def fixedPayload (profileId : String) (assessmentItemIds : List String) (assessmentItems : List Json) : Json :=
  .obj [("profile_id", .str profileId), ("assessment_item_ids", .arr (assessmentItemIds.map Json.str)),
    ("assessment_items", .arr assessmentItems), ("evidence_sources", .arr []), ("omitted_source_ids", .arr [])]

def buildFactBundle (profile : Profile) (assessmentItemIds : List String) (content : SealedContent)
    (inputBudgetTokens : Nat) : Except RunError FactBundle := do
  Results.ensure (minimumBundleReserveTokens ≤ inputBudgetTokens)
    (.contextLimit "configured context budget cannot fit the minimum sufficiency_matrix bundle")
  let assessmentItems ← assessmentItemIds.mapM (assessmentItemForPrompt profile)
  let allSources := indexEvidenceSources content
  let fixedPayloadTokens := estimateTokensFromObject (fixedPayload profile.profileId assessmentItemIds assessmentItems)
  Results.ensure (fixedPayloadTokens < inputBudgetTokens)
    (.contextLimit "assessment item metadata exceeds sufficiency_matrix context budget")
  let entries := allSources.map promptEntry
  let entryById := KeyedList.ofList PromptEntry.sourceId entries
  let (included, omitted) := packRankedEntries (inputBudgetTokens - fixedPayloadTokens)
    (entries.map fun e => ⟨e.sourceId, estimateTokensFromObject e.dict⟩)
  return {
    profileId := profile.profileId
    assessmentItemIds := assessmentItemIds
    assessmentItems := assessmentItems
    evidenceSources := allSources
    omittedSourceIds := omitted
    contextComplete := omitted.isEmpty
    promptSources := included.filterMap fun k => KeyedList.get? PromptEntry.sourceId k entryById }

/-- the sources that citations are checked against -/
def sourcesById (sources : List EvidenceSource) : List (String × CitableSource) :=
  KeyedList.ofList Prod.fst (sources.map fun s => (s.sourceId, ⟨s.sourceId, s.sourceSha256, s.text⟩))

end AtoService.Matrix
