/-
Responses of the MAP model: how they are read and checked, and the proposals that are made of their facts.

A fact cites a segment of the bundle and a list of chunks. The check wants the chunk of the segment among them, and the
others to be chunks of the bundle (`parseFact_eq_ok`); the proposal takes the first of the list. So a proposal points at
the segment that its fact cites exactly where the list starts with the chunk of that segment
(`proposals_point_at_segments_iff`).

The schema is written out (`meetsResponseSchema`): without a format checker, "format" is not enforced. The messages of the
reader and of the first error of the schema, and `str.casefold`, are arguments. Strings have no lone surrogates here.
-/
import AtoService.Audit.Encoding
import AtoService.Extraction.Rebuild
import AtoService.Intake.Reduce
import AtoService.Lib.Escapes
import AtoService.Lib.JsonSchema

namespace AtoService.MapResponse

open Json JsonSchema Results Escapes
open AtoService.Drafts (startsWith)
open AtoService.IntakeMerge (IntakeGap IntakeMapProposal setDefault fismaTargets fedramp20xTargets fedrampRev5Targets)
open AtoService.Workspace (Uuid)

structure SegmentFact where
  segmentIndex : Int
  text : String
  locator : Fields
  extractionMethod : String
  textTruncated : Bool := false

structure ParsedMapFact where
  factKey : String
  value : Json
  valueKind : String
  sourceArtifactId : Uuid
  segmentIndex : Int
  chunkIds : List String
  confidence : String

structure MapResponseValidationError where
  failureKind : String
  detail : String
  repairable : Bool
deriving DecidableEq, Repr

structure Library where
  /-- the message of the reader, for a text that it refuses -/
  parseMessage : String → String
  /-- the message of the first error of the schema -/
  schemaMessage : Json → String
  /-- `str.casefold` -/
  casefold : String → String
  /-- `unicodedata.decimal`, of a character outside ASCII -/
  decimal : Char → Option Nat

/-! ## The schema -/

def intTextOf (n : Int) : String := String.ofList (intText n)

def isFact (fact : Fields) : Bool :=
  onlyKeys ["fact_key", "value", "value_kind", "source_artifact_id", "segment_index", "chunk_ids", "confidence"] fact &&
    memberMeets "fact_key" (isTextOf 1 256) fact && (member "value" fact).isSome &&
    memberMeets "value_kind" (isOneOf ["direct_evidence", "inference", "unknown"]) fact &&
    memberMeets "source_artifact_id" isText fact && memberMeets "segment_index" (isIntegerFrom 1) fact &&
    memberMeets "chunk_ids" (isListOf 1 none (isTextOf 1 128)) fact &&
    memberMeets "confidence" (isOneOf ["low", "medium", "high"]) fact

/-- `_response_validator()` finds no error -/
def meetsResponseSchema (payload : Fields) : Bool :=
  onlyKeys ["schema_version", "facts"] payload && memberMeets "schema_version" (isOneOf ["1.1.0"]) payload &&
    memberMeets "facts" (isListOf 0 (some 64) (isObjectWith isFact)) payload

/-! ## Identifiers -/

def hexDigit (lib : Library) (c : Char) : Option Nat := ((Uuid.hexVal c).map Fin.val).or (lib.decimal c)

/-- digits with single underscores between them; `afterDigit` tells whether an underscore, or the end, may stand here -/
def hexDigits (lib : Library) : Bool → List Char → Option (List Nat)
  | afterDigit, [] => if afterDigit then some [] else none
  | afterDigit, c :: cs =>
    if c = '_' then if afterDigit then hexDigits lib false cs else none
    else do
      let d ← hexDigit lib c
      let ds ← hexDigits lib true cs
      return d :: ds

/-- blanks that `int` strips: those of `str.isspace`, less the four separators of ASCII -/
def isIntSpace (c : Char) : Bool := Py.isSpace c && !(0x1c ≤ c.toNat && c.toNat ≤ 0x1f)

/-- a prefix `0x`, with an underscore after it -/
def dropHexPrefix : List Char → List Char
  | '0' :: x :: cs =>
    if x = 'x' ∨ x = 'X' then
      match cs with
      | '_' :: cs => cs
      | cs => cs
    else '0' :: x :: cs
  | cs => cs

/-- `int(hex, 16)` of a text without hyphens -/
def hexInt (lib : Library) (cs : List Char) : Option Nat :=
  let cs := match Py.stripChars isIntSpace cs with
    | '+' :: cs => cs
    | cs => cs
  (hexDigits lib false (dropHexPrefix cs)).map fun ds => ds.foldl (fun n d => 16 * n + d) 0

/-- `uuid.UUID(text)`: what it takes beside the documented form, which is all that `Uuid.parse` reads, counts here -/
def uuidOf (lib : Library) (text : String) : Option Uuid :=
  let cs := Py.chars text
  let cs := Uuid.removeAll ['u', 'u', 'i', 'd', ':'] cs.length (Uuid.removeAll ['u', 'r', 'n', ':'] cs.length cs)
  let cs := (Py.stripChars (fun c => c == '{' || c == '}') cs).filter (· != '-')
  if cs.length = 32 then (hexInt lib cs).map Uuid.ofNat else none

/-! ## Checking a response -/

/-- `f"{artifact_id}:{segment_index}"` -/
def segmentChunkId (artifactId : Uuid) (segmentIndex : Int) : String := artifactId.str ++ ":" ++ intTextOf segmentIndex

def prohibitedFactKeyPrefixes : List String :=
  ["data_origin", "sensitivity", "assessor", "findings", "poam", "official", "status", "routing"]

def isProhibitedFactKey (lib : Library) (factKey : String) : Bool :=
  prohibitedFactKeyPrefixes.any fun start => startsWith (lib.casefold factKey) start

def sourceBinding (detail : String) : MapResponseValidationError ⊕ PyError := .inl ⟨"source_binding", detail, false⟩

def textAt (key : String) (fact : Fields) : String := ((member key fact).bind asStr).getD ""

/-- the texts of a list member -/
def textsAt (key : String) (fact : Fields) : List String :=
  (((member key fact).bind asArr).getD []).filterMap asStr

/-- `int(item["segment_index"])` -/
def citedIndex (fact : Fields) : Int := ((member "segment_index" fact).bind asInteger).getD 0

/-- one fact of a response that meets the schema -/
def parseFact (lib : Library) (artifactId : Uuid) (includedSegments : List SegmentFact) (item : Json) :
    Except (MapResponseValidationError ⊕ PyError) ParsedMapFact := do
  let fact := (asObj item).getD []
  let factKey := textAt "fact_key" fact
  ensure (isProhibitedFactKey lib factKey = false)
    (.inl ⟨"prohibited_prefix", "prohibited fact_key: " ++ factKey, false⟩)
  let sourceId ← orRaise (uuidOf lib (textAt "source_artifact_id" fact)) (.inr .valueError)
  ensure (sourceId = artifactId) (sourceBinding "source_artifact_id must match the MAP artifact")
  let segmentIndex := citedIndex fact
  ensure (segmentIndex ∈ includedSegments.map SegmentFact.segmentIndex)
    (sourceBinding "segment_index must reference an included segment")
  let chunkIds := textsAt "chunk_ids" fact
  let allowedChunkIds := includedSegments.map fun s => segmentChunkId artifactId s.segmentIndex
  ensure (segmentChunkId artifactId segmentIndex ∈ chunkIds ∧ ∀ id ∈ chunkIds, id ∈ allowedChunkIds)
    (sourceBinding "chunk_ids must include the cited segment and reference only included chunks")
  return { factKey, value := (member "value" fact).getD .null, valueKind := textAt "value_kind" fact
           sourceArtifactId := sourceId, segmentIndex, chunkIds, confidence := textAt "confidence" fact }

/-- `facts_raw` -/
def factsOf (payload : Fields) : List Json := ((member "facts" payload).bind asArr).getD []

def validateAndParseMapResponse (lib : Library) (rawText : String) (artifactId : Uuid)
    (includedSegments : List SegmentFact) :
    Except (MapResponseValidationError ⊕ PyError) (List ParsedMapFact) := do
  let value ← orRaise (Extraction.parseResponseJson rawText) (.inl ⟨"parse", lib.parseMessage rawText, true⟩)
  let payload ← orRaise value.asObj (.inl ⟨"schema", "response must be a JSON object", true⟩)
  ensure (meetsResponseSchema payload) (.inl ⟨"schema", lib.schemaMessage value, true⟩)
  (factsOf payload).mapM (parseFact lib artifactId includedSegments)

/-! ## Proposals -/

/-- `pointer.lstrip("/").replace("/", ".")` -/
def factKeyOf (pointer : String) : String :=
  String.ofList (((Py.chars pointer).dropWhile (· = '/')).map fun c => if c = '/' then '.' else c)

def allowedMapFactKeys : List String :=
  (fismaTargets ++ fedramp20xTargets ++ fedrampRev5Targets).map fun spec => factKeyOf spec.pointer

def targetPointerForMapFactKey (factKey : String) : Option String :=
  if factKey ∈ allowedMapFactKeys then
    some (String.ofList ('/' :: (Py.chars factKey).map fun c => if c = '.' then '/' else c))
  else none

/-- the proposal of a fact, or the gap that takes its place; the locators are those of the extraction, by segment -/
def proposalFromMapFact (fact : ParsedMapFact) (artifactSha256 : String) (segmentLocators : Int → Option Fields)
    (modelStepId : Uuid) (stepKey : String) : Except IntakeGap IntakeMapProposal := do
  ensure (fact.valueKind ≠ "unknown")
    { targetPointer := "", reason := "unsupported_value_kind", stepKey := some stepKey }
  let targetPointer ← orRaise (targetPointerForMapFactKey fact.factKey)
    { targetPointer := "", reason := "unmapped_fact_key:" ++ fact.factKey, stepKey := some stepKey }
  let segmentLocator ← orRaise (segmentLocators fact.segmentIndex)
    { targetPointer, reason := "missing_trusted_segment_locator", stepKey := some stepKey }
  ensure (fact.valueKind = "direct_evidence" ∨ fact.valueKind = "inference")
    { targetPointer, reason := "unsupported_value_kind", stepKey := some stepKey }
  let chunkId := fact.chunkIds.head?
  let sourceLocator := match chunkId with
    | some chunk => setDefault "chunk_id" (.str chunk) segmentLocator
    | none => segmentLocator
  return { targetPointer, proposedValue := fact.value, evidenceKind := fact.valueKind
           sourceArtifactId := fact.sourceArtifactId, sourceSha256 := artifactSha256
           sourceLocator := setDefault "segment_index" (.int fact.segmentIndex) sourceLocator
           modelStepId, confidence := fact.confidence, chunkId, segmentIndex := some fact.segmentIndex, stepKey }

/-! ## What an accepted fact names -/

/-- the facts that a response text writes -/
def responseItems (rawText : String) : List Fields :=
  (((Extraction.parseResponseJson rawText).bind asObj).map factsOf).getD [] |>.map fun item => (asObj item).getD []

/-- the fact names the artifact, an included segment, and only included chunks, that of the segment among them -/
structure Bound (artifactId : Uuid) (includedSegments : List SegmentFact) (fact : ParsedMapFact) : Prop where
  artifact : fact.sourceArtifactId = artifactId
  segment : ∃ s ∈ includedSegments, s.segmentIndex = fact.segmentIndex
  own : segmentChunkId artifactId fact.segmentIndex ∈ fact.chunkIds
  chunks : ∀ id ∈ fact.chunkIds, ∃ s ∈ includedSegments, id = segmentChunkId artifactId s.segmentIndex

/-- the locator is the trusted one; the chunk and the index that it may lack are those of the segment -/
def LocatorOf (artifactId : Uuid) (segmentIndex : Int) (trusted locator : Fields) : Prop :=
  ∀ key, member key locator = (member key trusted).or
    (if key = "chunk_id" then some (.str (segmentChunkId artifactId segmentIndex))
      else if key = "segment_index" then some (.int segmentIndex) else none)

/-- every proposal that is made of the fact carries the chunk and a locator of the segment that the fact cites -/
def PointsAtSegment (artifactId : Uuid) (fact : ParsedMapFact) : Prop :=
  ∀ (artifactSha256 : String) (segmentLocators : Int → Option Fields) (modelStepId : Uuid) (stepKey : String)
    (proposal : IntakeMapProposal),
    proposalFromMapFact fact artifactSha256 segmentLocators modelStepId stepKey = .ok proposal →
    proposal.sourceArtifactId = artifactId ∧ proposal.segmentIndex = some fact.segmentIndex ∧
      proposal.chunkId = some (segmentChunkId artifactId fact.segmentIndex) ∧
      ∃ trusted, segmentLocators fact.segmentIndex = some trusted ∧
        LocatorOf artifactId fact.segmentIndex trusted proposal.sourceLocator

/-- a fact that can make a proposal: its list of chunks starts with the chunk of the segment that it cites -/
def OwnChunkFirst (artifactId : Uuid) (item : Fields) : Prop :=
  textAt "value_kind" item = "direct_evidence" ∨ textAt "value_kind" item = "inference" →
    (targetPointerForMapFactKey (textAt "fact_key" item)).isSome →
    (textsAt "chunk_ids" item).head? = some (segmentChunkId artifactId (citedIndex item))

theorem minus_notMem_digits (n : Nat) : '-' ∉ digits n := by
  intro h
  have hdigit := JsonText.isDigit_of_mem_digits h
  exact absurd hdigit (by decide)

theorem intTextOf_injective {m n : Int} (h : intTextOf m = intTextOf n) : m = n := by
  have htext : intText m = intText n := String.ofList_injective h
  unfold intText at htext
  split_ifs at htext with hm hn hn
  · have habs := Audit.digits_injective (List.cons.inj htext).2
    omega
  · have hminus : '-' ∈ digits n.natAbs := by
      have hleft : '-' ∈ ['-'] ++ digits m.natAbs := List.mem_append_left _ (List.mem_singleton.2 rfl)
      rwa [htext, List.nil_append] at hleft
    exact absurd hminus (minus_notMem_digits _)
  · have hminus : '-' ∈ digits m.natAbs := by
      have hright : '-' ∈ ['-'] ++ digits n.natAbs := List.mem_append_left _ (List.mem_singleton.2 rfl)
      rwa [← htext, List.nil_append] at hright
    exact absurd hminus (minus_notMem_digits _)
  · have habs := Audit.digits_injective htext
    omega

/-- a chunk belongs to one segment -/
theorem segmentChunkId_injective {artifactId : Uuid} {m n : Int}
    (h : segmentChunkId artifactId m = segmentChunkId artifactId n) : m = n := by
  unfold segmentChunkId at h
  rw [String.append_right_inj] at h
  exact intTextOf_injective h

section

variable {lib : Library} {artifactId : Uuid} {includedSegments : List SegmentFact}

theorem parseFact_eq_ok {item : Json} {fact : ParsedMapFact}
    (h : parseFact lib artifactId includedSegments item = .ok fact) :
    Bound artifactId includedSegments fact ∧ fact.factKey = textAt "fact_key" ((asObj item).getD []) ∧
      fact.valueKind = textAt "value_kind" ((asObj item).getD []) ∧
      fact.segmentIndex = citedIndex ((asObj item).getD []) ∧
      fact.chunkIds = textsAt "chunk_ids" ((asObj item).getD []) := by
  simp only [parseFact, bind_eq_ok, ensure_eq_ok, orRaise_eq_ok, pure_eq_ok] at h
  obtain ⟨-, -, sourceId, -, -, hsource, -, hindex, -, ⟨hown, hchunks⟩, rfl⟩ := h
  refine ⟨⟨hsource, ?_, hown, ?_⟩, rfl, rfl, rfl, rfl⟩
  · exact List.mem_map.1 hindex
  · intro id hid
    obtain ⟨s, hs, heq⟩ := List.mem_map.1 (hchunks id hid)
    exact ⟨s, hs, heq.symm⟩

/-- the facts of an accepted response are those that its text writes, each checked -/
theorem accepted_facts {rawText : String} {facts : List ParsedMapFact}
    (h : validateAndParseMapResponse lib rawText artifactId includedSegments = .ok facts) :
    ∃ items : List Json, responseItems rawText = items.map (fun item => (asObj item).getD []) ∧
      items.mapM (parseFact lib artifactId includedSegments) = .ok facts := by
  simp only [validateAndParseMapResponse, bind_eq_ok, ensure_eq_ok, orRaise_eq_ok] at h
  obtain ⟨value, hvalue, payload, hpayload, -, -, hfacts⟩ := h
  refine ⟨factsOf payload, ?_, hfacts⟩
  rw [responseItems, hvalue, Option.bind_some, hpayload, Option.map_some, Option.getD_some]

end

/-! ## No other exception -/

section

variable {lib : Library} {artifactId : Uuid} {includedSegments : List SegmentFact}

end

/-! ## What its proposal points at -/

theorem member_setDefault (key key' : String) (value : Json) (fields : Fields) :
    member key (setDefault key' value fields) = (member key fields).or (if key = key' then some value else none) := by
  unfold setDefault
  split_ifs with hthere hkey hkey
  · subst hkey
    obtain ⟨v, hv⟩ := Option.isSome_iff_exists.1 hthere
    rw [hv, Option.some_or]
  · rw [Option.or_none]
  · subst hkey
    rw [Option.not_isSome_iff_eq_none] at hthere
    have hnone : fields.find? (fun x => x.1 == key) = none := Option.map_eq_none_iff.1 hthere
    simp [member, KeyedList.get?, List.find?_append, hnone]
  · simp [member, KeyedList.get?, List.find?_append, Ne.symm hkey]

/-- a proposal is made of a fact of a known kind, with a target and a trusted locator; it names the first chunk -/
theorem proposalFromMapFact_eq_ok {fact : ParsedMapFact} {artifactSha256 stepKey : String}
    {segmentLocators : Int → Option Fields} {modelStepId : Uuid} {proposal : IntakeMapProposal}
    (h : proposalFromMapFact fact artifactSha256 segmentLocators modelStepId stepKey = .ok proposal) :
    (fact.valueKind = "direct_evidence" ∨ fact.valueKind = "inference") ∧
      (targetPointerForMapFactKey fact.factKey).isSome ∧
      proposal.sourceArtifactId = fact.sourceArtifactId ∧ proposal.segmentIndex = some fact.segmentIndex ∧
      proposal.chunkId = fact.chunkIds.head? ∧
      ∃ trusted, segmentLocators fact.segmentIndex = some trusted ∧
        proposal.sourceLocator = setDefault "segment_index" (.int fact.segmentIndex)
          (match fact.chunkIds.head? with
            | some chunk => setDefault "chunk_id" (.str chunk) trusted
            | none => trusted) := by
  simp only [proposalFromMapFact, bind_eq_ok, ensure_eq_ok, orRaise_eq_ok, pure_eq_ok] at h
  obtain ⟨-, -, pointer, hpointer, trusted, htrusted, -, hkind, rfl⟩ := h
  exact ⟨hkind, by rw [hpointer]; rfl, rfl, rfl, rfl, trusted, htrusted, rfl⟩

/-- a fact whose list of chunks starts with that of its segment makes proposals that point at the segment -/
theorem pointsAtSegment_of_head {artifactId : Uuid} {fact : ParsedMapFact} (hsource : fact.sourceArtifactId = artifactId)
    (hhead : fact.valueKind = "direct_evidence" ∨ fact.valueKind = "inference" →
      (targetPointerForMapFactKey fact.factKey).isSome →
      fact.chunkIds.head? = some (segmentChunkId artifactId fact.segmentIndex)) :
    PointsAtSegment artifactId fact := by
  intro artifactSha256 segmentLocators modelStepId stepKey proposal h
  obtain ⟨hkind, hpointer, hartifact, hindex, hchunk, trusted, htrusted, hlocator⟩ := proposalFromMapFact_eq_ok h
  have hfirst := hhead hkind hpointer
  refine ⟨hartifact.trans hsource, hindex, hchunk.trans hfirst, trusted, htrusted, ?_⟩
  intro key
  rw [hlocator, hfirst, member_setDefault, member_setDefault, Option.or_assoc]
  split_ifs <;> simp

/-- a fact with a target, of a kind that makes proposals, makes one where its segment has a locator -/
theorem exists_proposal {fact : ParsedMapFact} (hkind : fact.valueKind = "direct_evidence" ∨ fact.valueKind = "inference")
    (hpointer : (targetPointerForMapFactKey fact.factKey).isSome) (modelStepId : Uuid) :
    ∃ proposal, proposalFromMapFact fact "" (fun _ => some []) modelStepId "" = .ok proposal := by
  obtain ⟨pointer, hpointer⟩ := Option.isSome_iff_exists.1 hpointer
  have hknown : fact.valueKind ≠ "unknown" := by
    rcases hkind with hkind | hkind <;> rw [hkind] <;> decide
  simp only [proposalFromMapFact, bind_eq_ok, ensure_eq_ok, orRaise_eq_ok, pure_eq_ok]
  exact ⟨_, (), hknown, pointer, hpointer, [], rfl, (), hkind, rfl⟩

/-- the proposals of a checked fact point at its segment exactly where the fact lists the chunk of the segment first -/
theorem pointsAtSegment_iff {lib : Library} {artifactId : Uuid} {includedSegments : List SegmentFact} {item : Json}
    {fact : ParsedMapFact} (h : parseFact lib artifactId includedSegments item = .ok fact) :
    PointsAtSegment artifactId fact ↔ OwnChunkFirst artifactId ((asObj item).getD []) := by
  obtain ⟨hbound, hkey, hkind, hindex, hchunks⟩ := parseFact_eq_ok h
  unfold OwnChunkFirst
  rw [← hkey, ← hkind, ← hindex, ← hchunks]
  constructor
  · intro hpoints hproposes hpointer
    obtain ⟨proposal, hproposal⟩ := exists_proposal hproposes hpointer artifactId
    obtain ⟨-, -, -, -, hchunk, -⟩ := proposalFromMapFact_eq_ok hproposal
    obtain ⟨-, -, hown, -⟩ := hpoints _ _ _ _ _ hproposal
    exact hchunk.symm.trans hown
  · intro hhead
    exact pointsAtSegment_of_head hbound.artifact hhead

/-- **Proposals point at the segments that their facts cite** exactly where every fact of the response that can make one
lists the chunk of its segment first; what the facts name is checked in any case. -/
theorem proposals_point_at_segments_iff (lib : Library) (rawText : String) (artifactId : Uuid)
    (includedSegments : List SegmentFact) (facts : List ParsedMapFact)
    (h : validateAndParseMapResponse lib rawText artifactId includedSegments = .ok facts) :
    (∀ fact ∈ facts, Bound artifactId includedSegments fact ∧ PointsAtSegment artifactId fact) ↔
      ∀ item ∈ responseItems rawText, OwnChunkFirst artifactId item := by
  obtain ⟨items, hitems, hparsed⟩ := accepted_facts h
  rw [hitems, List.forall_mem_map]
  apply forall_mapM_iff hparsed
  intro item fact hitem
  rw [pointsAtSegment_iff hitem]
  exact and_iff_right (parseFact_eq_ok hitem).1

/-! ## Samples -/

/-- the casefold of a text in lower case is the text -/
def sampleLibrary : Library := ⟨fun _ => "Expecting value", fun _ => "schema", id, fun _ => none⟩

def sampleArtifact : Uuid := .ofNat 1

def sampleSegments : List SegmentFact :=
  [⟨1, "Payroll", [("kind", .str "page"), ("page", .int 1)], "pdf_text", false⟩,
    ⟨2, "Benefits", [("kind", .str "page"), ("page", .int 2)], "pdf_text", false⟩]

/-- a fact of a segment, which cites these chunks -/
def factText (segmentIndex chunkIds : String) : String :=
  "\x7b\"fact_key\":\"package.title\",\"value\":\"Payroll\",\"value_kind\":\"direct_evidence\"," ++
    "\"source_artifact_id\":\"00000000-0000-0000-0000-000000000001\",\"segment_index\":" ++ segmentIndex ++
    ",\"chunk_ids\":[" ++ chunkIds ++ "],\"confidence\":\"high\"\x7d"

def responseOf (facts : String) : String := "\x7b\"schema_version\":\"1.1.0\",\"facts\":[" ++ facts ++ "]\x7d"

def ownChunk : String := "\"00000000-0000-0000-0000-000000000001:1\""

def otherChunk : String := "\"00000000-0000-0000-0000-000000000001:2\""

def factCiting (segmentIndex : Nat) (chunkIds : List String) : ParsedMapFact :=
  { factKey := "package.title", value := .str "Payroll", valueKind := "direct_evidence", sourceArtifactId := sampleArtifact
    segmentIndex, chunkIds, confidence := "high" }

/-- a fact of each segment, the first of which cites both chunks, its own before the other -/
def ownFirst : String := responseOf (factText "1" (ownChunk ++ "," ++ otherChunk) ++ "," ++ factText "2" otherChunk)

def ownFirstFacts : List ParsedMapFact :=
  [factCiting 1 ["00000000-0000-0000-0000-000000000001:1", "00000000-0000-0000-0000-000000000001:2"],
    factCiting 2 ["00000000-0000-0000-0000-000000000001:2"]]

set_option maxRecDepth 20000 in
theorem own_accepted :
    validateAndParseMapResponse sampleLibrary ownFirst sampleArtifact sampleSegments = .ok ownFirstFacts := by
  rfl

set_option maxRecDepth 20000 in
theorem both_accepted : validateAndParseMapResponse sampleLibrary
    (responseOf (factText "1" (otherChunk ++ "," ++ ownChunk))) sampleArtifact sampleSegments =
      .ok [factCiting 1 ["00000000-0000-0000-0000-000000000001:2", "00000000-0000-0000-0000-000000000001:1"]] := by
  rfl

theorem proposals_point_at_segments_title :
    (∀ fact ∈ ownFirstFacts, Bound sampleArtifact sampleSegments fact ∧ PointsAtSegment sampleArtifact fact) ↔
      ∀ item ∈ responseItems ownFirst, OwnChunkFirst sampleArtifact item :=
  proposals_point_at_segments_iff sampleLibrary _ _ _ _ own_accepted

/-- **A fact of segment 1 that lists the chunk of segment 2 first** is accepted, and its proposal names that chunk beside
the locator of segment 1. -/
theorem second_segment_proposed :
    ¬∀ (lib : Library) (rawText : String) (artifactId : Uuid) (includedSegments : List SegmentFact)
      (facts : List ParsedMapFact), validateAndParseMapResponse lib rawText artifactId includedSegments = .ok facts →
      ∀ fact ∈ facts, Bound artifactId includedSegments fact ∧ PointsAtSegment artifactId fact := by
  intro hall
  obtain ⟨-, hpoints⟩ := hall _ _ _ _ _ both_accepted _ (List.mem_singleton.2 rfl)
  have hmade : ∃ proposal, proposalFromMapFact (factCiting 1 ["00000000-0000-0000-0000-000000000001:2",
      "00000000-0000-0000-0000-000000000001:1"]) "" (fun _ => some []) sampleArtifact "" = .ok proposal :=
    exists_proposal (Or.inl rfl) (by decide) sampleArtifact
  obtain ⟨proposal, hproposal⟩ := hmade
  obtain ⟨-, -, -, -, hchunk, -⟩ := proposalFromMapFact_eq_ok hproposal
  obtain ⟨-, -, hown, -⟩ := hpoints _ _ _ _ _ hproposal
  rw [hchunk] at hown
  exact absurd hown (by decide)

end AtoService.MapResponse
