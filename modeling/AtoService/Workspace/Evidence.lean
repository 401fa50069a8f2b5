/-
Evidence: what is extracted from an uploaded file, the facts it becomes, and what removing an artifact leaves of a
revision.

What the extractors and the vision model return for a file is an `Extraction`. A fact of an artifact is filed under an
`EvidenceKey`, so that it never takes the key of a fact about the system (`EvidenceKey.text_ne`).
-/
import AtoService.Workspace.Editing

namespace AtoService.Workspace

/-! ## Keys -/

/-- the key of an extracted fact: a segment of an artifact, or the digest of an observation in an image -/
inductive EvidenceKey where
  | segment (artifactId : Uuid) (index : Nat)
  | vision (digest : List Char)
deriving DecidableEq, Repr

namespace EvidenceKey

def text : EvidenceKey → String
  | segment artifactId index => "evidence." ++ artifactId.str ++ "." ++ toString index
  | vision digest => "vf_" ++ String.ofList digest

/-- the key starts as no key of a system fact does -/
theorem text_head (k : EvidenceKey) : k.text.toList.head? = some 'e' ∨ k.text.toList.head? = some 'v' := by
  cases k with
  | segment a i => exact Or.inl (by simp [text, String.toList_append])
  | vision d => exact Or.inr (by simp [text, String.toList_append])

theorem text_ne (k : EvidenceKey) {s : String} (h : s.toList.head? ≠ some 'e' ∧ s.toList.head? ≠ some 'v') :
    k.text ≠ s := by
  rintro rfl
  exact k.text_head.elim h.1 h.2

end EvidenceKey

/-! ## Extraction -/

/-- one segment of an extracted text; no extractor leaves a locator empty -/
structure Segment where
  index : Nat
  text : String
  locator : List (String × Json)
  nonempty : locator ≠ []
  extractionMethod : String
deriving Repr

/-- an observation of the vision model, with its normalized bounding box -/
structure VisionFact where
  text : String
  excerpt : String
  x : PyFloat
  y : PyFloat
  width : PyFloat
  height : PyFloat
deriving Repr

structure Extraction where
  detectedFormat : Option String
  segments : List Segment
  visionFacts : List VisionFact := []
  /-- why the vision pass was put off -/
  deferred : Option String := none
  /-- the extractor or the vision model gave up; what was read before stays -/
  failed : Bool := false
deriving Repr

/-- an entry of `extracted_segments` that carries a fact -/
structure ExtractedSegment where
  factKey : EvidenceKey
  text : String
  locator : List (String × Json)
  nonempty : locator ≠ []
  extractionMethod : String
deriving Repr

namespace VisionFact

/-- `_fact_id`: the digest of the observation in its source -/
def factKey (sourceId : Uuid) (v : VisionFact) : EvidenceKey :=
  let canonical := (Json.obj [("source_id", .str sourceId.str), ("text", .str v.text), ("excerpt", .str v.excerpt),
    ("locator", .obj [("x", .float v.x), ("y", .float v.y), ("width", .float v.width), ("height", .float v.height)])])
  .vision ((Py.chars (Sha.sha256Hex (canonical.dumps .compact))).take 24)

def locator (v : VisionFact) : List (String × Json) :=
  [("kind", .str "image_region"), ("x", .float v.x), ("y", .float v.y), ("width", .float v.width),
    ("height", .float v.height), ("excerpt", .str v.excerpt)]

end VisionFact

namespace Extraction

/-- the entries that carry a fact: the segments of the text, then the observations -/
def extractedSegments (e : Extraction) (artifactId : Uuid) : List ExtractedSegment :=
  (e.segments.map fun s => ⟨.segment artifactId s.index, s.text, s.locator, s.nonempty, s.extractionMethod⟩) ++
    e.visionFacts.map fun v => ⟨v.factKey artifactId, v.text, v.locator, by simp [VisionFact.locator], "vision"⟩

end Extraction

namespace ExtractedSegment

/-- the fact of an entry -/
def fact (artifactId : Uuid) (s : ExtractedSegment) : Except Err FactContent :=
  validated FactContent.firstError
    { key := s.factKey.text
      value := .str s.text
      provenance := .extracted
      evidence := [⟨artifactId, s.locator, s.nonempty⟩] }

/-- an entry after the JSONB column of its artifact -/
def jsonb (s : ExtractedSegment) : ExtractedSegment :=
  ⟨s.factKey, s.text, s.locator.map fun p => (p.1, p.2.jsonb), by simpa using s.nonempty, s.extractionMethod⟩

end ExtractedSegment

/-! ## Revisions -/

/-- the facts of a file filed into a revision; nothing is validated again -/
def addExtractedFacts (current : RevisionContent) (facts : List FactContent) : RevisionContent :=
  { current with facts := sortFacts (KeyedList.update FactContent.key current.factDict facts) }

def withoutArtifact (artifactId : Uuid) (links : List EvidenceLink) : List EvidenceLink :=
  links.filter fun l => l.artifactId ≠ artifactId

/-- a fact without the artifact's links; one that had no others goes -/
def retainedFact (artifactId : Uuid) (f : FactContent) : Option FactContent :=
  let links := withoutArtifact artifactId f.evidence
  if links.isEmpty && !f.evidence.isEmpty then none else some { f with evidence := links }

/-- the content left when one artifact is hidden; nothing is validated again -/
def removeArtifact (content : RevisionContent) (artifactId : Uuid) : RevisionContent :=
  { content with
    facts := content.facts.filterMap (retainedFact artifactId)
    sections := content.sections.map fun s => { s with evidence := withoutArtifact artifactId s.evidence }
    controls := content.controls.map fun c => { c with evidence := withoutArtifact artifactId c.evidence } }

/-- whether generation or agent analysis has begun on the content itself -/
def analysisStarted (content : RevisionContent) : Bool :=
  (content.sections.any fun s => s.state ≠ .empty) || (content.controls.any fun c => c.state ≠ .empty) ||
    !content.questions.isEmpty

/-- `_content_evidence_ids(content)` -/
def contentEvidenceIds (content : RevisionContent) : List Uuid :=
  ((content.facts.flatMap FactContent.evidence ++ content.sections.flatMap SectionContent.evidence) ++
    content.controls.flatMap ControlContent.evidence).map EvidenceLink.artifactId

end AtoService.Workspace
