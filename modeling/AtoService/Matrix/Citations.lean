/-
Citations of matrix rows, checked against the citable texts of the sealed document.

A citation of evidence names a source, its digest and a span of its text, with the digest of that span as chunk identifier.
-/
import AtoService.Lib.Results
import AtoService.Sealed.Sources

namespace AtoService.Matrix

open AtoService.Sealed (CitableSource deriveChunkId isUuid4)

abbrev Citation := List (String × Json)

structure CitationValidationError where
  message : String
deriving DecidableEq, Repr

def citationText (key : String) (citation : Citation) : Option String := (Json.member key citation).bind Json.asStr

def citationOffset (key : String) (citation : Citation) : Option Int :=
  match Json.member key citation with
  | some (.int n) => some n
  | _ => none

def hasChunkId (citation : Citation) : Bool :=
  match Json.member "chunk_id" citation with
  | none => false
  | some .null => false
  | some _ => true

def lowered (s : String) : String := String.ofList ((Py.chars s).map Char.toLower)

/-- the source that a citation of evidence names -/
def citedSource (sources : List (String × CitableSource)) (sourceId : String) : Option CitableSource :=
  ((KeyedList.get? Prod.fst (lowered sourceId) sources).or (KeyedList.get? Prod.fst sourceId sources)).map Prod.snd

def validateEvidenceCitation (citation : Citation) (sources : List (String × CitableSource)) (sourceSha256 : String) :
    Except CitationValidationError Unit := do
  let sourceId ← Results.orRaise (citationText "source_id" citation) ⟨"citation source_id is required"⟩
  Results.ensure (isUuid4 (Py.chars (lowered sourceId))) ⟨"evidence citation source_id must be a UUID"⟩
  let source ← Results.orRaise (citedSource sources sourceId) ⟨"citation source_id is unknown to sealed content"⟩
  Results.ensure (source.sourceSha256 = sourceSha256) ⟨"citation source_sha256 does not match sealed source"⟩
  let startOffset ← Results.orRaise (citationOffset "start_offset" citation) ⟨"evidence citations require byte offsets"⟩
  let endOffset ← Results.orRaise (citationOffset "end_offset" citation) ⟨"evidence citations require byte offsets"⟩
  let text := Py.chars source.text
  Results.ensure (0 ≤ startOffset ∧ startOffset < endOffset ∧ endOffset ≤ text.length)
    ⟨"citation offsets are out of bounds"⟩
  let excerpt := (text.take endOffset.toNat).drop startOffset.toNat
  Results.ensure (citationText "chunk_id" citation =
      some (deriveChunkId source.sourceSha256 startOffset.toNat endOffset.toNat excerpt))
    ⟨"citation chunk_id does not match derived digest"⟩

def validateOneCitation (citation : Citation) (sources : List (String × CitableSource)) :
    Except CitationValidationError Unit := do
  let sourceKind := citationText "source_kind" citation
  Results.ensure (sourceKind = some "evidence" ∨ sourceKind = some "authoritative_reference" ∨
    sourceKind = some "derived_inference") ⟨"citation source_kind is invalid"⟩
  let sourceSha256 ← Results.orRaise (citationText "source_sha256" citation) ⟨"citation source_sha256 is invalid"⟩
  Results.ensure (Audit.isSha256 sourceSha256) ⟨"citation source_sha256 is invalid"⟩
  if sourceKind = some "evidence" then validateEvidenceCitation citation sources sourceSha256
  else if sourceKind = some "authoritative_reference" then
    Results.ensure (hasChunkId citation = false) ⟨"authoritative_reference citations must not carry chunk_id"⟩
  else Results.ensure (hasChunkId citation = false) ⟨"derived_inference citations must not carry chunk_id"⟩

def validateCitations (citations : List Citation) (sources : List (String × CitableSource)) :
    Except CitationValidationError Unit := citations.forM fun citation => validateOneCitation citation sources

end AtoService.Matrix
