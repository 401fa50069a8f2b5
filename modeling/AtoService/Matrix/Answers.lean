/-
Answers without citations, gaps or questions: their text, and a reader of such text.

- `readRows_responseText`: the reader returns the rows that were written.
- `validateAndParseResponse_plain`: an answer with one such row an item is valid, for any reader that returns its rows.
-/
import AtoService.Lib.Escapes
import AtoService.Lib.JsonRoundTrip
import AtoService.Matrix.Runner

namespace AtoService.Matrix

open Results JsonText
open Escapes (PyError)

def MatrixStatus.text : MatrixStatus → String
  | .supported => "supported"
  | .partialSupport => "partial"
  | .unsupported => "unsupported"
  | .insufficientEvidence => "insufficient_evidence"

def MatrixStatus.ofText (s : String) : Option MatrixStatus :=
  [MatrixStatus.supported, .partialSupport, .unsupported, .insufficientEvidence].find? fun status => status.text = s

theorem MatrixStatus.ofText_text : ∀ status : MatrixStatus, MatrixStatus.ofText status.text = some status
  | .supported | .partialSupport | .unsupported | .insufficientEvidence => by decide

/-! ## The text of an answer -/

/-- a row that says nothing but its status and whether its context was complete -/
def plainRow (status : MatrixStatus) (contextComplete : Bool) (assessmentItemId : String) : ParsedMatrixRow :=
  { assessmentItemId, modelProposedStatus := status, findingSummary := "", gaps := [], assessorQuestions := []
    citations := [], contextComplete }

def plainFields (status : MatrixStatus) (contextComplete : Bool) (assessmentItemId : String) : List (String × Json) :=
  [("assessment_item_id", .str assessmentItemId), ("model_proposed_status", .str status.text),
    ("finding_summary", .str ""), ("gaps", .arr []), ("assessor_questions", .arr []), ("citations", .arr []),
    ("context_complete", .bool contextComplete)]

def responseFields (rows : List Json) : List (String × Json) := [("schema_version", .str "1.0.0"), ("rows", .arr rows)]

/-- the text of an answer with a plain row for each item -/
def responseText (status : MatrixStatus) (contextComplete : Bool) (ids : List String) : String :=
  String.ofList (Json.dumps .spaced (.obj (responseFields (ids.map fun k => .obj (plainFields status contextComplete k)))))

/-! ## Reading it -/

section

variable {ε : Type}

/-- `entry[key]`, of the kind that `read` takes -/
def required {α : Type} (key : String) (read : Json → Option α) (entry : List (String × Json)) :
    Except (ε ⊕ PyError) α := do
  let v ← orRaise (Json.member key entry) (.inr .keyError)
  orRaise (read v) (.inr .typeError)

/-- `entry.get(key) or []`, each item of the kind that `read` takes -/
def optionalItems {α : Type} (key : String) (read : Json → Option α) (entry : List (String × Json)) :
    Except (ε ⊕ PyError) (List α) :=
  match Json.member key entry with
  | none => .ok []
  | some v => do
    let items ← orRaise v.asArr (.inr .typeError)
    items.mapM fun item => orRaise (read item) (.inr .typeError)

def asBool : Json → Option Bool
  | .bool b => some b
  | _ => none

def readRow (item : Json) : Except (ε ⊕ PyError) ParsedMatrixRow := do
  let entry ← orRaise item.asObj (.inr .typeError)
  let assessmentItemId ← required "assessment_item_id" Json.asStr entry
  let status ← required "model_proposed_status" Json.asStr entry
  let modelProposedStatus ← orRaise (MatrixStatus.ofText status) (.inr .valueError)
  let findingSummary ← required "finding_summary" Json.asStr entry
  let gaps ← optionalItems "gaps" Json.asStr entry
  let assessorQuestions ← optionalItems "assessor_questions" Json.asStr entry
  let citations ← optionalItems "citations" Json.asObj entry
  let contextComplete ← required "context_complete" asBool entry
  return { assessmentItemId, modelProposedStatus, findingSummary, gaps, assessorQuestions, citations, contextComplete }

end

/-- the rows of a response that is not held against the schema -/
def readRows (rawText : String) : Except (FailureKind × String) (List ParsedMatrixRow) := do
  let payload ← orRaise (loads (Py.chars rawText)) (.parse, "response is not valid JSON")
  let fields ← orRaise payload.asObj (.schema, "response must be a JSON object")
  let rows ← orRaise ((Json.member "rows" fields).bind Json.asArr) (.schema, "rows must be an array")
  (rows.mapM readRow).mapError (Sum.elim id fun _ => (.schema, "rows are invalid"))

section

variable (status : MatrixStatus) (contextComplete : Bool)

theorem wellFormed_plainFields (k : String) : (Json.obj (plainFields status contextComplete k)).WellFormed := by
  refine ⟨?_, ?_⟩
  · change List.Nodup ["assessment_item_id", "model_proposed_status", "finding_summary", "gaps", "assessor_questions",
      "citations", "context_complete"]
    decide
  · simp [plainFields, Json.WellFormedFields, Json.WellFormed, Json.WellFormedItems]

theorem wellFormed_response (ids : List String) :
    (Json.obj (responseFields (ids.map fun k => .obj (plainFields status contextComplete k)))).WellFormed := by
  refine ⟨?_, ?_⟩
  · change List.Nodup ["schema_version", "rows"]
    decide
  · refine ⟨trivial, ?_, trivial⟩
    rw [Json.WellFormed, Json.wellFormedItems_iff]
    intro v hv
    obtain ⟨k, -, rfl⟩ := List.mem_map.1 hv
    exact wellFormed_plainFields status contextComplete k

theorem required_of_member {ε α : Type} {key : String} {read : Json → Option α} {entry : List (String × Json)} {v : Json}
    {a : α} (h : Json.member key entry = some v) (hread : read v = some a) :
    (required key read entry : Except (ε ⊕ PyError) α) = .ok a :=
  bind_eq_ok.2 ⟨v, orRaise_eq_ok.2 h, orRaise_eq_ok.2 hread⟩

theorem optionalItems_nil {ε α : Type} {key : String} {read : Json → Option α} {entry : List (String × Json)}
    (h : Json.member key entry = some (.arr [])) : (optionalItems key read entry : Except (ε ⊕ PyError) (List α)) = .ok [] := by
  rw [optionalItems, h]
  rfl

theorem readRow_plain {ε : Type} (k : String) :
    readRow (Json.obj (plainFields status contextComplete k)).canon =
      (.ok (plainRow status contextComplete k) : Except (ε ⊕ PyError) ParsedMatrixRow) := by
  rw [Json.canon_obj]
  have hmember (key : String) (v : Json) (h : Json.member key (plainFields status contextComplete k) = some v) :
      Json.member key ((KeyedList.sorted Prod.fst (plainFields status contextComplete k)).map fun p => (p.1, p.2.canon)) =
        some v.canon := by
    rw [member_canon (wellFormed_plainFields status contextComplete k), h]
    rfl
  refine bind_eq_ok.2 ⟨_, orRaise_eq_ok.2 rfl, bind_eq_ok.2 ⟨k, required_of_member (hmember _ (.str k) ?_) rfl,
    bind_eq_ok.2 ⟨status.text, required_of_member (hmember _ (.str status.text) ?_) rfl,
      bind_eq_ok.2 ⟨status, orRaise_eq_ok.2 (MatrixStatus.ofText_text status),
        bind_eq_ok.2 ⟨"", required_of_member (hmember _ (.str "") ?_) rfl,
          bind_eq_ok.2 ⟨[], optionalItems_nil (hmember _ (.arr []) ?_),
            bind_eq_ok.2 ⟨[], optionalItems_nil (hmember _ (.arr []) ?_),
              bind_eq_ok.2 ⟨[], optionalItems_nil (hmember _ (.arr []) ?_),
                bind_eq_ok.2 ⟨contextComplete, required_of_member (hmember _ (.bool contextComplete) ?_) rfl, rfl⟩⟩⟩⟩⟩⟩⟩⟩⟩
  all_goals simp [plainFields, Json.member, KeyedList.get?]

theorem mapM_readRow {ε : Type} (ids : List String) :
    (ids.map fun k => Json.canon (.obj (plainFields status contextComplete k))).mapM readRow =
      (.ok (ids.map (plainRow status contextComplete)) : Except (ε ⊕ PyError) (List ParsedMatrixRow)) := by
  induction ids with
  | nil => rfl
  | cons k ids ih =>
    rw [List.map_cons, List.mapM_cons, readRow_plain, ih]
    rfl

theorem readRows_responseText (ids : List String) :
    readRows (responseText status contextComplete ids) = .ok (ids.map (plainRow status contextComplete)) := by
  have hload := loads_dumps blanks_spaced (wellFormed_response status contextComplete ids)
  rw [readRows, responseText, Py.chars_eq, String.toList_ofList, hload, Json.canon_obj]
  refine bind_eq_ok.2 ⟨_, rfl, bind_eq_ok.2 ⟨_, rfl, bind_eq_ok.2
    ⟨ids.map fun k => Json.canon (.obj (plainFields status contextComplete k)), orRaise_eq_ok.2 ?_, ?_⟩⟩⟩
  · rw [member_canon (wellFormed_response status contextComplete ids)]
    simp [responseFields, Json.member, KeyedList.get?, Json.canon, Json.canonItems_eq, Json.asArr]
  · rw [mapM_readRow]
    rfl

end

/-! ## Valid answers -/

/-- what a reader does with plain answers that the schema admits, and with the texts of the markers -/
structure ReadsPlain (reader : Reader) : Prop where
  rows : ∀ (status : MatrixStatus) (contextComplete : Bool) (ids : List String), ids ≠ [] → ids.length ≤ maxBatchSize →
    (∀ k ∈ ids, isAssessmentItemId k = true) →
    reader.readResponse (responseText status contextComplete ids) = .ok (ids.map (plainRow status contextComplete))
  empty : reader.casefold "" = []
  markers : ∀ marker ∈ prohibitedTextMarkers, reader.casefold marker ≠ []

/-- a model that answers every batch with plain rows -/
def answering (reader : Reader) (status : MatrixStatus) (contextComplete : Bool) : Services :=
  { toReader := reader
    complete := fun bundle _ _ => .ok (responseText status contextComplete bundle.assessmentItemIds) }

section

variable {services : Services} (hreads : ReadsPlain services.toReader)
include hreads

theorem hasProhibitedText_empty : hasProhibitedText services "" = false := by
  rw [hasProhibitedText, List.any_eq_false]
  intro marker hmarker
  rw [hreads.empty]
  have hne := hreads.markers marker hmarker
  cases hfold : services.casefold marker with
  | nil => exact absurd hfold hne
  | cons c cs => simp

theorem checkRows_plain (status : MatrixStatus) (contextComplete : Bool) {ids seen : List String} (hnodup : ids.Nodup)
    (hseen : ∀ k ∈ ids, k ∉ seen) : checkRows services seen (ids.map (plainRow status contextComplete)) = .ok () := by
  induction ids generalizing seen with
  | nil => rfl
  | cons k ids ih =>
    rw [List.nodup_cons] at hnodup
    have hfields : validateProtectedRowFields services (plainRow status contextComplete k) = .ok () :=
      bind_eq_ok.2 ⟨(), ensure_eq_ok.2 (hasProhibitedText_empty hreads), rfl⟩
    refine bind_eq_ok.2 ⟨(), ensure_eq_ok.2 (hseen k List.mem_cons_self), bind_eq_ok.2 ⟨(), hfields, ih hnodup.2 ?_⟩⟩
    intro j hj hmem
    rcases List.mem_cons.1 hmem with rfl | hmem
    · exact hnodup.1 hj
    · exact hseen j (List.mem_cons_of_mem _ hj) hmem

theorem validateAndParseResponse_plain (status : MatrixStatus) (contextComplete : Bool) {ids : List String}
    (hne : ids ≠ []) (hlength : ids.length ≤ maxBatchSize) (hids : ∀ k ∈ ids, isAssessmentItemId k = true)
    (hnodup : ids.Nodup) :
    validateAndParseResponse services (responseText status contextComplete ids) ids =
      .ok (ids.map (plainRow status contextComplete)) := by
  have hkeys : (ids.map (plainRow status contextComplete)).map ParsedMatrixRow.assessmentItemId = ids := by
    rw [List.map_map]
    exact List.map_id ids
  rw [validateAndParseResponse, hreads.rows status contextComplete ids hne hlength hids]
  refine bind_eq_ok.2 ⟨_, rfl, bind_eq_ok.2 ⟨(), checkRows_plain hreads status contextComplete hnodup ?_, ?_⟩⟩
  · exact fun k _ => List.not_mem_nil
  · rw [hkeys, requireExactMatrixCoverage_eq_ok.2 ⟨hids, hnodup, .refl _⟩]
    rfl

end

/-- a reader of plain answers; it folds the letters of ASCII -/
def plainReader : Reader where
  readResponse := readRows
  casefold s := (Py.chars s).map Char.toLower

theorem readsPlain_plainReader : ReadsPlain plainReader where
  rows status contextComplete ids _ _ _ := readRows_responseText status contextComplete ids
  empty := by decide
  markers := by decide

end AtoService.Matrix
