/-
Rows of the matrix and the answers that they were made from.

A row that the model answered goes through the reader, `_deterministic_row_payload`, the ceilings, once for its batch and
once for the run, and the table of rows. `runBatches_carried` follows the entries of all accepted responses through them,
in order: each becomes one row, with its item, status, summary and citations. The gaps and the questions of an entry are
dropped, and the row has those of a row without evidence. So the rows carry the answers exactly where the entries have no
other (`rows_carry_answers_iff`).
-/
import AtoService.Analyzer.Worker
import AtoService.Matrix.Completeness
import AtoService.Matrix.Responses

namespace AtoService.Matrix.Carried

open Json JsonSchema Results Escapes
open AtoService.Analyzer (MatrixRow)
open AtoService.Matrix.Responses (Messages outcome isMatrixRowProposal)

/-! ## What a response says -/

/-- the reader of responses, with the schema -/
def readerOf (messages : Messages) (casefold : String → List Char) : Reader where
  readResponse rawText :=
    match outcome (Responses.readRows messages rawText) with
    | .ok read => read
    | .error _ => .error (.schema, "")
  casefold := casefold

def servicesOf (messages : Messages) (casefold : String → List Char)
    (complete : FactBundle → Option Repair → Nat → Except CallError String) : Services :=
  { readerOf messages casefold with complete }

/-- the entries under `rows` -/
def entriesOf (rawText : String) : List Fields :=
  ((((Extraction.parseResponseJson rawText).bind asObj).bind (member "rows")).bind asArr).getD [] |>.filterMap asObj

/-- the row has what the entry gives for its item, and a system status that is no more favorable -/
structure Carries (entry : Fields) (row : RowPayload) : Prop where
  status : member "model_proposed_status" entry = some (.str row.modelProposedStatus.text)
  summary : member "finding_summary" entry = some (.str row.findingSummary)
  gaps : member "gaps" entry = some (.arr (row.gaps.map Json.str))
  questions : member "assessor_questions" entry = some (.arr (row.assessorQuestions.map Json.str))
  citations : member "citations" entry = some (.arr row.citations)
  lowered : row.systemStatus.rank ≤ row.modelProposedStatus.rank

/-- the entry is about the item -/
def IsAbout (entry : Fields) (assessmentItemId : String) : Prop :=
  member "assessment_item_id" entry = some (.str assessmentItemId)

/-- the gaps and the questions of a row without evidence -/
def SaysDefaults (entry : Fields) : Prop :=
  member "gaps" entry = some (.arr (if (member "model_proposed_status" entry).bind asStr = some "supported" then []
    else [.str "No usable evidence linked."])) ∧
  member "assessor_questions" entry = some (.arr [])

/-! ## The accepted responses of a run -/

section

variable (services : Services) (profile : Profile) (content : SealedContent) (request : ModelCallRequest)
  (inputBudgetTokens : Nat)

/-- the response that `invokeBatchWithRepair` takes the rows from -/
def acceptedResponse (bundle : FactBundle) (expectedIds : List String) : Option String :=
  match invokeSufficiencyModel services (sufficiencyModelRequest request) bundle none with
  | .error _ => none
  | .ok (raw, llmCallCount) =>
    match validateAndParseResponse services raw expectedIds with
    | .ok _ => some raw
    | .error e =>
      match invokeSufficiencyModel services { sufficiencyModelRequest request with currentLlmCallCount := llmCallCount }
        bundle (some ⟨[e.detail], raw⟩) with
      | .error _ => none
      | .ok (repaired, _) => some repaired

/-- the response of a batch, where the model is called -/
def batchResponse (batch : List String) (llmCallCount : Nat) : Option String :=
  if NeedsCall profile content batch then
    match buildFactBundle profile (modelIds profile batch) content inputBudgetTokens with
    | .error _ => none
    | .ok bundle =>
      acceptedResponse services { request with currentLlmCallCount := llmCallCount } bundle (modelIds profile batch)
  else none

def runResponses : List (List String) → List RowPayload → Nat → List String
  | [], _, _ => []
  | batch :: batches, payloads, llmCallCount =>
    (batchResponse services profile content request inputBudgetTokens batch llmCallCount).toList ++
      match runBatch services profile content request inputBudgetTokens batch payloads llmCallCount with
      | .ok (.going payloads llmCallCount) => runResponses batches payloads llmCallCount
      | _ => []

/-- the entries of all responses of a run that were accepted -/
def acceptedEntries (ids : List String) : List Fields :=
  (runResponses services profile content (sufficiencyModelRequest request) inputBudgetTokens (chunkAssessmentItemIds ids)
    [] request.currentLlmCallCount).flatMap entriesOf

/-- an item that the model is asked about -/
def Asked (row : RowPayload) : Prop := modelAllowed profile row.assessmentItemId = true ∧ indexEvidenceSources content ≠ []

/-- every stored row of the model has an entry about its item, and has what that entry gives -/
structure AnswersCarried (entries : List Fields) (rows : List MatrixRow) : Prop where
  answered : ∀ row ∈ rows, Asked profile content row.payload →
    ∃ entry ∈ entries, IsAbout entry row.payload.assessmentItemId
  carried : ∀ row ∈ rows, ∀ entry ∈ entries, IsAbout entry row.payload.assessmentItemId → Carries entry row.payload

end

/-- `session.add(MatrixRow(…))` for each payload -/
def storedRows (runId : Jobs.Uuid) (result : SufficiencyMatrixResult) : List MatrixRow :=
  result.rowPayloads.map (MatrixRow.mk runId)

/-! ## Reading -/

/-- the parsed row has what the entry gives -/
structure ReadFrom (entry : Fields) (r : ParsedMatrixRow) : Prop where
  item : IsAbout entry r.assessmentItemId
  status : member "model_proposed_status" entry = some (.str r.modelProposedStatus.text)
  summary : member "finding_summary" entry = some (.str r.findingSummary)
  gaps : member "gaps" entry = some (.arr (r.gaps.map Json.str))
  questions : member "assessor_questions" entry = some (.arr (r.assessorQuestions.map Json.str))
  citations : member "citations" entry = some (.arr (r.citations.map Json.obj))

section

variable {ε : Type} {entry : Fields} {key : String}

theorem asStr_eq_some {v : Json} {s : String} (h : v.asStr = some s) : v = .str s := by
  cases v <;> simp_all [asStr]

theorem asObj_eq_some {v : Json} {fs : Fields} (h : v.asObj = some fs) : v = .obj fs := by
  cases v <;> simp_all [asObj]

theorem asArr_eq_some {v : Json} {xs : List Json} (h : v.asArr = some xs) : v = .arr xs := by
  cases v <;> simp_all [asArr]

theorem member_of_required {s : String} (h : required key asStr entry = (.ok s : Except (ε ⊕ PyError) String)) :
    member key entry = some (.str s) := by
  simp only [required, bind_eq_ok, orRaise_eq_ok] at h
  obtain ⟨v, hv, hs⟩ := h
  rw [hv, asStr_eq_some hs]

/-- items that are read are those of the member, where there is one -/
theorem member_of_optionalItems {α : Type} {read : Json → Option α} {write : α → Json} {xs : List α}
    (hread : ∀ v x, read v = some x → v = write x) (hmember : (member key entry).isSome)
    (h : optionalItems key read entry = (.ok xs : Except (ε ⊕ PyError) (List α))) :
    member key entry = some (.arr (xs.map write)) := by
  obtain ⟨v, hv⟩ := Option.isSome_iff_exists.1 hmember
  unfold optionalItems at h
  rw [hv] at h
  obtain ⟨items, hitems, hxs⟩ := bind_eq_ok.1 h
  rw [hv, asArr_eq_some (orRaise_eq_ok.1 hitems)]
  have hall := mapM_eq_ok.1 hxs
  have heq : items = xs.map write := by
    clear hitems hxs h
    induction hall with
    | nil => rfl
    | cons hx _ ih => rw [List.map_cons, ← ih, hread _ _ (orRaise_eq_ok.1 hx)]
  rw [heq]

theorem text_of_ofText {s : String} {status : MatrixStatus} (h : MatrixStatus.ofText s = some status) : s = status.text := by
  have hfound := List.find?_some h
  exact (of_decide_eq_true hfound).symm

/-- a row that is read from an entry that meets the schema -/
theorem readFrom_of_readRow {r : ParsedMatrixRow} (hschema : isMatrixRowProposal entry = true)
    (h : readRow (.obj entry) = (.ok r : Except (ε ⊕ PyError) ParsedMatrixRow)) : ReadFrom entry r := by
  simp only [isMatrixRowProposal, Bool.and_eq_true] at hschema
  obtain ⟨⟨⟨⟨-, hgaps⟩, hquestions⟩, hcitations⟩, -⟩ := hschema
  have hsome {key : String} {test : Json → Bool} (hmeets : memberMeets key test entry = true) :
      (member key entry).isSome := by
    obtain ⟨v, hv, -⟩ := memberMeets_iff.1 hmeets
    rw [hv]
    rfl
  simp only [readRow, bind_eq_ok, orRaise_eq_ok, pure_eq_ok] at h
  obtain ⟨fields, hfields, id, hid, status, hstatus, proposed, hproposed, summary, hsummary, gaps, hgaps', questions,
    hquestions', citations, hcitations', complete, -, rfl⟩ := h
  obtain rfl := Option.some.inj hfields
  refine ⟨member_of_required hid, ?_, member_of_required hsummary, ?_, ?_, ?_⟩
  · rw [member_of_required hstatus, text_of_ofText hproposed]
  · exact member_of_optionalItems (fun _ _ => asStr_eq_some) (hsome hgaps) hgaps'
  · exact member_of_optionalItems (fun _ _ => asStr_eq_some) (hsome hquestions) hquestions'
  · exact member_of_optionalItems (fun _ _ => asObj_eq_some) (hsome hcitations) hcitations'

theorem readRows_readFrom {messages : Messages} {rawText : String} {rows : List ParsedMatrixRow}
    (h : Responses.readRows messages rawText = .ok rows) : List.Forall₂ ReadFrom (entriesOf rawText) rows := by
  simp only [Responses.readRows, bind_eq_ok, orRaise_eq_ok, ensure_eq_ok] at h
  obtain ⟨value, hvalue, payload, hpayload, -, hschema, items, hitems, hrows⟩ := h
  have hentries : entriesOf rawText = items.filterMap asObj := by
    rw [entriesOf, hvalue, Option.bind_some, hpayload, Option.bind_some, hitems, Option.getD_some]
  simp only [Responses.meetsResponseSchema, Bool.and_eq_true] at hschema
  obtain ⟨-, hlist⟩ := hschema
  obtain ⟨v, hv, hlist⟩ := memberMeets_iff.1 hlist
  obtain ⟨items', rfl, hall⟩ := eq_arr_of_isListOf hlist
  rw [hv, Option.bind_some] at hitems
  obtain rfl := Option.some.inj hitems
  rw [hentries]
  have hread := mapM_eq_ok.1 hrows
  clear hrows hentries hitems hv hlist hpayload
  induction hread with
  | nil => exact List.Forall₂.nil
  | cons hrow _ ih =>
    rw [List.forall_mem_cons] at hall
    obtain ⟨entry, rfl, hentry⟩ := eq_obj_of_isObjectWith hall.1
    exact List.Forall₂.cons (readFrom_of_readRow hentry hrow) (ih hall.2)

/-- rows that were accepted are those that the response gives -/
theorem validated_readFrom {messages : Messages} {casefold : String → List Char}
    {complete : FactBundle → Option Repair → Nat → Except CallError String} {rawText : String} {ids : List String}
    {rows : List ParsedMatrixRow}
    (h : validateAndParseResponse (servicesOf messages casefold complete) rawText ids = .ok rows) :
    List.Forall₂ ReadFrom (entriesOf rawText) rows := by
  simp only [validateAndParseResponse, bind_eq_ok, mapError_eq_ok, pure_eq_ok] at h
  obtain ⟨read, hread, -, -, -, -, rfl⟩ := h
  have hrows : Responses.readRows messages rawText = .ok read := by
    unfold servicesOf readerOf at hread
    simp only at hread
    cases hx : Responses.readRows messages rawText with
    | ok rows =>
      rw [hx] at hread
      rw [Except.ok.inj hread]
    | error e =>
      rw [hx] at hread
      cases e <;> cases hread
  exact readRows_readFrom hrows

end

/-! ## Payloads -/

/-- what `_deterministic_row_payload` makes of a row, with the ceilings -/
structure MadeFrom (r : ParsedMatrixRow) (row : RowPayload) : Prop where
  item : row.assessmentItemId = r.assessmentItemId
  status : row.modelProposedStatus = r.modelProposedStatus
  system : row.systemStatus = r.modelProposedStatus
  summary : row.findingSummary = r.findingSummary
  gaps : row.gaps = if r.modelProposedStatus = .supported then [] else ["No usable evidence linked."]
  questions : row.assessorQuestions = []
  citations : row.citations = r.citations.map Json.obj

section

variable {profile : Profile} {sources : List (String × Sealed.CitableSource)}

theorem madeFrom_rowsOf {rows : List ParsedMatrixRow} {payloads : List RowPayload}
    (h : rowsOf profile sources rows = .ok (.ok payloads)) : List.Forall₂ MadeFrom rows payloads := by
  induction rows generalizing payloads with
  | nil =>
    obtain rfl := Except.ok.inj (Except.ok.inj h)
    exact List.Forall₂.nil
  | cons r rows ih =>
    obtain ⟨one, hone, h⟩ := bind_eq_ok.1 h
    cases one with
    | error e => cases Except.ok.inj h
    | ok payload =>
      obtain ⟨rest, hrest, h⟩ := bind_eq_ok.1 h
      cases rest with
      | error e => cases Except.ok.inj h
      | ok payloads' =>
        obtain rfl := Except.ok.inj (Except.ok.inj h)
        refine List.Forall₂.cons ?_ (ih hrest)
        rw [rowOf] at hone
        split at hone
        · cases Except.ok.inj hone
        · obtain ⟨p, hp, hone⟩ := bind_eq_ok.1 hone
          obtain rfl := Except.ok.inj (Except.ok.inj hone)
          obtain ⟨t, -, hp⟩ := bind_eq_ok.1 hp
          rw [← Except.ok.inj hp]
          exact ⟨rfl, rfl, rfl, rfl, rfl, rfl, rfl⟩

/-- the ceilings set the system status of each row -/
theorem eq_map_of_applyCeilings {policy : StatusPolicy} {rows rows' : List RowPayload}
    (h : applyCeilingsToMatrixRowPayloads policy rows = .ok rows') :
    rows' = rows.map fun row => { row with systemStatus := row.modelProposedStatus } := by
  have hall := mapM_eq_ok.1 h
  clear h
  induction hall with
  | nil => rfl
  | cons hrow _ ih => rw [List.map_cons, ← ih, applyStatusCeiling_eq_ok hrow]

theorem madeFrom_rowsToPayloads {rows : List ParsedMatrixRow} {payloads : List RowPayload}
    (h : rowsToPayloads profile sources rows = .ok (.ok payloads)) : List.Forall₂ MadeFrom rows payloads := by
  obtain ⟨result, hrows, h⟩ := bind_eq_ok.1 h
  cases result with
  | error e => cases Except.ok.inj h
  | ok copied =>
    dsimp only at h
    split at h
    · cases Except.ok.inj h
    · rename_i adjusted hadjusted
      obtain rfl := Except.ok.inj (Except.ok.inj h)
      rw [eq_map_of_applyCeilings hadjusted]
      refine List.forall₂_map_right_iff.2 ((madeFrom_rowsOf hrows).imp fun r row hrow => ?_)
      obtain ⟨hitem, hstatus, -, hsummary, hgaps, hquestions, hcitations⟩ := hrow
      exact ⟨hitem, hstatus, hstatus, hsummary, hgaps, hquestions, hcitations⟩

/-! ## Batches -/

/-- the row was made from the entry -/
def GivenBy (entry : Fields) (row : RowPayload) : Prop := ∃ r, ReadFrom entry r ∧ MadeFrom r row

end

/-- the entries, each beside the row that it became, among the rows that some batches added; the other rows are about
items that the model is not asked about -/
structure BatchesCarried (profile : Profile) (content : SealedContent) (entries : List Fields)
    (new : List RowPayload) : Prop where
  given : ∃ answered, answered.Sublist new ∧ List.Forall₂ GivenBy entries answered ∧
    ∀ row ∈ new, Asked profile content row → row ∈ answered

section

variable {services : Services} {profile : Profile} {content : SealedContent} {request : ModelCallRequest}
  {inputBudgetTokens : Nat}

theorem BatchesCarried.without {new : List RowPayload} (h : ∀ row ∈ new, ¬Asked profile content row) :
    BatchesCarried profile content [] new :=
  ⟨[], List.nil_sublist _, List.Forall₂.nil, fun row hrow hasked => absurd hasked (h row hrow)⟩

theorem BatchesCarried.append {entries entries' : List Fields} {new new' : List RowPayload}
    (h : BatchesCarried profile content entries new) (h' : BatchesCarried profile content entries' new') :
    BatchesCarried profile content (entries ++ entries') (new ++ new') := by
  obtain ⟨answered, hsub, hgiven, hasked⟩ := h
  obtain ⟨answered', hsub', hgiven', hasked'⟩ := h'
  refine ⟨answered ++ answered', hsub.append hsub', List.rel_append hgiven hgiven', ?_⟩
  intro row hrow hrowAsked
  rcases List.mem_append.1 hrow with hrow | hrow
  · exact List.mem_append_left _ (hasked row hrow hrowAsked)
  · exact List.mem_append_right _ (hasked' row hrow hrowAsked)

/-- rows without evidence are about items that the model is not asked about -/
theorem not_asked_of_insufficientRows {summary : String → String} {ids : List String} {rows : List RowPayload}
    (h : insufficientRows profile summary ids = .ok rows)
    (hids : ∀ k ∈ ids, modelAllowed profile k = true → indexEvidenceSources content = []) :
    ∀ row ∈ rows, ¬Asked profile content row := by
  intro row hrow hasked
  exact hasked.2 ((madeWithout_of_insufficientRows h hids row hrow).notAsked hasked.1)

theorem acceptedResponse_of_ok {bundle : FactBundle} {ids : List String} {rows : List ParsedMatrixRow} {m : Nat}
    (h : invokeBatchWithRepair services request bundle ids = .ok (rows, m)) :
    ∃ raw, acceptedResponse services request bundle ids = some raw ∧
      validateAndParseResponse services raw ids = .ok rows := by
  obtain ⟨⟨raw, n⟩, hfirst, h⟩ := bind_eq_ok.1 h
  unfold acceptedResponse
  rw [hfirst]
  dsimp only at h ⊢
  cases hparsed : validateAndParseResponse services raw ids with
  | ok rows' =>
    rw [hparsed] at h
    obtain ⟨rfl, -⟩ := Prod.mk.inj (Except.ok.inj h)
    exact ⟨raw, rfl, hparsed⟩
  | error e =>
    rw [hparsed] at h
    dsimp only at h ⊢
    split_ifs at h
    obtain ⟨⟨repaired, n'⟩, hsecond, h⟩ := bind_eq_ok.1 h
    obtain ⟨rows', hrows, h⟩ := bind_eq_ok.1 h
    obtain ⟨rfl, -⟩ := Prod.mk.inj (Except.ok.inj h)
    rw [hsecond]
    exact ⟨repaired, rfl, mapError_eq_ok.1 hrows⟩

end

section

variable {messages : Messages} {casefold : String → List Char}
  {complete : FactBundle → Option Repair → Nat → Except CallError String} {profile : Profile} {content : SealedContent}
  {request : ModelCallRequest} {inputBudgetTokens : Nat}

/-- what a batch adds, when it does not stop the run -/
theorem runBatch_carried {batch : List String} {payloads payloads' : List RowPayload} {n m : Nat}
    (h : runBatch (servicesOf messages casefold complete) profile content request inputBudgetTokens batch payloads n =
      .ok (.going payloads' m)) :
    ∃ new, payloads' = payloads ++ new ∧ BatchesCarried profile content
      ((batchResponse (servicesOf messages casefold complete) profile content request inputBudgetTokens batch n).toList.flatMap
        entriesOf) new := by
  obtain ⟨fixed, hfixed, h⟩ := bind_eq_ok.1 h
  have hwithout : ∀ row ∈ fixed, ¬Asked profile content row := by
    refine not_asked_of_insufficientRows hfixed fun k hk hallowed => ?_
    have hnot := (List.mem_filter.1 hk).2
    simp [hallowed] at hnot
  dsimp only at h
  split_ifs at h with hmodel
  · have hnone : modelIds profile batch = [] := List.isEmpty_iff.1 hmodel
    obtain ⟨rfl, rfl⟩ := Progress.going.inj (Except.ok.inj h)
    have hresponse : batchResponse (servicesOf messages casefold complete) profile content request inputBudgetTokens batch
        n = none := if_neg fun hneeds => hneeds.1 hnone
    refine ⟨fixed, rfl, ?_⟩
    rw [hresponse]
    exact BatchesCarried.without hwithout
  · have hsome : modelIds profile batch ≠ [] := fun hnone => hmodel (List.isEmpty_iff.2 hnone)
    rw [runModelBatch] at h
    split at h
    · cases Except.ok.inj h
    · cases h
    · rename_i bundle hbundle
      have hsources := (evidenceSources_of_ok hbundle).1
      split_ifs at h with hempty
      · rw [hsources, List.isEmpty_iff] at hempty
        obtain ⟨rows, hrows, h⟩ := bind_eq_ok.1 h
        obtain ⟨rfl, rfl⟩ := Progress.going.inj (Except.ok.inj h)
        have hresponse : batchResponse (servicesOf messages casefold complete) profile content request inputBudgetTokens
            batch n = none := if_neg fun hneeds => hneeds.2 hempty
        refine ⟨fixed ++ rows, List.append_assoc _ _ _, ?_⟩
        rw [hresponse]
        refine BatchesCarried.without fun row hrow => ?_
        rcases List.mem_append.1 hrow with hrow | hrow
        · exact hwithout row hrow
        · exact not_asked_of_insufficientRows hrows (fun _ _ _ => hempty) row hrow
      · have hneeds : NeedsCall profile content batch :=
          ⟨hsome, fun hnone => hempty (by rw [hsources, hnone]; rfl)⟩
        split at h
        · cases Except.ok.inj h
        · rename_i rows count hinvoke
          obtain ⟨raw, hraw, hrows⟩ := acceptedResponse_of_ok hinvoke
          obtain ⟨result, hresult, h⟩ := bind_eq_ok.1 h
          cases result with
          | error e => cases Except.ok.inj h
          | ok new =>
            obtain ⟨rfl, rfl⟩ := Progress.going.inj (Except.ok.inj h)
            have hresponse : batchResponse (servicesOf messages casefold complete) profile content request
                inputBudgetTokens batch n = some raw := by
              rw [batchResponse, if_pos hneeds]
              have hbundle : buildFactBundle profile (modelIds profile batch) content inputBudgetTokens = .ok bundle := hbundle
              rw [hbundle]
              exact hraw
            refine ⟨fixed ++ new, List.append_assoc _ _ _, ?_⟩
            rw [hresponse, Option.toList_some, List.flatMap_singleton]
            have hnew : BatchesCarried profile content (entriesOf raw) new :=
              ⟨new, List.Sublist.refl _, forall₂_comp (validated_readFrom hrows) (madeFrom_rowsToPayloads hresult),
                fun _ hrow _ => hrow⟩
            exact (BatchesCarried.without hwithout).append hnew

/-- **The entries of a run, and the rows that they became**; by induction on the batches. -/
theorem runBatches_carried {batches : List (List String)} {payloads payloads' : List RowPayload} {n m : Nat}
    (h : runBatches (servicesOf messages casefold complete) profile content request inputBudgetTokens batches payloads n =
      .ok (.going payloads' m)) :
    ∃ new, payloads' = payloads ++ new ∧ BatchesCarried profile content
      ((runResponses (servicesOf messages casefold complete) profile content request inputBudgetTokens batches payloads
        n).flatMap entriesOf) new := by
  induction batches generalizing payloads n with
  | nil =>
    obtain ⟨rfl, rfl⟩ := Progress.going.inj (Except.ok.inj h)
    exact ⟨[], (List.append_nil _).symm, BatchesCarried.without fun _ hrow => absurd hrow List.not_mem_nil⟩
  | cons batch batches ih =>
    obtain ⟨progress, hbatch, h⟩ := bind_eq_ok.1 h
    cases progress with
    | stopped result => cases Except.ok.inj h
    | going payloads₁ n₁ =>
      obtain ⟨new, hnew, hhead⟩ := runBatch_carried hbatch
      obtain ⟨new', hnew', htail⟩ := ih h
      refine ⟨new ++ new', by rw [hnew', hnew, List.append_assoc], ?_⟩
      rw [runResponses, hbatch, List.flatMap_append]
      exact hhead.append htail

/-- the rows of an accepted run, with their statuses; no item has two of them -/
theorem runSufficiencyMatrix_carried {ids : List String} {r : SufficiencyMatrixResult}
    (h : runSufficiencyMatrix (servicesOf messages casefold complete) profile content request inputBudgetTokens ids = .ok r)
    (haccepted : r.validationOutcome = .accepted) :
    BatchesCarried profile content (acceptedEntries (servicesOf messages casefold complete) profile content request
      inputBudgetTokens ids) r.rowPayloads ∧ (r.rowPayloads.map RowPayload.assessmentItemId).Nodup := by
  obtain ⟨progress, hrun, h⟩ := bind_eq_ok.1 h
  cases progress with
  | stopped result =>
    obtain rfl := Except.ok.inj h
    exact absurd haccepted (runBatches_stopped hrun)
  | going payloads m =>
    obtain ⟨new, hnew, hcarried⟩ := runBatches_carried hrun
    rw [List.nil_append] at hnew
    subst hnew
    dsimp only at h
    split at h
    · obtain rfl := Except.ok.inj h
      exact ValidationOutcome.noConfusion haccepted
    · rename_i adjusted hadjusted
      split at h
      · obtain rfl := Except.ok.inj h
        exact ValidationOutcome.noConfusion haccepted
      · rename_i hcoverage
        obtain rfl := Except.ok.inj h
        obtain ⟨-, hnodup, hperm⟩ := requireExactMatrixCoverage_eq_ok.1 hcoverage
        refine ⟨?_, hperm.nodup_iff.2 hnodup⟩
        obtain ⟨answered, hsub, hgiven, hasked⟩ := hcarried
        show BatchesCarried profile content _ adjusted
        rw [eq_map_of_applyCeilings hadjusted]
        refine ⟨_, hsub.map _, List.forall₂_map_right_iff.2 (hgiven.imp fun entry row hrow => ?_), ?_⟩
        · obtain ⟨p, hread, hitem, hstatus, hsystem, hsummary, hgaps, hquestions, hcitations⟩ := hrow
          exact ⟨p, hread, hitem, hstatus, hstatus, hsummary, hgaps, hquestions, hcitations⟩
        · intro row hrow hrowAsked
          obtain ⟨row', hrow', rfl⟩ := List.mem_map.1 hrow
          exact List.mem_map_of_mem (hasked row' hrow' hrowAsked)

end

/-! ## What is carried -/

theorem item_of_given {entry : Fields} {row : RowPayload} (h : GivenBy entry row) : IsAbout entry row.assessmentItemId := by
  obtain ⟨r, hread, hmade⟩ := h
  rw [hmade.item]
  exact hread.item

theorem supported_iff (status : MatrixStatus) : status.text = "supported" ↔ status = .supported := by
  cases status <;> decide

/-- a row carries the entry that it was made from exactly where the entry has the gaps and the questions of a row without
evidence -/
theorem carries_iff {entry : Fields} {row : RowPayload} (h : GivenBy entry row) : Carries entry row ↔ SaysDefaults entry := by
  obtain ⟨r, hread, hitem, hstatus, hsystem, hsummary, hgaps, hquestions, hcitations⟩ := h
  have hdefaults : (if (member "model_proposed_status" entry).bind asStr = some "supported" then []
      else [Json.str "No usable evidence linked."]) = row.gaps.map Json.str := by
    have hsupported : (member "model_proposed_status" entry).bind asStr = some "supported" ↔
        r.modelProposedStatus = .supported := by
      rw [hread.status, Option.bind_some, ← supported_iff]
      exact Option.some_inj
    rw [hgaps]
    simp only [hsupported]
    split_ifs <;> rfl
  constructor
  · rintro ⟨-, -, hgaps', hquestions', -, -⟩
    refine ⟨?_, ?_⟩
    · rw [hdefaults]
      exact hgaps'
    · rw [hquestions', hquestions]
      rfl
  · rintro ⟨hgaps', hquestions'⟩
    rw [hdefaults] at hgaps'
    refine ⟨?_, ?_, hgaps', ?_, ?_, ?_⟩
    · rw [hread.status, hstatus]
    · rw [hread.summary, hsummary]
    · rw [hquestions', hquestions]
      rfl
    · rw [hread.citations, hcitations]
    · rw [hsystem, hstatus]

section

variable {messages : Messages} {casefold : String → List Char}
  {complete : FactBundle → Option Repair → Nat → Except CallError String} {profile : Profile} {content : SealedContent}
  {request : ModelCallRequest} {inputBudgetTokens : Nat} {ids : List String} {r : SufficiencyMatrixResult}

theorem saysDefaults_of_carried {runId : Jobs.Uuid}
    (h : runSufficiencyMatrix (servicesOf messages casefold complete) profile content request inputBudgetTokens ids = .ok r)
    (haccepted : r.validationOutcome = .accepted)
    (hcarried : AnswersCarried profile content (acceptedEntries (servicesOf messages casefold complete) profile content
      request inputBudgetTokens ids) (storedRows runId r)) :
    ∀ entry ∈ acceptedEntries (servicesOf messages casefold complete) profile content request inputBudgetTokens ids,
      SaysDefaults entry := by
  obtain ⟨⟨answered, hsub, hgiven, -⟩, -⟩ := runSufficiencyMatrix_carried h haccepted
  intro entry hentry
  obtain ⟨row, hrow, hgivenRow⟩ := exists_of_forall₂' hgiven hentry
  have hstored : MatrixRow.mk runId row ∈ storedRows runId r := List.mem_map_of_mem (hsub.subset hrow)
  exact (carries_iff hgivenRow).1 (hcarried.carried _ hstored entry hentry (item_of_given hgivenRow))

theorem carried_of_saysDefaults (runId : Jobs.Uuid)
    (h : runSufficiencyMatrix (servicesOf messages casefold complete) profile content request inputBudgetTokens ids = .ok r)
    (haccepted : r.validationOutcome = .accepted)
    (hdefaults : ∀ entry ∈ acceptedEntries (servicesOf messages casefold complete) profile content request
      inputBudgetTokens ids, SaysDefaults entry) :
    AnswersCarried profile content (acceptedEntries (servicesOf messages casefold complete) profile content request
      inputBudgetTokens ids) (storedRows runId r) := by
  obtain ⟨⟨answered, hsub, hgiven, hasked⟩, hnodup⟩ := runSufficiencyMatrix_carried h haccepted
  constructor
  · intro row hrow hrowAsked
    obtain ⟨payload, hpayload, rfl⟩ := List.mem_map.1 hrow
    obtain ⟨entry, hentry, hgivenRow⟩ := exists_of_forall₂ hgiven (hasked payload hpayload hrowAsked)
    exact ⟨entry, hentry, item_of_given hgivenRow⟩
  · intro row hrow entry hentry habout
    obtain ⟨payload, hpayload, rfl⟩ := List.mem_map.1 hrow
    obtain ⟨row', hrow', hgivenRow⟩ := exists_of_forall₂' hgiven hentry
    -- the entry became the row of its item
    have hsame : payload = row' := by
      refine List.inj_on_of_nodup_map hnodup hpayload (hsub.subset hrow') ?_
      have hother := item_of_given hgivenRow
      rw [IsAbout, habout] at hother
      exact Json.str.inj (Option.some.inj hother)
    rw [hsame]
    exact (carries_iff hgivenRow).2 (hdefaults entry hentry)

end

/-- **When the rows carry the answers** of the model. -/
theorem rows_carry_answers_iff (messages : Messages) (casefold : String → List Char)
    (complete : FactBundle → Option Repair → Nat → Except CallError String) (profile : Profile) (content : SealedContent)
    (request : ModelCallRequest) (inputBudgetTokens : Nat) (ids : List String) (runId : Jobs.Uuid)
    (r : SufficiencyMatrixResult)
    (h : runSufficiencyMatrix (servicesOf messages casefold complete) profile content request inputBudgetTokens ids = .ok r)
    (haccepted : r.validationOutcome = .accepted) :
    AnswersCarried profile content
        (acceptedEntries (servicesOf messages casefold complete) profile content request inputBudgetTokens ids)
        (storedRows runId r) ↔
      ∀ entry ∈ acceptedEntries (servicesOf messages casefold complete) profile content request inputBudgetTokens ids,
        SaysDefaults entry :=
  ⟨saysDefaults_of_carried h haccepted, carried_of_saysDefaults runId h haccepted⟩

/-! ## A gap of the model's own -/

section

variable {services : Services} {profile : Profile} {content : SealedContent} {request : ModelCallRequest}
  {inputBudgetTokens : Nat}

theorem invoked_of_ok {bundle : FactBundle} {repair : Option Repair} {p : String × Nat}
    (h : invokeSufficiencyModel services request bundle repair = .ok p) :
    ∃ n, services.complete bundle repair n = .ok p.1 := by
  obtain ⟨raw, n⟩ := p
  exact ⟨n, (invokeSufficiencyModel_eq_ok h).2.2.2⟩

theorem answered_of_acceptedResponse {bundle : FactBundle} {ids : List String} {raw : String}
    (h : acceptedResponse services request bundle ids = some raw) :
    ∃ repair n, services.complete bundle repair n = .ok raw := by
  unfold acceptedResponse at h
  split at h
  · cases h
  · rename_i hfirst
    split at h
    · obtain rfl := Option.some.inj h
      exact ⟨none, invoked_of_ok hfirst⟩
    · split at h
      · cases h
      · rename_i hsecond
        obtain rfl := Option.some.inj h
        exact ⟨_, invoked_of_ok hsecond⟩

/-- the responses of a run are answers of the model -/
theorem answered_of_mem_runResponses {batches : List (List String)} {payloads : List RowPayload} {n : Nat} {raw : String}
    (h : raw ∈ runResponses services profile content request inputBudgetTokens batches payloads n) :
    ∃ bundle repair m, services.complete bundle repair m = .ok raw := by
  induction batches generalizing payloads n with
  | nil => exact absurd h List.not_mem_nil
  | cons batch batches ih =>
    rcases List.mem_append.1 h with h | h
    · rw [Option.mem_toList, batchResponse] at h
      split_ifs at h with hneeds
      split at h
      · cases h
      · rename_i bundle _
        exact ⟨bundle, answered_of_acceptedResponse h⟩
    · split at h
      · exact ih h
      · exact absurd h List.not_mem_nil

end

namespace Samples

/-- an answer about one item, with a gap -/
def answer (gap : String) : String :=
  "\x7b\"schema_version\":\"1.0.0\",\"rows\":[\x7b\"assessment_item_id\":\"AC-1\"," ++
  "\"model_proposed_status\":\"insufficient_evidence\",\"finding_summary\":\"Locked.\",\"gaps\":[\"" ++ gap ++
  "\"],\"assessor_questions\":[],\"citations\":[],\"context_complete\":false\x7d]\x7d"

def parsed (gap : String) : ParsedMatrixRow :=
  { assessmentItemId := "AC-1", modelProposedStatus := .insufficientEvidence, findingSummary := "Locked.", gaps := [gap]
    assessorQuestions := [], citations := [], contextComplete := false }

def messages : Messages := ⟨fun _ => "", fun _ => ""⟩

def services (gap : String) : Services := servicesOf messages Py.chars fun _ _ _ => .ok (answer gap)

end Samples

section

open Carried.Samples

set_option maxRecDepth 20000 in
theorem own_gap_valid : validateAndParseResponse (services "No lock on the door.") (answer "No lock on the door.") ["AC-1"] =
    .ok [parsed "No lock on the door."] := by
  rfl

set_option maxRecDepth 20000 in
theorem default_gap_valid : validateAndParseResponse (services "No usable evidence linked.")
    (answer "No usable evidence linked.") ["AC-1"] = .ok [parsed "No usable evidence linked."] := by
  rfl

/-- a run about one item is accepted, when its answer is valid -/
theorem accepted_of_valid {gap : String}
    (h : validateAndParseResponse (services gap) (answer gap) ["AC-1"] = .ok [parsed gap]) :
    Accepted ["AC-1"] (runSufficiencyMatrix (services gap) sampleProfile (sampleContent "Locked.") sampleRequest 4096
      ["AC-1"]) := by
  have hids : ItemsOf sampleProfile ["AC-1"] := ⟨by decide, by decide⟩
  have hbatches : chunkAssessmentItemIds ["AC-1"] = [["AC-1"]] := by decide
  have hmodel : modelIds sampleProfile ["AC-1"] = ["AC-1"] := by decide
  have hconforms : Conforms sampleProfile (sampleContent "Locked.") (services gap) 4096 (chunkAssessmentItemIds ["AC-1"]) := by
    rw [hbatches]
    intro batch hbatch _ bundle _ attempt
    obtain rfl := List.mem_singleton.1 hbatch
    refine ⟨answer gap, [parsed gap], rfl, ?_, ?_⟩
    · rw [hmodel]
      exact h
    · intro row hrow
      rw [List.mem_singleton.1 hrow]
      exact ⟨rfl, le_rfl⟩
  exact (runSufficiencyMatrix_spec loadable_sample hids (fits_of_fitsBudget (by decide)) hconforms rfl).1
    (by unfold CallsFit; decide)

set_option maxRecDepth 20000 in
/-- the one entry of an answer -/
theorem entriesOf_own : entriesOf (answer "No lock on the door.") = [[("assessment_item_id", .str "AC-1"),
    ("model_proposed_status", .str "insufficient_evidence"), ("finding_summary", .str "Locked."),
    ("gaps", .arr [.str "No lock on the door."]), ("assessor_questions", .arr []), ("citations", .arr []),
    ("context_complete", .bool false)]] := by
  rfl

set_option maxRecDepth 20000 in
theorem entriesOf_default : entriesOf (answer "No usable evidence linked.") = [[("assessment_item_id", .str "AC-1"),
    ("model_proposed_status", .str "insufficient_evidence"), ("finding_summary", .str "Locked."),
    ("gaps", .arr [.str "No usable evidence linked."]), ("assessor_questions", .arr []), ("citations", .arr []),
    ("context_complete", .bool false)]] := by
  rfl

/-- a run accepts entries of the one answer of the model -/
theorem mem_acceptedEntries {gap : String} {entry : Fields} (h : entry ∈ acceptedEntries (services gap) sampleProfile
    (sampleContent "Locked.") sampleRequest 4096 ["AC-1"]) : entry ∈ entriesOf (answer gap) := by
  obtain ⟨raw, hraw, hmem⟩ := List.mem_flatMap.1 h
  obtain ⟨bundle, repair, m, hcomplete⟩ := answered_of_mem_runResponses hraw
  rwa [show raw = answer gap from (Except.ok.inj hcomplete).symm] at hmem

/-- a model that names the default gap is carried -/
theorem rows_carry_answers_default : ∃ r, runSufficiencyMatrix (services "No usable evidence linked.") sampleProfile
    (sampleContent "Locked.") sampleRequest 4096 ["AC-1"] = .ok r ∧
      (AnswersCarried sampleProfile (sampleContent "Locked.") (acceptedEntries (services "No usable evidence linked.")
        sampleProfile (sampleContent "Locked.") sampleRequest 4096 ["AC-1"]) (storedRows 1 r) ↔
        ∀ entry ∈ acceptedEntries (services "No usable evidence linked.") sampleProfile (sampleContent "Locked.")
          sampleRequest 4096 ["AC-1"], SaysDefaults entry) ∧
      AnswersCarried sampleProfile (sampleContent "Locked.") (acceptedEntries (services "No usable evidence linked.")
        sampleProfile (sampleContent "Locked.") sampleRequest 4096 ["AC-1"]) (storedRows 1 r) := by
  obtain ⟨r, hr, haccepted, -⟩ := accepted_of_valid default_gap_valid
  have hiff := rows_carry_answers_iff _ _ _ _ _ _ _ _ 1 r hr haccepted
  refine ⟨r, hr, hiff, hiff.2 fun entry hentry => ?_⟩
  have hone := mem_acceptedEntries hentry
  rw [entriesOf_default, List.mem_singleton] at hone
  rw [hone]
  exact ⟨rfl, rfl⟩

/-- **A gap that the model names** is stored as the gap of a row without evidence. -/
theorem own_gap_dropped : ¬∀ (messages : Messages) (casefold : String → List Char)
    (complete : FactBundle → Option Repair → Nat → Except CallError String) (profile : Profile) (content : SealedContent)
    (request : ModelCallRequest) (inputBudgetTokens : Nat) (ids : List String) (runId : Jobs.Uuid)
    (r : SufficiencyMatrixResult),
    runSufficiencyMatrix (servicesOf messages casefold complete) profile content request inputBudgetTokens ids = .ok r →
    r.validationOutcome = .accepted →
    AnswersCarried profile content
      (acceptedEntries (servicesOf messages casefold complete) profile content request inputBudgetTokens ids)
      (storedRows runId r) := by
  intro hall
  obtain ⟨r, hr, haccepted, hperm⟩ := accepted_of_valid own_gap_valid
  have hcarried := hall _ _ _ _ _ _ _ _ 1 r hr haccepted
  have hrow : "AC-1" ∈ r.rowPayloads.map RowPayload.assessmentItemId := hperm.mem_iff.2 List.mem_cons_self
  obtain ⟨row, hrow, hitem⟩ := List.mem_map.1 hrow
  have hasked : Asked sampleProfile (sampleContent "Locked.") row := by
    rw [Asked, hitem]
    decide
  obtain ⟨entry, hentry, -⟩ := hcarried.answered (MatrixRow.mk 1 row) (List.mem_map_of_mem hrow) hasked
  have hdefaults := saysDefaults_of_carried hr haccepted hcarried entry hentry
  have hmem := mem_acceptedEntries hentry
  rw [entriesOf_own, List.mem_singleton] at hmem
  rw [hmem] at hdefaults
  have hgaps : some (Json.arr [.str "No lock on the door."]) = some (Json.arr [.str "No usable evidence linked."]) :=
    hdefaults.1
  have hsame := Json.str.inj (List.cons.inj (Json.arr.inj (Option.some.inj hgaps))).1
  exact absurd hsame (by decide)

end

end AtoService.Matrix.Carried
