/-
Rows that claim a complete context, or the status `supported`, and what the prompt of their batch held.

- `runBatches_going`: where the rows of a run come from, for any model: a row is made without the model, or copied from an
  answer to the batch of its item.
- `supported_rows_iff`: such rows are truthful for every model exactly when, in a run that can be accepted, every prompt
  holds every sealed text in full.
Witness `shared_artifact_claimed_complete`: two statements from one artifact have one identifier, and the prompt holds the
last of them only.
-/
import AtoService.Matrix.Prompt

namespace AtoService.Matrix

open Results

section

variable (services : Services) (profile : Profile) (content : SealedContent) (inputBudgetTokens : Nat)

/-- a row that the model was not asked for -/
structure MadeWithout (row : RowPayload) : Prop where
  incomplete : row.contextComplete = false
  status : row.modelProposedStatus = .insufficientEvidence
  notAsked : modelAllowed profile row.assessmentItemId = true → indexEvidenceSources content = []

/-- a row that was copied from an answer to a batch -/
structure Copied (batch : List String) (row : RowPayload) : Prop where
  needs : NeedsCall profile content batch
  source : ∃ bundle raw rows, ∃ r ∈ rows,
    buildFactBundle profile (modelIds profile batch) content inputBudgetTokens = .ok bundle ∧
    (∃ repair attempt, services.complete bundle repair attempt = .ok raw) ∧
    validateAndParseResponse services raw (modelIds profile batch) = .ok rows ∧
    validateCitations r.citations (sourcesById (indexEvidenceSources content)) = .ok () ∧
    row.assessmentItemId = r.assessmentItemId ∧ row.contextComplete = r.contextComplete ∧
    row.modelProposedStatus = r.modelProposedStatus ∧ row.citations = r.citations.map Json.obj

/-- the row comes from one of the batches, or was made without the model -/
def Sourced (batches : List (List String)) (row : RowPayload) : Prop :=
  MadeWithout profile content row ∨ ∃ batch ∈ batches, Copied services profile content inputBudgetTokens batch row

/-- what some batches did, when none stopped the run -/
structure BatchesWent (request : ModelCallRequest) (batches : List (List String)) (payloads : List RowPayload) (n : Nat)
    (payloads' : List RowPayload) (m : Nat) : Prop where
  fits : Fits profile content inputBudgetTokens batches
  counted : n + callsNeeded profile content batches ≤ m
  within : (callsNeeded profile content batches = 0 ∧ m = n) ∨ (request.routing = none ∧ m ≤ callLimit request)
  rows : ∃ new, payloads' = payloads ++ new ∧
    ∀ row ∈ new, Sourced services profile content inputBudgetTokens batches row

end

section

variable {services : Services} {profile : Profile} {content : SealedContent} {request : ModelCallRequest}
  {inputBudgetTokens : Nat}

/-! ## One call -/

theorem invokeSufficiencyModel_eq_ok {bundle : FactBundle} {repair : Option Repair} {raw : String} {m : Nat}
    (h : invokeSufficiencyModel services request bundle repair = .ok (raw, m)) :
    request.routing = none ∧ m = request.currentLlmCallCount + 1 ∧ m ≤ request.maxLlmCalls ∧
      services.complete bundle repair m = .ok raw := by
  unfold invokeSufficiencyModel at h
  split at h
  · contradiction
  · split_ifs at h with hlimit
    split at h
    · contradiction
    · next hrouting _ _ hraw =>
      obtain ⟨rfl, rfl⟩ := Prod.mk.inj (Except.ok.inj h)
      exact ⟨hrouting, rfl, Nat.succ_le_of_lt (not_le.1 hlimit), hraw⟩

theorem invokeBatchWithRepair_eq_ok {bundle : FactBundle} {ids : List String} {rows : List ParsedMatrixRow} {m : Nat}
    (h : invokeBatchWithRepair services request bundle ids = .ok (rows, m)) :
    request.routing = none ∧ request.currentLlmCallCount + 1 ≤ m ∧ m ≤ callLimit request ∧
      ∃ raw, (∃ repair attempt, services.complete bundle repair attempt = .ok raw) ∧
        validateAndParseResponse services raw ids = .ok rows := by
  obtain ⟨⟨raw, n⟩, hfirst, h⟩ := bind_eq_ok.1 h
  obtain ⟨hrouting, hn, hlimit, hraw⟩ := invokeSufficiencyModel_eq_ok hfirst
  change n ≤ callLimit request at hlimit
  have hn : n = request.currentLlmCallCount + 1 := hn
  dsimp only at h
  split at h
  · next rows' hrows =>
    obtain ⟨rfl, rfl⟩ := Prod.mk.inj (Except.ok.inj h)
    exact ⟨hrouting, hn.ge, hlimit, raw, ⟨none, n, hraw⟩, hrows⟩
  · split_ifs at h
    obtain ⟨⟨repaired, n'⟩, hsecond, h⟩ := bind_eq_ok.1 h
    obtain ⟨-, hn', hlimit', hraw'⟩ := invokeSufficiencyModel_eq_ok hsecond
    obtain ⟨rows', hrows, h⟩ := bind_eq_ok.1 h
    obtain ⟨rfl, rfl⟩ := Prod.mk.inj (Except.ok.inj h)
    have hn' : n' = n + 1 := hn'
    exact ⟨hrouting, by omega, hlimit', repaired, ⟨_, n', hraw'⟩, mapError_eq_ok.1 hrows⟩

/-! ## One batch -/

theorem deterministicRowPayload_eq_ok {k : String} {status : MatrixStatus} {summary : String} {contextComplete : Bool}
    {citations : List Citation} {row : RowPayload}
    (h : deterministicRowPayload profile k status summary contextComplete citations = .ok row) :
    row.assessmentItemId = k ∧ row.contextComplete = contextComplete ∧ row.modelProposedStatus = status ∧
      row.citations = citations.map Json.obj := by
  obtain ⟨t, -, h⟩ := bind_eq_ok.1 h
  rw [← Except.ok.inj h]
  exact ⟨rfl, rfl, rfl, rfl⟩

theorem madeWithout_of_insufficientRows {summary : String → String} {ids : List String} {rows : List RowPayload}
    (h : insufficientRows profile summary ids = .ok rows)
    (hids : ∀ k ∈ ids, modelAllowed profile k = true → indexEvidenceSources content = []) :
    ∀ row ∈ rows, MadeWithout profile content row := by
  intro row hrow
  obtain ⟨k, hk, hmade⟩ := mem_of_mapM h row hrow
  obtain ⟨hid, hcomplete, hstatus, -⟩ := deterministicRowPayload_eq_ok hmade
  exact ⟨hcomplete, hstatus, fun hallowed => hids k hk (hid ▸ hallowed)⟩

theorem applyStatusCeiling_eq_ok {policy : StatusPolicy} {row row' : RowPayload}
    (h : applyStatusCeilingToRowPayload policy row = .ok row') :
    row' = { row with systemStatus := row.modelProposedStatus } := by
  obtain ⟨status, hstatus, h⟩ := bind_eq_ok.1 h
  rw [evaluateSystemStatus] at hstatus
  split_ifs at hstatus
  obtain rfl := Except.ok.inj hstatus
  exact (Except.ok.inj h).symm

theorem mem_applyCeilings {policy : StatusPolicy} {rows rows' : List RowPayload} {row' : RowPayload}
    (h : applyCeilingsToMatrixRowPayloads policy rows = .ok rows') (hrow : row' ∈ rows') :
    ∃ row ∈ rows, row' = { row with systemStatus := row.modelProposedStatus } := by
  obtain ⟨row, hmem, happly⟩ := mem_of_mapM h row' hrow
  exact ⟨row, hmem, applyStatusCeiling_eq_ok happly⟩

/-- the rows of an answer, as they are copied -/
theorem mem_rowsOf {sources : List (String × Sealed.CitableSource)} {rows : List ParsedMatrixRow} {payloads : List RowPayload}
    (h : rowsOf profile sources rows = .ok (.ok payloads)) :
    ∀ row ∈ payloads, ∃ r ∈ rows, validateCitations r.citations sources = .ok () ∧
      row.assessmentItemId = r.assessmentItemId ∧ row.contextComplete = r.contextComplete ∧
      row.modelProposedStatus = r.modelProposedStatus ∧ row.citations = r.citations.map Json.obj := by
  induction rows generalizing payloads with
  | nil =>
    obtain rfl := Except.ok.inj (Except.ok.inj h)
    exact fun _ hrow => absurd hrow List.not_mem_nil
  | cons r rows ih =>
    obtain ⟨one, hone, h⟩ := bind_eq_ok.1 h
    cases one with
    | error e => cases Except.ok.inj h
    | ok payload =>
      obtain ⟨rest, hrest, h⟩ := bind_eq_ok.1 h
      cases rest with
      | error e => cases Except.ok.inj h
      | ok payloads' =>
        obtain rfl := Except.ok.inj (Except.ok.inj h)
        intro row hrow
        rcases List.mem_cons.1 hrow with rfl | hrow
        · rw [rowOf] at hone
          split at hone
          · cases Except.ok.inj hone
          · next hvalid =>
            obtain ⟨p, hp, hone⟩ := bind_eq_ok.1 hone
            obtain rfl := Except.ok.inj (Except.ok.inj hone)
            obtain ⟨hid, hcomplete, hstatus, hcitations⟩ := deterministicRowPayload_eq_ok hp
            exact ⟨r, List.mem_cons_self, hvalid, hid, hcomplete, hstatus, hcitations⟩
        · obtain ⟨r', hr', hcopied⟩ := ih hrest row hrow
          exact ⟨r', List.mem_cons_of_mem _ hr', hcopied⟩

theorem mem_rowsToPayloads {sources : List (String × Sealed.CitableSource)} {rows : List ParsedMatrixRow}
    {payloads : List RowPayload} (h : rowsToPayloads profile sources rows = .ok (.ok payloads)) :
    ∀ row ∈ payloads, ∃ r ∈ rows, validateCitations r.citations sources = .ok () ∧
      row.assessmentItemId = r.assessmentItemId ∧ row.contextComplete = r.contextComplete ∧
      row.modelProposedStatus = r.modelProposedStatus ∧ row.citations = r.citations.map Json.obj := by
  obtain ⟨result, hrows, h⟩ := bind_eq_ok.1 h
  cases result with
  | error e => cases Except.ok.inj h
  | ok copied =>
    dsimp only at h
    split at h
    · cases Except.ok.inj h
    · next adjusted hadjusted =>
      obtain rfl := Except.ok.inj (Except.ok.inj h)
      intro row hrow
      obtain ⟨row', hrow', rfl⟩ := mem_applyCeilings hadjusted hrow
      exact mem_rowsOf hrows row' hrow'

theorem runBatch_going {batch : List String} {payloads payloads' : List RowPayload} {n m : Nat}
    (h : runBatch services profile content request inputBudgetTokens batch payloads n = .ok (.going payloads' m)) :
    BatchesWent services profile content inputBudgetTokens request [batch] payloads n payloads' m := by
  obtain ⟨fixed, hfixed, h⟩ := bind_eq_ok.1 h
  have hmade : ∀ row ∈ fixed, MadeWithout profile content row := by
    refine madeWithout_of_insufficientRows hfixed fun k hk hallowed => ?_
    have hnot := (List.mem_filter.1 hk).2
    simp [hallowed] at hnot
  have hcalls : ∀ p : Prop, [Decidable p] → (NeedsCall profile content batch ↔ p) →
      callsNeeded profile content [batch] = if p then 1 else 0 := by
    intro p _ hp
    rw [callsNeeded_cons]
    simp only [hp, callsNeeded, List.filter_nil, List.length_nil, Nat.add_zero]
  dsimp only at h
  split_ifs at h with hmodel
  · have hnone : modelIds profile batch = [] := List.isEmpty_iff.1 hmodel
    obtain ⟨rfl, rfl⟩ := Progress.going.inj (Except.ok.inj h)
    have hzero : callsNeeded profile content [batch] = 0 := by
      rw [hcalls False ⟨fun hneeds => hneeds.1 hnone, False.elim⟩]
      rfl
    refine ⟨fun b hb hsome => ?_, by omega, Or.inl ⟨hzero, rfl⟩, fixed, rfl, fun row hrow => Or.inl (hmade row hrow)⟩
    obtain rfl := List.mem_singleton.1 hb
    exact absurd hnone hsome
  · have hsome : modelIds profile batch ≠ [] := fun hnone => hmodel (List.isEmpty_iff.2 hnone)
    rw [runModelBatch] at h
    split at h
    · cases Except.ok.inj h
    · cases h
    · next bundle hbundle =>
      have hsources := (evidenceSources_of_ok hbundle).1
      have hfits : Fits profile content inputBudgetTokens [batch] := by
        intro b hb _
        obtain rfl := List.mem_singleton.1 hb
        exact ⟨bundle, hbundle⟩
      split_ifs at h with hempty
      · rw [hsources, List.isEmpty_iff] at hempty
        obtain ⟨rows, hrows, h⟩ := bind_eq_ok.1 h
        obtain ⟨rfl, rfl⟩ := Progress.going.inj (Except.ok.inj h)
        have hzero : callsNeeded profile content [batch] = 0 := by
          rw [hcalls False ⟨fun hneeds => hneeds.2 hempty, False.elim⟩]
          rfl
        refine ⟨hfits, by omega, Or.inl ⟨hzero, rfl⟩, fixed ++ rows, List.append_assoc _ _ _, fun row hrow => Or.inl ?_⟩
        rcases List.mem_append.1 hrow with hrow | hrow
        · exact hmade row hrow
        · exact madeWithout_of_insufficientRows hrows (fun _ _ _ => hempty) row hrow
      · have hneeds : NeedsCall profile content batch :=
          ⟨hsome, fun hnone => hempty (by rw [hsources, hnone]; rfl)⟩
        split at h
        · cases Except.ok.inj h
        · next rows count hinvoke =>
          obtain ⟨hrouting, hcount, hlimit, raw, hraw, hrows⟩ := invokeBatchWithRepair_eq_ok hinvoke
          obtain ⟨result, hresult, h⟩ := bind_eq_ok.1 h
          cases result with
          | error e => cases Except.ok.inj h
          | ok new =>
            obtain ⟨rfl, rfl⟩ := Progress.going.inj (Except.ok.inj h)
            have hone : callsNeeded profile content [batch] = 1 := by
              rw [hcalls True ⟨fun _ => trivial, fun _ => hneeds⟩]
              rfl
            have hcount : n + 1 ≤ count := hcount
            refine ⟨hfits, by omega, Or.inr ⟨hrouting, hlimit⟩, fixed ++ new, List.append_assoc _ _ _, fun row hrow => ?_⟩
            rcases List.mem_append.1 hrow with hrow | hrow
            · exact Or.inl (hmade row hrow)
            · rw [hsources] at hresult
              obtain ⟨r, hr, hvalid, hcopied⟩ := mem_rowsToPayloads hresult row hrow
              exact Or.inr ⟨batch, List.mem_singleton_self _, hneeds, bundle, raw, rows, r, hr, hbundle, hraw, hrows, hvalid,
                hcopied⟩

/-! ## The run -/

theorem Sourced.mono {batches batches' : List (List String)} (hsub : ∀ b ∈ batches, b ∈ batches') {row : RowPayload}
    (h : Sourced services profile content inputBudgetTokens batches row) :
    Sourced services profile content inputBudgetTokens batches' row := by
  rcases h with h | ⟨batch, hbatch, h⟩
  · exact Or.inl h
  · exact Or.inr ⟨batch, hsub batch hbatch, h⟩

/-- **Where the rows of a run come from**, and the calls that it took; by induction on the batches, for any model. -/
theorem runBatches_going {batches : List (List String)} {payloads payloads' : List RowPayload} {n m : Nat}
    (h : runBatches services profile content request inputBudgetTokens batches payloads n = .ok (.going payloads' m)) :
    BatchesWent services profile content inputBudgetTokens request batches payloads n payloads' m := by
  induction batches generalizing payloads n with
  | nil =>
    obtain ⟨rfl, rfl⟩ := Progress.going.inj (Except.ok.inj h)
    exact ⟨fun _ hb => absurd hb List.not_mem_nil, le_rfl, Or.inl ⟨rfl, rfl⟩, [], (List.append_nil _).symm,
      fun _ hrow => absurd hrow List.not_mem_nil⟩
  | cons batch batches ih =>
    obtain ⟨progress, hbatch, h⟩ := bind_eq_ok.1 h
    cases progress with
    | stopped result => cases Except.ok.inj h
    | going payloads₁ n₁ =>
      have hhead := runBatch_going hbatch
      have htail := ih h
      obtain ⟨new, rfl, hnew⟩ := hhead.rows
      obtain ⟨new', rfl, hnew'⟩ := htail.rows
      have hcons : callsNeeded profile content (batch :: batches) =
          callsNeeded profile content [batch] + callsNeeded profile content batches := by
        rw [callsNeeded_cons, callsNeeded_cons batch []]
        rfl
      refine ⟨fun b hb => ?_, ?_, ?_, new ++ new', List.append_assoc _ _ _, fun row hrow => ?_⟩
      · rcases List.mem_cons.1 hb with rfl | hb
        · exact hhead.fits b (List.mem_singleton_self _)
        · exact htail.fits b hb
      · have := hhead.counted
        have := htail.counted
        omega
      · rcases htail.within with ⟨hzero, hm⟩ | hlimit
        · rcases hhead.within with ⟨hzero', hm'⟩ | hlimit
          · exact Or.inl ⟨by omega, by omega⟩
          · exact Or.inr (hm ▸ hlimit)
        · exact Or.inr hlimit
      · rcases List.mem_append.1 hrow with hrow | hrow
        · refine (hnew row hrow).mono fun b hb => ?_
          rw [List.mem_singleton.1 hb]
          exact List.mem_cons_self
        · exact (hnew' row hrow).mono fun b hb => List.mem_cons_of_mem _ hb

theorem batchFailureResult_ne (failure : BatchFailure) : (batchFailureResult failure).validationOutcome ≠ .accepted := by
  cases failure with
  | routing => exact ValidationOutcome.noConfusion
  | call e n =>
    simp only [batchFailureResult, failureResult]
    split_ifs <;> exact ValidationOutcome.noConfusion
  | validation e n =>
    simp only [batchFailureResult, failureResult]
    split_ifs <;> exact ValidationOutcome.noConfusion

theorem rowFailureResult_ne (e : ResponseValidationError) (n : Nat) :
    (rowFailureResult e n).validationOutcome ≠ .accepted := by
  simp only [rowFailureResult, failureResult]
  split_ifs <;> exact ValidationOutcome.noConfusion

theorem runBatch_stopped {batch : List String} {payloads : List RowPayload} {n : Nat} {result : SufficiencyMatrixResult}
    (h : runBatch services profile content request inputBudgetTokens batch payloads n = .ok (.stopped result)) :
    result.validationOutcome ≠ .accepted := by
  obtain ⟨fixed, -, h⟩ := bind_eq_ok.1 h
  dsimp only at h
  split_ifs at h
  · cases Except.ok.inj h
  · rw [runModelBatch] at h
    split at h
    · obtain rfl := Progress.stopped.inj (Except.ok.inj h)
      exact ValidationOutcome.noConfusion
    · cases h
    · split_ifs at h
      · obtain ⟨rows, -, h⟩ := bind_eq_ok.1 h
        cases Except.ok.inj h
      · split at h
        · obtain rfl := Progress.stopped.inj (Except.ok.inj h)
          exact batchFailureResult_ne _
        · obtain ⟨one, -, h⟩ := bind_eq_ok.1 h
          cases one with
          | error e =>
            obtain rfl := Progress.stopped.inj (Except.ok.inj h)
            exact rowFailureResult_ne _ _
          | ok new => cases Except.ok.inj h

/-- a run that a batch stops is not accepted -/
theorem runBatches_stopped {batches : List (List String)} {payloads : List RowPayload} {n : Nat}
    {result : SufficiencyMatrixResult}
    (h : runBatches services profile content request inputBudgetTokens batches payloads n = .ok (.stopped result)) :
    result.validationOutcome ≠ .accepted := by
  induction batches generalizing payloads n with
  | nil => cases Except.ok.inj h
  | cons batch batches ih =>
    obtain ⟨progress, hbatch, h⟩ := bind_eq_ok.1 h
    cases progress with
    | stopped first =>
      obtain rfl := Progress.stopped.inj (Except.ok.inj h)
      exact runBatch_stopped hbatch
    | going payloads₁ n₁ => exact ih h

/-- the rows of an accepted run, with their statuses -/
theorem runSufficiencyMatrix_accepted {ids : List String} {r : SufficiencyMatrixResult}
    (h : runSufficiencyMatrix services profile content request inputBudgetTokens ids = .ok r)
    (haccepted : r.validationOutcome = .accepted) :
    ∃ payloads m, BatchesWent services profile content inputBudgetTokens (sufficiencyModelRequest request)
        (chunkAssessmentItemIds ids) [] request.currentLlmCallCount payloads m ∧
      ∀ row ∈ r.rowPayloads, ∃ row' ∈ payloads, row = { row' with systemStatus := row'.modelProposedStatus } := by
  obtain ⟨progress, hrun, h⟩ := bind_eq_ok.1 h
  cases progress with
  | stopped result =>
    obtain rfl := Except.ok.inj h
    exact absurd haccepted (runBatches_stopped hrun)
  | going payloads m =>
    dsimp only at h
    split at h
    · obtain rfl := Except.ok.inj h
      exact ValidationOutcome.noConfusion haccepted
    · next adjusted hadjusted =>
      split at h
      · obtain rfl := Except.ok.inj h
        exact ValidationOutcome.noConfusion haccepted
      · obtain rfl := Except.ok.inj h
        exact ⟨payloads, m, runBatches_going hrun, fun row hrow => mem_applyCeilings hadjusted hrow⟩

end

/-! ## Truthful rows -/

section

variable (profile : Profile) (content : SealedContent) (request : ModelCallRequest) (inputBudgetTokens : Nat)
  (ids : List String)

/-- a row that claims a complete context or full support had every sealed text, and every text that it cites, in the prompt
of its batch -/
def Truthful (row : RowPayload) : Prop :=
  row.contextComplete = true ∨ row.systemStatus = .supported →
    ∀ batch ∈ chunkAssessmentItemIds ids, row.assessmentItemId ∈ batch →
      ∃ bundle, buildFactBundle profile (modelIds profile batch) content inputBudgetTokens = .ok bundle ∧
        HoldsAll content bundle ∧ HoldsCited bundle row.citations

/-- the bundles fit, and the calls that the batches take are allowed -/
def Acceptable : Prop :=
  Fits profile content inputBudgetTokens (chunkAssessmentItemIds ids) ∧
    (callsNeeded profile content (chunkAssessmentItemIds ids) = 0 ∨ request.routing = none ∧
      request.currentLlmCallCount + callsNeeded profile content (chunkAssessmentItemIds ids) ≤ callLimit request)

/-- every row of every accepted run is truthful, whatever the model answers -/
def AlwaysTruthful (reader : Reader) : Prop :=
  ∀ complete r, runSufficiencyMatrix ⟨reader, complete⟩ profile content request inputBudgetTokens ids = .ok r →
    r.validationOutcome = .accepted → ∀ row ∈ r.rowPayloads, Truthful profile content inputBudgetTokens ids row

end

section

variable {reader : Reader} {profile : Profile} {content : SealedContent} {request : ModelCallRequest}
  {inputBudgetTokens : Nat} {ids : List String}

/-- a run that is accepted could be -/
theorem acceptable_of_went {services : Services} {payloads : List RowPayload} {m : Nat}
    (h : BatchesWent services profile content inputBudgetTokens (sufficiencyModelRequest request)
      (chunkAssessmentItemIds ids) [] request.currentLlmCallCount payloads m) :
    Acceptable profile content request inputBudgetTokens ids := by
  refine ⟨h.fits, ?_⟩
  rcases h.within with ⟨hzero, -⟩ | ⟨hrouting, hlimit⟩
  · exact Or.inl hzero
  · rw [callLimit_sufficiencyModelRequest] at hlimit
    exact Or.inr ⟨hrouting, h.counted.trans hlimit⟩

/-- complete prompts make truthful rows -/
theorem alwaysTruthful_of_complete (h : Acceptable profile content request inputBudgetTokens ids →
      ∀ batch ∈ chunkAssessmentItemIds ids, NeedsCall profile content batch →
        PromptComplete profile content inputBudgetTokens batch) :
    AlwaysTruthful profile content request inputBudgetTokens ids reader := by
  intro complete r hr haccepted row hrow hclaims batch hbatch hmem
  obtain ⟨payloads, m, hwent, hrows⟩ := runSufficiencyMatrix_accepted hr haccepted
  obtain ⟨row', hrow', rfl⟩ := hrows row hrow
  obtain ⟨new, hnew, hsourced⟩ := hwent.rows
  rw [List.nil_append] at hnew
  subst hnew
  rcases hsourced row' hrow' with hmade | ⟨origin, horigin, hcopied⟩
  · rcases hclaims with hclaims | hclaims
    · rw [show row'.contextComplete = false from hmade.incomplete] at hclaims
      exact absurd hclaims Bool.false_ne_true
    · have hstatus : row'.modelProposedStatus = .supported := hclaims
      rw [hmade.status] at hstatus
      exact MatrixStatus.noConfusion hstatus
  · obtain ⟨first, raw, rows, r, hr, hfirst, -, hvalidated, hcitations, hid, -, -, hcopied'⟩ := hcopied.source
    -- the item is one that the model is asked about, so its batch takes a call
    have hallowed : row'.assessmentItemId ∈ modelIds profile origin := by
      rw [hid]
      exact (validateAndParseResponse_perm hvalidated).mem_iff.1 (List.mem_map_of_mem hr)
    have hmodel : row'.assessmentItemId ∈ modelIds profile batch :=
      List.mem_filter.2 ⟨hmem, (List.mem_filter.1 hallowed).2⟩
    have hneeds : NeedsCall profile content batch := ⟨List.ne_nil_of_mem hmodel, hcopied.needs.2⟩
    obtain ⟨bundle, hbundle⟩ := hwent.fits batch hbatch hneeds.1
    have hall := (holdsAll_iff hbundle).2 (h (acceptable_of_went hwent) batch hbatch hneeds)
    refine ⟨bundle, hbundle, hall, ?_⟩
    change HoldsCited bundle row'.citations
    rw [hcopied']
    exact holdsCited_of_holdsAll hall hcitations

/-- a model that claims a complete context of every row shows that the prompts are complete -/
theorem complete_of_alwaysTruthful (hreads : ReadsPlain reader) (hl : Loadable profile) (hids : ItemsOf profile ids)
    (htruthful : AlwaysTruthful profile content request inputBudgetTokens ids reader)
    (hacceptable : Acceptable profile content request inputBudgetTokens ids) {batch : List String}
    (hbatch : batch ∈ chunkAssessmentItemIds ids) (hneeds : NeedsCall profile content batch) :
    PromptComplete profile content inputBudgetTokens batch := by
  have hsome : callsNeeded profile content (chunkAssessmentItemIds ids) ≠ 0 := by
    intro hzero
    have hnone := List.filter_eq_nil_iff.1 (List.length_eq_zero_iff.1 hzero) batch hbatch
    exact hnone (decide_eq_true hneeds)
  obtain ⟨hrouting, hlimit⟩ : request.routing = none ∧ request.currentLlmCallCount +
      callsNeeded profile content (chunkAssessmentItemIds ids) ≤ callLimit request :=
    hacceptable.2.resolve_left hsome
  obtain ⟨r, hr, haccepted, hperm⟩ := (runSufficiencyMatrix_spec hl hids hacceptable.1
    (conforms_answering hreads hl hids content inputBudgetTokens (by decide : MatrixStatus.unsupported.rank ≤ _) true)
    hrouting).1 (Or.inr hlimit)
  obtain ⟨k, hk⟩ := List.exists_mem_of_ne_nil _ hneeds.1
  have hkBatch : k ∈ batch := (List.mem_filter.1 hk).1
  have hkIds : k ∈ ids := (mem_chunkIds hbatch).1.subset hkBatch
  obtain ⟨row, hrow, rfl⟩ := List.mem_map.1 (hperm.mem_iff.2 hkIds)
  obtain ⟨payloads, m, hwent, hrows⟩ := runSufficiencyMatrix_accepted hr haccepted
  obtain ⟨row', hrow', rfl⟩ := hrows row hrow
  obtain ⟨new, hnew, hsourced⟩ := hwent.rows
  rw [List.nil_append] at hnew
  subst hnew
  have hclaims : row'.contextComplete = true := by
    rcases hsourced row' hrow' with hmade | ⟨origin, horigin, hcopied⟩
    · exact absurd (hmade.notAsked (List.mem_filter.1 hk).2) hneeds.2
    · obtain ⟨first, raw, rows, answered, hr', hfirst, ⟨repair, attempt, hraw⟩, hvalidated, -, -, hcomplete, -⟩ :=
        hcopied.source
      obtain ⟨hsub, hlength⟩ := mem_chunkIds horigin
      have hmodel : (modelIds profile origin).Sublist origin := List.filter_sublist
      have hplain := @validateAndParseResponse_plain (answering reader .unsupported true) hreads .unsupported
        true _ hcopied.needs.1 (hmodel.length_le.trans hlength)
        (fun k hk => hl.valid (hids.known k (hsub.subset (hmodel.subset hk)))) (hids.once.sublist (hmodel.trans hsub))
      rw [← Except.ok.inj hraw, (evidenceSources_of_ok hfirst).2, hplain] at hvalidated
      rw [← Except.ok.inj hvalidated] at hr'
      obtain ⟨j, -, rfl⟩ := List.mem_map.1 hr'
      exact hcomplete
  obtain ⟨bundle, hbundle, hall, -⟩ := htruthful _ r hr haccepted _ hrow (Or.inl hclaims) batch hbatch hkBatch
  exact (holdsAll_iff hbundle).1 hall

/-- **When rows that claim a complete context are truthful.** For a reader that reads plain answers, a loadable profile and
a list of its items, every row of every accepted run that claims a complete context or full support had all sealed texts and
all that it cites in full in the prompt, whatever the model answers, if and only if, in a run that can be accepted, every
batch that takes a call has a prompt with room for every sealed text, each short enough and alone under its identifier. -/
theorem supported_rows_iff (reader : Reader) (hreads : ReadsPlain reader) (profile : Profile) (content : SealedContent)
    (request : ModelCallRequest) (inputBudgetTokens : Nat) (ids : List String) (hl : Loadable profile)
    (hids : ItemsOf profile ids) :
    AlwaysTruthful profile content request inputBudgetTokens ids reader ↔
      (Acceptable profile content request inputBudgetTokens ids →
        ∀ batch ∈ chunkAssessmentItemIds ids, NeedsCall profile content batch →
          PromptComplete profile content inputBudgetTokens batch) := by
  constructor
  · intro htruthful hacceptable batch hbatch hneeds
    exact complete_of_alwaysTruthful hreads hl hids htruthful hacceptable hbatch hneeds
  · exact alwaysTruthful_of_complete

end

/-! ## Two statements from one artifact -/

/-- the packing of a batch includes every sealed text -/
def packsAll (profile : Profile) (content : SealedContent) (inputBudgetTokens : Nat) (batch : List String) : Bool :=
  match (modelIds profile batch).mapM (assessmentItemForPrompt profile) with
  | .error _ => true
  | .ok assessmentItems => (sealedSources content).all fun s =>
      s.sourceId ∈ packedIds profile content inputBudgetTokens batch assessmentItems

theorem packed_of_packsAll {profile : Profile} {content : SealedContent} {inputBudgetTokens : Nat} {batch : List String}
    (h : packsAll profile content inputBudgetTokens batch = true) :
    ∀ assessmentItems, (modelIds profile batch).mapM (assessmentItemForPrompt profile) = .ok assessmentItems →
      ∀ s ∈ sealedSources content, s.sourceId ∈ packedIds profile content inputBudgetTokens batch assessmentItems := by
  intro assessmentItems hitems s hs
  rw [packsAll, hitems] at h
  exact of_decide_eq_true (List.all_eq_true.1 h s hs)

theorem itemsOf_first : ItemsOf sampleProfile ["AC-1"] where
  known := by decide
  once := by decide

theorem supported_rows_iff_small :
    AlwaysTruthful sampleProfile (sampleContent "Locked.") sampleRequest 4096 ["AC-1"] plainReader := by
  refine (supported_rows_iff plainReader readsPlain_plainReader sampleProfile (sampleContent "Locked.") sampleRequest 4096
    ["AC-1"] loadable_sample itemsOf_first).2 fun _ batch hbatch _ => ?_
  obtain rfl : batch = ["AC-1"] := List.mem_singleton.1 hbatch
  exact ⟨by decide, by decide, packed_of_packsAll (by decide)⟩

/-- the statements of two controls, read from one artifact -/
def sharedContent : SealedContent :=
  let entry : Json := .obj [("source_artifact_id", .str "3f2504e0-4f89-41d3-9a0c-0305e82c3301"),
    ("source_sha256", .str sampleDigest)]
  { document := [("security_controls", .obj [("AC-1", .obj [("implementation_statement", .str "Locked.")]),
      ("AC-2", .obj [("implementation_statement", .str "Open.")])])]
    fieldProvenance := [("/security_controls/AC-1/implementation_statement", entry),
      ("/security_controls/AC-2/implementation_statement", entry)] }

theorem acceptable_shared : Acceptable sampleProfile sharedContent sampleRequest 4096 ["AC-1"] :=
  ⟨fits_of_fitsBudget (by decide), Or.inr ⟨rfl, by decide⟩⟩

/-- a model claims a complete context, is accepted, and one of the two statements was never in its prompt -/
theorem shared_artifact_claimed_complete :
    Acceptable sampleProfile sharedContent sampleRequest 4096 ["AC-1"] ∧
    ¬AlwaysTruthful sampleProfile sharedContent sampleRequest 4096 ["AC-1"] plainReader := by
  refine ⟨acceptable_shared, fun htruthful => ?_⟩
  have hcomplete : PromptComplete sampleProfile sharedContent 4096 ["AC-1"] :=
    complete_of_alwaysTruthful readsPlain_plainReader loadable_sample itemsOf_first htruthful acceptable_shared
      (by decide) (by decide)
  have hdiffer : ¬∀ s ∈ sealedSources sharedContent, ∀ s' ∈ sealedSources sharedContent,
      s.sourceId = s'.sourceId → s.sourceSha256 = s'.sourceSha256 ∧ s.text = s'.text := by decide
  exact hdiffer hcomplete.agree

end AtoService.Matrix
