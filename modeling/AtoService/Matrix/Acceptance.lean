/-
When a run of the sufficiency matrix is accepted, for a model that answers every batch as it should.

- `Conforms`: every batch that the model is asked about is answered with rows that cover it, cite the sealed texts and
  respect the status ceilings.
- `callsNeeded`: the batches that take a call. `runBatches_spec`: what the batches produce, by induction on them.
- `accepted_iff`: the run is accepted, with one row an item, exactly when the calls that it needs are within the limit.
- `conforms_answering`: a model that answers with plain rows is such a model.
Witness `third_batch_rejected`: twenty-one items take three calls, and the limit of a batch is the limit of the run.
-/
import AtoService.Matrix.Answers

namespace AtoService.Matrix

open AtoService.Results

/-! ## Profiles and rows -/

/-- what the schema of profiles requires of one, where the runner depends on it -/
structure Loadable (profile : Profile) : Prop where
  statusPolicy : profile.statusPolicy = ⟨some .insufficientEvidence, some .partialSupport, some .partialSupport⟩
  ids : ∀ item ∈ profile.assessmentItems, isAssessmentItemId item.assessmentItemId = true

/-- items of a profile, each once -/
structure ItemsOf (profile : Profile) (ids : List String) : Prop where
  known : ∀ k ∈ ids, k ∈ profile.assessmentItems.map AssessmentItem.assessmentItemId
  once : ids.Nodup

theorem Loadable.valid {profile : Profile} (h : Loadable profile) {k : String}
    (hk : k ∈ profile.assessmentItems.map AssessmentItem.assessmentItemId) : isAssessmentItemId k = true := by
  obtain ⟨item, hitem, rfl⟩ := List.mem_map.1 hk
  exact h.ids item hitem

/-- the status of a row is within its ceiling -/
def Admissible (policy : StatusPolicy) (row : RowPayload) : Prop :=
  row.modelProposedStatus.rank ≤ (computeStatusCeiling row.contextComplete row.citations false policy).rank

theorem applyStatusCeiling_ok {policy : StatusPolicy} {row : RowPayload} (h : Admissible policy row) :
    applyStatusCeilingToRowPayload policy row = .ok { row with systemStatus := row.modelProposedStatus } := by
  simp only [applyStatusCeilingToRowPayload, evaluateSystemStatus]
  rw [if_neg (not_lt.2 h)]
  rfl

theorem applyCeilings_ok {policy : StatusPolicy} {rows : List RowPayload} (h : ∀ row ∈ rows, Admissible policy row) :
    applyCeilingsToMatrixRowPayloads policy rows =
      .ok (rows.map fun row => { row with systemStatus := row.modelProposedStatus }) := by
  refine mapM_eq_ok.2 ?_
  induction rows with
  | nil => exact .nil
  | cons row rows ih =>
    exact .cons (applyStatusCeiling_ok (h row List.mem_cons_self)) (ih fun r hr => h r (List.mem_cons_of_mem _ hr))

theorem assessmentItemTypeForId_ok {profile : Profile} {k : String}
    (hk : k ∈ profile.assessmentItems.map AssessmentItem.assessmentItemId) :
    ∃ t, assessmentItemTypeForId profile k = .ok t := by
  obtain ⟨item, hitem⟩ := Option.isSome_iff_exists.1 (KeyedList.get?_isSome.2 hk)
  exact ⟨item.assessmentItemType, bind_eq_ok.2 ⟨item, orRaise_eq_ok.2 hitem, rfl⟩⟩

/-- a row that is made for a known item -/
theorem deterministicRowPayload_ok {profile : Profile} {k : String}
    (hk : k ∈ profile.assessmentItems.map AssessmentItem.assessmentItemId) (status : MatrixStatus) (summary : String)
    (contextComplete : Bool) (citations : List Citation) :
    ∃ row, deterministicRowPayload profile k status summary contextComplete citations = .ok row ∧
      row.assessmentItemId = k ∧ row.modelProposedStatus = status ∧ row.contextComplete = contextComplete ∧
      row.citations = citations.map Json.obj := by
  obtain ⟨t, ht⟩ := assessmentItemTypeForId_ok hk
  exact ⟨_, bind_eq_ok.2 ⟨t, ht, rfl⟩, rfl, rfl, rfl, rfl⟩

/-- rows without evidence: one an item, all within the ceiling of a loadable profile -/
theorem insufficientRows_ok {profile : Profile} (hl : Loadable profile) (summary : String → String) {ids : List String}
    (hids : ∀ k ∈ ids, k ∈ profile.assessmentItems.map AssessmentItem.assessmentItemId) :
    ∃ rows, insufficientRows profile summary ids = .ok rows ∧ rows.map RowPayload.assessmentItemId = ids ∧
      ∀ row ∈ rows, Admissible profile.statusPolicy row := by
  induction ids with
  | nil => exact ⟨[], rfl, rfl, fun _ h => absurd h List.not_mem_nil⟩
  | cons k ids ih =>
    obtain ⟨rows, hrows, hkeys, hadmissible⟩ := ih fun j hj => hids j (List.mem_cons_of_mem _ hj)
    obtain ⟨row, hrow, hkey, hstatus, -, hcitations⟩ := deterministicRowPayload_ok (hids k List.mem_cons_self)
      .insufficientEvidence (summary k) false []
    refine ⟨row :: rows, mapM_eq_ok.2 (.cons hrow (mapM_eq_ok.1 hrows)), by rw [List.map_cons, hkey, hkeys], ?_⟩
    intro r hr
    rcases List.mem_cons.1 hr with rfl | hr
    · rw [Admissible, hstatus, hcitations, hl.statusPolicy]
      exact le_rfl
    · exact hadmissible r hr

/-! ## Batches -/

theorem flatten_chunkIds : ∀ (k : Nat) (ids : List String), ids.length ≤ k → (chunkIds k ids).flatten = ids
  | 0, ids, h => by rw [List.length_eq_zero_iff.1 (Nat.le_zero.1 h)]; rfl
  | k + 1, ids, h => by
    unfold chunkIds
    cases ids with
    | nil => rfl
    | cons i ids =>
      have hdrop : ((i :: ids).drop maxBatchSize).length ≤ k := by
        rw [List.length_drop, maxBatchSize]
        omega
      rw [List.isEmpty_cons, if_neg Bool.false_ne_true, List.flatten_cons, flatten_chunkIds k _ hdrop,
        List.take_append_drop]

theorem flatten_chunkAssessmentItemIds (ids : List String) : (chunkAssessmentItemIds ids).flatten = ids :=
  flatten_chunkIds ids.length ids le_rfl

section

variable (profile : Profile) (content : SealedContent)

/-- the items of a batch that the model is asked about -/
def modelIds (batch : List String) : List String := batch.filter (modelAllowed profile)

/-- a batch that takes a call: it has items for the model, and there is evidence -/
def NeedsCall (batch : List String) : Prop := modelIds profile batch ≠ [] ∧ indexEvidenceSources content ≠ []

instance (batch : List String) : Decidable (NeedsCall profile content batch) := inferInstanceAs (Decidable (_ ∧ _))

def callsNeeded (batches : List (List String)) : Nat := (batches.filter fun b => NeedsCall profile content b).length

/-- every batch's bundle fits the budget -/
def Fits (inputBudgetTokens : Nat) (batches : List (List String)) : Prop :=
  ∀ batch ∈ batches, modelIds profile batch ≠ [] →
    ∃ bundle, buildFactBundle profile (modelIds profile batch) content inputBudgetTokens = .ok bundle

/-- a row of a response that cites sealed texts and respects its ceiling -/
structure ConformingRow (bundle : FactBundle) (row : ParsedMatrixRow) : Prop where
  citations : validateCitations row.citations (sourcesById bundle.evidenceSources) = .ok ()
  ceiling : row.modelProposedStatus.rank ≤
    (computeStatusCeiling row.contextComplete (row.citations.map Json.obj) false profile.statusPolicy).rank

/-- the model answers every batch, on any attempt, with a valid response of conforming rows -/
def Conforms (services : Services) (inputBudgetTokens : Nat) (batches : List (List String)) : Prop :=
  ∀ batch ∈ batches, NeedsCall profile content batch → ∀ bundle,
    buildFactBundle profile (modelIds profile batch) content inputBudgetTokens = .ok bundle →
    ∀ attempt, ∃ raw rows, services.complete bundle none attempt = .ok raw ∧
      validateAndParseResponse services raw (modelIds profile batch) = .ok rows ∧
      ∀ row ∈ rows, ConformingRow profile bundle row

end

section

variable {services : Services} {profile : Profile} {content : SealedContent} {request : ModelCallRequest}
  {inputBudgetTokens : Nat}

theorem evidenceSources_of_ok {ids : List String} {bundle : FactBundle}
    (h : buildFactBundle profile ids content inputBudgetTokens = .ok bundle) :
    bundle.evidenceSources = indexEvidenceSources content ∧ bundle.assessmentItemIds = ids := by
  simp only [buildFactBundle, bind_eq_ok, ensure_eq_ok, pure_eq_ok] at h
  obtain ⟨_, -, _, -, _, -, rfl⟩ := h
  exact ⟨rfl, rfl⟩

theorem validateAndParseResponse_perm {raw : String} {ids : List String} {rows : List ParsedMatrixRow}
    (h : validateAndParseResponse services raw ids = .ok rows) :
    (rows.map ParsedMatrixRow.assessmentItemId).Perm ids := by
  simp only [validateAndParseResponse, bind_eq_ok, mapError_eq_ok, pure_eq_ok] at h
  obtain ⟨_, -, _, -, _, hcoverage, rfl⟩ := h
  exact (requireExactMatrixCoverage_eq_ok.1 hcoverage).2.2

/-- the rows of a response become rows of the matrix -/
theorem rowsOf_ok {bundle : FactBundle} {rows : List ParsedMatrixRow}
    (hknown : ∀ row ∈ rows, row.assessmentItemId ∈ profile.assessmentItems.map AssessmentItem.assessmentItemId)
    (h : ∀ row ∈ rows, ConformingRow profile bundle row) :
    ∃ payloads, rowsOf profile (sourcesById bundle.evidenceSources) rows = .ok (.ok payloads) ∧
      payloads.map RowPayload.assessmentItemId = rows.map ParsedMatrixRow.assessmentItemId ∧
      ∀ p ∈ payloads, Admissible profile.statusPolicy p := by
  induction rows with
  | nil => exact ⟨[], rfl, rfl, fun _ h => absurd h List.not_mem_nil⟩
  | cons row rows ih =>
    obtain ⟨payloads, hpayloads, hkeys, hadmissible⟩ := ih (fun r hr => hknown r (List.mem_cons_of_mem _ hr))
      fun r hr => h r (List.mem_cons_of_mem _ hr)
    have hrow := h row List.mem_cons_self
    obtain ⟨payload, hpayload, hkey, hstatus, hcomplete, hcitations⟩ := deterministicRowPayload_ok
      (hknown row List.mem_cons_self) row.modelProposedStatus row.findingSummary row.contextComplete row.citations
    refine ⟨payload :: payloads, ?_, by rw [List.map_cons, List.map_cons, hkey, hkeys], ?_⟩
    · have hone : rowOf profile (sourcesById bundle.evidenceSources) row = .ok (.ok payload) := by
        rw [rowOf, hrow.citations]
        exact bind_eq_ok.2 ⟨payload, hpayload, rfl⟩
      exact bind_eq_ok.2 ⟨_, hone, bind_eq_ok.2 ⟨_, hpayloads, rfl⟩⟩
    · intro p hp
      rcases List.mem_cons.1 hp with rfl | hp
      · rw [Admissible, hstatus, hcomplete, hcitations]
        exact hrow.ceiling
      · exact hadmissible p hp

theorem rowsToPayloads_ok {bundle : FactBundle} {rows : List ParsedMatrixRow}
    (hknown : ∀ row ∈ rows, row.assessmentItemId ∈ profile.assessmentItems.map AssessmentItem.assessmentItemId)
    (h : ∀ row ∈ rows, ConformingRow profile bundle row) :
    ∃ payloads, rowsToPayloads profile (sourcesById bundle.evidenceSources) rows = .ok (.ok payloads) ∧
      payloads.map RowPayload.assessmentItemId = rows.map ParsedMatrixRow.assessmentItemId ∧
      ∀ p ∈ payloads, Admissible profile.statusPolicy p := by
  obtain ⟨payloads, hpayloads, hkeys, hadmissible⟩ := rowsOf_ok hknown h
  refine ⟨payloads.map fun row => { row with systemStatus := row.modelProposedStatus }, ?_, ?_, ?_⟩
  · refine bind_eq_ok.2 ⟨_, hpayloads, ?_⟩
    dsimp only
    rw [applyCeilings_ok hadmissible]
    rfl
  · rw [List.map_map, ← hkeys]
    rfl
  · intro p hp
    obtain ⟨q, hq, rfl⟩ := List.mem_map.1 hp
    exact hadmissible q hq

/-- what one batch has done: its rows are added, and a call is counted when it takes one -/
structure BatchDone (profile : Profile) (batch : List String) (payloads payloads' : List RowPayload) : Prop where
  added : ∃ new, payloads' = payloads ++ new ∧ (new.map RowPayload.assessmentItemId).Perm batch ∧
    ∀ row ∈ new, Admissible profile.statusPolicy row

/-- a batch that takes no call -/
theorem runBatch_free (hl : Loadable profile) {batch : List String}
    (hknown : ∀ k ∈ batch, k ∈ profile.assessmentItems.map AssessmentItem.assessmentItemId)
    (hfits : Fits profile content inputBudgetTokens [batch]) (hfree : ¬NeedsCall profile content batch)
    (payloads : List RowPayload) (n : Nat) :
    ∃ payloads', runBatch services profile content request inputBudgetTokens batch payloads n =
      .ok (.going payloads' n) ∧ BatchDone profile batch payloads payloads' := by
  obtain ⟨fixed, hfixed, hfixedKeys, hfixedOk⟩ := insufficientRows_ok hl notAllowedSummary
    fun k (hk : k ∈ batch.filter fun k => !modelAllowed profile k) => hknown k (List.mem_filter.1 hk).1
  by_cases hmodel : modelIds profile batch = []
  · refine ⟨payloads ++ fixed, bind_eq_ok.2 ⟨fixed, hfixed, ?_⟩, ⟨fixed, rfl, ?_, hfixedOk⟩⟩
    · rw [show batch.filter (modelAllowed profile) = [] from hmodel]
      rfl
    · rw [hfixedKeys, List.filter_eq_self.2]
      intro k hk
      have hnot := List.filter_eq_nil_iff.1 hmodel k hk
      simpa using hnot
  · have hnone : indexEvidenceSources content = [] := by
      by_contra hsome
      exact hfree ⟨hmodel, hsome⟩
    obtain ⟨bundle, hbundle⟩ := hfits batch (List.mem_singleton_self _) hmodel
    obtain ⟨rows, hrows, hkeys, hok⟩ := insufficientRows_ok hl noEvidenceSummary
      fun k (hk : k ∈ modelIds profile batch) => hknown k (List.mem_filter.1 hk).1
    refine ⟨payloads ++ fixed ++ rows, bind_eq_ok.2 ⟨fixed, hfixed, ?_⟩, ⟨fixed ++ rows, ?_, ?_, ?_⟩⟩
    · rw [if_neg (by simpa [modelIds] using hmodel)]
      rw [runModelBatch, show batch.filter (modelAllowed profile) = modelIds profile batch from rfl, hbundle]
      dsimp only
      rw [(evidenceSources_of_ok hbundle).1, hnone]
      exact bind_eq_ok.2 ⟨rows, hrows, rfl⟩
    · rw [List.append_assoc]
    · rw [List.map_append, hfixedKeys, hkeys]
      exact (List.perm_append_comm).trans (List.filter_append_perm (modelAllowed profile) batch)
    · intro row hrow
      rcases List.mem_append.1 hrow with hrow | hrow
      · exact hfixedOk row hrow
      · exact hok row hrow

/-- the limit of the calls of a run -/
def callLimit (request : ModelCallRequest) : Nat := min request.maxLlmCalls maxLlmCallsPerBatch

theorem callLimit_sufficiencyModelRequest (request : ModelCallRequest) :
    callLimit (sufficiencyModelRequest request) = callLimit request := by
  simp only [callLimit, sufficiencyModelRequest]
  omega

/-- a call within the limit -/
theorem invokeBatchWithRepair_ok {n : Nat} (hrouting : request.routing = none) (hlimit : n < callLimit request)
    {bundle : FactBundle} {ids : List String} {raw : String} {rows : List ParsedMatrixRow}
    (hraw : services.complete bundle none (n + 1) = .ok raw)
    (hrows : validateAndParseResponse services raw ids = .ok rows) :
    invokeBatchWithRepair services { request with currentLlmCallCount := n } bundle ids = .ok (rows, n + 1) := by
  have hcall : invokeSufficiencyModel services (sufficiencyModelRequest { request with currentLlmCallCount := n }) bundle
      none = .ok (raw, n + 1) := by
    rw [callLimit] at hlimit
    simp only [invokeSufficiencyModel, sufficiencyModelRequest, hrouting]
    rw [if_neg (not_le.2 hlimit), hraw]
  refine bind_eq_ok.2 ⟨_, hcall, ?_⟩
  dsimp only
  rw [hrows]
  rfl

/-- a call at the limit -/
theorem invokeBatchWithRepair_limit {n : Nat} (hrouting : request.routing = none) (hlimit : callLimit request ≤ n)
    (bundle : FactBundle) (ids : List String) :
    invokeBatchWithRepair services { request with currentLlmCallCount := n } bundle ids =
      .error (.routing "model_call_limit_exceeded" n) := by
  rw [callLimit] at hlimit
  refine bind_eq_error.2 (Or.inl ?_)
  simp only [invokeSufficiencyModel, sufficiencyModelRequest, hrouting]
  rw [if_pos hlimit]

/-- a batch that takes a call, within the limit and at it -/
theorem runBatch_call (hl : Loadable profile) {batch : List String}
    (hknown : ∀ k ∈ batch, k ∈ profile.assessmentItems.map AssessmentItem.assessmentItemId)
    (hfits : Fits profile content inputBudgetTokens [batch]) (hneeds : NeedsCall profile content batch)
    (hconforms : Conforms profile content services inputBudgetTokens [batch]) (hrouting : request.routing = none)
    (payloads : List RowPayload) (n : Nat) :
    (n < callLimit request → ∃ payloads', runBatch services profile content request inputBudgetTokens batch payloads n =
      .ok (.going payloads' (n + 1)) ∧ BatchDone profile batch payloads payloads') ∧
    (callLimit request ≤ n → runBatch services profile content request inputBudgetTokens batch payloads n =
      .ok (.stopped (failureResult .rejectedRouting n "model_call_limit_exceeded" false))) := by
  obtain ⟨fixed, hfixed, hfixedKeys, hfixedOk⟩ := insufficientRows_ok hl notAllowedSummary
    fun k (hk : k ∈ batch.filter fun k => !modelAllowed profile k) => hknown k (List.mem_filter.1 hk).1
  obtain ⟨bundle, hbundle⟩ := hfits batch (List.mem_singleton_self _) hneeds.1
  have hsources : bundle.evidenceSources.isEmpty = false := by
    rw [(evidenceSources_of_ok hbundle).1, List.isEmpty_eq_false_iff]
    exact hneeds.2
  have hbatch : runBatch services profile content request inputBudgetTokens batch payloads n =
      runModelBatch services profile content request inputBudgetTokens (modelIds profile batch) (payloads ++ fixed) n := by
    have hsome : ¬((batch.filter (modelAllowed profile)).isEmpty = true) := by simpa [modelIds] using hneeds.1
    simp only [runBatch, hfixed]
    exact if_neg hsome
  constructor
  · intro hlimit
    obtain ⟨raw, rows, hraw, hrows, hconform⟩ := hconforms batch (List.mem_singleton_self _) hneeds bundle hbundle (n + 1)
    have hperm := validateAndParseResponse_perm hrows
    have hrowKnown : ∀ row ∈ rows, row.assessmentItemId ∈ profile.assessmentItems.map AssessmentItem.assessmentItemId :=
      fun row hrow => hknown _ (List.mem_filter.1 (hperm.mem_iff.1 (List.mem_map_of_mem hrow))).1
    obtain ⟨new, hnew, hkeys, hadmissible⟩ := rowsToPayloads_ok hrowKnown hconform
    refine ⟨payloads ++ fixed ++ new, ?_, ⟨fixed ++ new, List.append_assoc _ _ _, ?_, ?_⟩⟩
    · rw [hbatch, runModelBatch, hbundle]
      dsimp only
      rw [hsources, if_neg Bool.false_ne_true, invokeBatchWithRepair_ok hrouting hlimit hraw hrows]
      exact bind_eq_ok.2 ⟨_, hnew, rfl⟩
    · rw [List.map_append, hfixedKeys, hkeys]
      exact (hperm.append_left _).trans
        ((List.perm_append_comm).trans (List.filter_append_perm (modelAllowed profile) batch))
    · intro row hrow
      rcases List.mem_append.1 hrow with hrow | hrow
      · exact hfixedOk row hrow
      · exact hadmissible row hrow
  · intro hlimit
    rw [hbatch, runModelBatch, hbundle]
    dsimp only
    rw [hsources, if_neg Bool.false_ne_true, invokeBatchWithRepair_limit hrouting hlimit]
    rfl

theorem BatchDone.trans {batch batch' : List String} {payloads payloads' payloads'' : List RowPayload}
    (h : BatchDone profile batch payloads payloads') (h' : BatchDone profile batch' payloads' payloads'') :
    BatchDone profile (batch ++ batch') payloads payloads'' := by
  obtain ⟨new, rfl, hperm, hok⟩ := h.added
  obtain ⟨new', rfl, hperm', hok'⟩ := h'.added
  refine ⟨⟨new ++ new', List.append_assoc _ _ _, ?_, fun row hrow => ?_⟩⟩
  · rw [List.map_append]
    exact hperm.append hperm'
  · rcases List.mem_append.1 hrow with hrow | hrow
    · exact hok row hrow
    · exact hok' row hrow

theorem callsNeeded_cons (batch : List String) (batches : List (List String)) :
    callsNeeded profile content (batch :: batches) =
      (if NeedsCall profile content batch then 1 else 0) + callsNeeded profile content batches := by
  unfold callsNeeded
  by_cases h : NeedsCall profile content batch
  · rw [List.filter_cons_of_pos (by simpa using h), List.length_cons, if_pos h, Nat.add_comm]
  · rw [List.filter_cons_of_neg (by simpa using h), if_neg h, Nat.zero_add]

/-- **What the batches produce.** Their rows, while the calls are within the limit; else the run stops at the first call
beyond it. The induction is on the batches, with the counter of calls as it goes. -/
theorem runBatches_spec (hl : Loadable profile) {batches : List (List String)}
    (hknown : ∀ batch ∈ batches, ∀ k ∈ batch, k ∈ profile.assessmentItems.map AssessmentItem.assessmentItemId)
    (hfits : Fits profile content inputBudgetTokens batches)
    (hconforms : Conforms profile content services inputBudgetTokens batches) (hrouting : request.routing = none)
    (payloads : List RowPayload) (n : Nat) :
    (callsNeeded profile content batches = 0 ∨ n + callsNeeded profile content batches ≤ callLimit request →
      ∃ payloads', runBatches services profile content request inputBudgetTokens batches payloads n =
        .ok (.going payloads' (n + callsNeeded profile content batches)) ∧
        BatchDone profile batches.flatten payloads payloads') ∧
    (¬(callsNeeded profile content batches = 0 ∨ n + callsNeeded profile content batches ≤ callLimit request) →
      ∃ m, runBatches services profile content request inputBudgetTokens batches payloads n =
        .ok (.stopped (failureResult .rejectedRouting m "model_call_limit_exceeded" false))) := by
  induction batches generalizing payloads n with
  | nil =>
    exact ⟨fun _ => ⟨payloads, rfl, ⟨[], (List.append_nil _).symm, .refl _, fun _ h => absurd h List.not_mem_nil⟩⟩,
      fun h => absurd (Or.inl rfl) h⟩
  | cons batch batches ih =>
    have hhead : ∀ k ∈ batch, k ∈ profile.assessmentItems.map AssessmentItem.assessmentItemId :=
      hknown batch List.mem_cons_self
    have hone : Fits profile content inputBudgetTokens [batch] := fun b hb =>
      hfits b (List.mem_singleton.1 hb ▸ List.mem_cons_self)
    have hconform : Conforms profile content services inputBudgetTokens [batch] := fun b hb =>
      hconforms b (List.mem_singleton.1 hb ▸ List.mem_cons_self)
    have ih := fun payloads n => ih (fun b hb => hknown b (List.mem_cons_of_mem _ hb))
      (fun b hb => hfits b (List.mem_cons_of_mem _ hb)) (fun b hb => hconforms b (List.mem_cons_of_mem _ hb)) payloads n
    rw [callsNeeded_cons, List.flatten_cons]
    by_cases hneeds : NeedsCall profile content batch
    · rw [if_pos hneeds]
      have hcall := runBatch_call hl hhead hone hneeds hconform hrouting payloads n
      by_cases hlimit : n < callLimit request
      · obtain ⟨payloads', hbatch, hdone⟩ := hcall.1 hlimit
        obtain ⟨hgoing, hstopped⟩ := ih payloads' (n + 1)
        constructor
        · intro hwithin
          obtain ⟨payloads'', hrest, hdone'⟩ := hgoing (by omega)
          refine ⟨payloads'', bind_eq_ok.2 ⟨_, hbatch, ?_⟩, hdone.trans hdone'⟩
          rw [← Nat.add_assoc]
          exact hrest
        · intro hbeyond
          obtain ⟨m, hrest⟩ := hstopped (by omega)
          exact ⟨m, bind_eq_ok.2 ⟨_, hbatch, hrest⟩⟩
      · constructor
        · intro hwithin
          omega
        · intro _
          exact ⟨n, bind_eq_ok.2 ⟨_, hcall.2 (not_lt.1 hlimit), rfl⟩⟩
    · rw [if_neg hneeds, Nat.zero_add]
      obtain ⟨payloads', hbatch, hdone⟩ : ∃ payloads', runBatch services profile content request inputBudgetTokens batch
          payloads n = .ok (.going payloads' n) ∧ BatchDone profile batch payloads payloads' :=
        runBatch_free hl hhead hone hneeds payloads n
      obtain ⟨hgoing, hstopped⟩ := ih payloads' n
      constructor
      · intro hwithin
        obtain ⟨payloads'', hrest, hdone'⟩ := hgoing hwithin
        exact ⟨payloads'', bind_eq_ok.2 ⟨_, hbatch, hrest⟩, hdone.trans hdone'⟩
      · intro hbeyond
        obtain ⟨m, hrest⟩ := hstopped hbeyond
        exact ⟨m, bind_eq_ok.2 ⟨_, hbatch, hrest⟩⟩

/-- the result of a run that is accepted with exactly one row an item -/
def Accepted (ids : List String) (result : Except RunError SufficiencyMatrixResult) : Prop :=
  ∃ r, result = .ok r ∧ r.validationOutcome = .accepted ∧ (r.rowPayloads.map RowPayload.assessmentItemId).Perm ids

/-- rows that cover the items are accepted -/
theorem accepted_of_going (hl : Loadable profile) {ids : List String} (hids : ItemsOf profile ids) {payloads : List RowPayload}
    {n : Nat} (hrun : runBatches services profile content (sufficiencyModelRequest request) inputBudgetTokens
      (chunkAssessmentItemIds ids) [] (sufficiencyModelRequest request).currentLlmCallCount = .ok (.going payloads n))
    (hdone : BatchDone profile ids [] payloads) :
    Accepted ids (runSufficiencyMatrix services profile content request inputBudgetTokens ids) := by
  obtain ⟨new, hnew, hperm, hok⟩ := hdone.added
  rw [List.nil_append] at hnew
  subst hnew
  have hcoverage : requireExactMatrixCoverage ids ((payloads.map fun row =>
      { row with systemStatus := row.modelProposedStatus }).map RowPayload.assessmentItemId) = .ok () := by
    refine requireExactMatrixCoverage_eq_ok.2 ⟨fun k hk => hl.valid (hids.known k hk), hids.once, ?_⟩
    rw [List.map_map]
    exact hperm
  refine ⟨⟨payloads.map fun row => { row with systemStatus := row.modelProposedStatus }, .accepted, n, none, false⟩, ?_, rfl, ?_⟩
  · refine bind_eq_ok.2 ⟨_, hrun, ?_⟩
    dsimp only
    rw [applyCeilings_ok hok]
    dsimp only
    rw [hcoverage]
    rfl
  · rw [List.map_map]
    exact hperm

/-- the calls that the batches of a list take fit the limit of a run -/
def CallsFit (profile : Profile) (content : SealedContent) (request : ModelCallRequest) (ids : List String) : Prop :=
  callsNeeded profile content (chunkAssessmentItemIds ids) = 0 ∨
    request.currentLlmCallCount + callsNeeded profile content (chunkAssessmentItemIds ids) ≤ callLimit request

/-- the run is accepted while its calls are within the limit, and rejected at the first call beyond it -/
theorem runSufficiencyMatrix_spec (hl : Loadable profile) {ids : List String} (hids : ItemsOf profile ids)
    (hfits : Fits profile content inputBudgetTokens (chunkAssessmentItemIds ids))
    (hconforms : Conforms profile content services inputBudgetTokens (chunkAssessmentItemIds ids))
    (hrouting : request.routing = none) :
    (CallsFit profile content request ids →
      Accepted ids (runSufficiencyMatrix services profile content request inputBudgetTokens ids)) ∧
    (¬CallsFit profile content request ids →
      ∃ m, runSufficiencyMatrix services profile content request inputBudgetTokens ids =
        .ok (failureResult .rejectedRouting m "model_call_limit_exceeded" false)) := by
  have hknown : ∀ batch ∈ chunkAssessmentItemIds ids, ∀ k ∈ batch,
      k ∈ profile.assessmentItems.map AssessmentItem.assessmentItemId := by
    intro batch hbatch k hk
    refine hids.known k ?_
    rw [← flatten_chunkAssessmentItemIds ids]
    exact List.mem_flatten.2 ⟨batch, hbatch, hk⟩
  have hspec := @runBatches_spec services profile content (sufficiencyModelRequest request) inputBudgetTokens hl
    (chunkAssessmentItemIds ids) hknown hfits hconforms hrouting [] (sufficiencyModelRequest request).currentLlmCallCount
  rw [callLimit_sufficiencyModelRequest] at hspec
  constructor
  · intro hwithin
    obtain ⟨payloads, hrun, hdone⟩ := hspec.1 hwithin
    rw [flatten_chunkAssessmentItemIds] at hdone
    exact accepted_of_going hl hids hrun hdone
  · intro hbeyond
    obtain ⟨m, hstopped⟩ := hspec.2 hbeyond
    exact ⟨m, bind_eq_ok.2 ⟨_, hstopped, rfl⟩⟩

/-- a run that is rejected at the limit of calls is not accepted -/
theorem not_accepted_of_beyond {ids : List String} {result : Except RunError SufficiencyMatrixResult}
    (h : ∃ m, result = .ok (failureResult .rejectedRouting m "model_call_limit_exceeded" false)) :
    ¬Accepted ids result := by
  rintro ⟨r, hr, haccepted, -⟩
  obtain ⟨m, hresult⟩ := h
  rw [hresult] at hr
  rw [← Except.ok.inj hr] at haccepted
  exact ValidationOutcome.noConfusion haccepted

/-- **When an assessment list can be analyzed.** For a loadable profile, any list of its items, sealed content whose bundles
fit the budget and a model that answers every batch as it should, the run is accepted with exactly one row an item if and
only if no batch takes a call, or the calls that the batches take fit the limit of the run, which is at most two. -/
theorem accepted_iff (services : Services) (profile : Profile) (content : SealedContent) (request : ModelCallRequest)
    (inputBudgetTokens : Nat) (ids : List String) (hl : Loadable profile) (hids : ItemsOf profile ids)
    (hfits : Fits profile content inputBudgetTokens (chunkAssessmentItemIds ids))
    (hconforms : Conforms profile content services inputBudgetTokens (chunkAssessmentItemIds ids))
    (hrouting : request.routing = none) :
    Accepted ids (runSufficiencyMatrix services profile content request inputBudgetTokens ids) ↔
      callsNeeded profile content (chunkAssessmentItemIds ids) = 0 ∨
        request.currentLlmCallCount + callsNeeded profile content (chunkAssessmentItemIds ids) ≤
          min request.maxLlmCalls maxLlmCallsPerBatch := by
  obtain ⟨hwithin, hbeyond⟩ := runSufficiencyMatrix_spec hl hids hfits hconforms hrouting
  constructor
  · intro haccepted
    by_contra h
    exact not_accepted_of_beyond (hbeyond h) haccepted
  · exact hwithin

end

/-! ## A model of plain answers -/

theorem mem_chunkIds {k : Nat} {ids batch : List String} (h : batch ∈ chunkIds k ids) :
    batch.Sublist ids ∧ batch.length ≤ maxBatchSize := by
  induction k generalizing ids with
  | zero => exact absurd h List.not_mem_nil
  | succ k ih =>
    unfold chunkIds at h
    split at h
    · exact absurd h List.not_mem_nil
    · rcases List.mem_cons.1 h with rfl | h
      · exact ⟨List.take_sublist _ _, by rw [List.length_take]; omega⟩
      · obtain ⟨hsub, hlength⟩ := ih h
        exact ⟨hsub.trans (List.drop_sublist _ _), hlength⟩

/-- a model of plain answers, with a status that no evidence supports, answers every batch as it should -/
theorem conforms_answering {reader : Reader} (hreads : ReadsPlain reader) {profile : Profile} (hl : Loadable profile)
    {ids : List String} (hids : ItemsOf profile ids) (content : SealedContent) (inputBudgetTokens : Nat)
    {status : MatrixStatus} (hstatus : status.rank ≤ MatrixStatus.insufficientEvidence.rank) (contextComplete : Bool) :
    Conforms profile content (answering reader status contextComplete) inputBudgetTokens (chunkAssessmentItemIds ids) := by
  intro batch hbatch hneeds bundle hbundle attempt
  obtain ⟨hsub, hlength⟩ := mem_chunkIds hbatch
  have hmodel : (modelIds profile batch).Sublist batch := List.filter_sublist
  have hvalid : ∀ k ∈ modelIds profile batch, isAssessmentItemId k = true := fun k hk =>
    hl.valid (hids.known k (hsub.subset (hmodel.subset hk)))
  refine ⟨_, (modelIds profile batch).map (plainRow status contextComplete), rfl, ?_, ?_⟩
  · rw [(evidenceSources_of_ok hbundle).2]
    exact @validateAndParseResponse_plain (answering reader status contextComplete) hreads _ _ _ hneeds.1
      (hmodel.length_le.trans hlength) hvalid (hids.once.sublist (hmodel.trans hsub))
  · intro row hrow
    obtain ⟨k, -, rfl⟩ := List.mem_map.1 hrow
    refine ⟨rfl, ?_⟩
    rw [hl.statusPolicy]
    exact hstatus

/-! ## Twenty-one items -/

def sampleItem (k : String) : AssessmentItem :=
  { assessmentItemId := k, assessmentItemType := .nistControl, title := .str "Access", requirementText := .str "Limit access."
    modelAnalysisAllowed := true, requiredEvidenceKinds := [] }

def sampleIds : List String :=
  ["AC-1", "AC-2", "AC-3", "AC-4", "AC-5", "AC-6", "AC-7", "AC-8", "AC-9", "AC-10", "AC-11", "AC-12", "AC-13", "AC-14",
    "AC-15", "AC-16", "AC-17", "AC-18", "AC-19", "AC-20", "AC-21"]

def sampleProfile : Profile :=
  { profileId := "fisma_agency_security", assessmentItems := sampleIds.map sampleItem
    statusPolicy := ⟨some .insufficientEvidence, some .partialSupport, some .partialSupport⟩ }

def sampleDigest : String := "0f343b0931126a20f133d67c2b018a3b1f9f6d7b8c2a4e5d6c7b8a9f0e1d2c3b"

/-- one statement, read from an artifact -/
def sampleContent (statement : String) : SealedContent :=
  { document := [("security_controls", .obj [("AC-1", .obj [("implementation_statement", .str statement)])])]
    fieldProvenance := [("/security_controls/AC-1/implementation_statement",
      .obj [("source_artifact_id", .str "3f2504e0-4f89-41d3-9a0c-0305e82c3301"), ("source_sha256", .str sampleDigest)])] }

def sampleRequest : ModelCallRequest := ⟨none, 10, 0⟩

theorem loadable_sample : Loadable sampleProfile where
  statusPolicy := rfl
  ids := by decide

theorem itemsOf_sample : ItemsOf sampleProfile sampleIds where
  known := by decide
  once := by decide

def fitsBudget (profile : Profile) (content : SealedContent) (inputBudgetTokens : Nat) (batches : List (List String)) : Bool :=
  batches.all fun batch => (buildFactBundle profile (modelIds profile batch) content inputBudgetTokens).toBool

theorem fits_of_fitsBudget {profile : Profile} {content : SealedContent} {inputBudgetTokens : Nat}
    {batches : List (List String)} (h : fitsBudget profile content inputBudgetTokens batches = true) :
    Fits profile content inputBudgetTokens batches := by
  intro batch hbatch _
  have hok := List.all_eq_true.1 h batch hbatch
  cases hbundle : buildFactBundle profile (modelIds profile batch) content inputBudgetTokens with
  | error e => rw [hbundle] at hok; exact absurd hok Bool.false_ne_true
  | ok bundle => exact ⟨bundle, rfl⟩

theorem accepted_iff_small :
    Accepted ["AC-1"] (runSufficiencyMatrix (answering plainReader .insufficientEvidence false) sampleProfile
      (sampleContent "Locked.") sampleRequest 4096 ["AC-1"]) :=
  (accepted_iff (answering plainReader .insufficientEvidence false) sampleProfile (sampleContent "Locked.") sampleRequest
    4096 ["AC-1"] loadable_sample ⟨by decide, by decide⟩ (fits_of_fitsBudget (by decide))
    (conforms_answering readsPlain_plainReader loadable_sample ⟨by decide, by decide⟩ _ _ le_rfl false)
    rfl).2 (by decide)

/-- a model answers every batch of twenty-one items as it should, and the run is rejected -/
theorem third_batch_rejected :
    Loadable sampleProfile ∧ ItemsOf sampleProfile sampleIds ∧
    Fits sampleProfile (sampleContent "Locked.") 4096 (chunkAssessmentItemIds sampleIds) ∧
    Conforms sampleProfile (sampleContent "Locked.") (answering plainReader .insufficientEvidence false) 4096
      (chunkAssessmentItemIds sampleIds) ∧
    sampleRequest.routing = none ∧
    ¬Accepted sampleIds (runSufficiencyMatrix (answering plainReader .insufficientEvidence false) sampleProfile
      (sampleContent "Locked.") sampleRequest 4096 sampleIds) := by
  have hfits : Fits sampleProfile (sampleContent "Locked.") 4096 (chunkAssessmentItemIds sampleIds) :=
    fits_of_fitsBudget (by decide)
  have hconforms := conforms_answering readsPlain_plainReader loadable_sample itemsOf_sample (sampleContent "Locked.") 4096
    (le_refl MatrixStatus.insufficientEvidence.rank) false
  have hbeyond : ¬CallsFit sampleProfile (sampleContent "Locked.") sampleRequest sampleIds := by
    unfold CallsFit
    decide
  exact ⟨loadable_sample, itemsOf_sample, hfits, hconforms, rfl, not_accepted_of_beyond
    ((runSufficiencyMatrix_spec loadable_sample itemsOf_sample hfits hconforms rfl).2 hbeyond)⟩

end AtoService.Matrix
