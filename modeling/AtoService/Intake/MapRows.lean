/-
What the transactions of a worker do to the rows of MAP steps.

`RowMove` lists what can become of a row in one transaction, and `Shape` is what holds of each row at any time. A
transaction that goes through finds the work under the worker's fence token (`Holds`) and moves rows of that revision only.

- `Shape.move`, `RowMove.status`: a move keeps the shape of a row, and its status follows the lifecycle.
- `reserve_returns`, `transition_returns`, `commit_returns`: the transactions.
-/
import AtoService.Intake.MapSteps

namespace AtoService.IntakeMap

open Session Checks Intake

/-! ## Moves of a row -/

/-- a result that fits the row it is recorded in -/
inductive Matches (row : NormalizationStep) (result : MapStepResult) : Prop
  | uncalled (hstatus : row.status = .reserved) (hcount : result.llmCallCount = 0)
      (hend : resolveMapTerminalStepStatus result = .policyBlocked ∨ resolveMapTerminalStepStatus result = .failed)
  | failed (hstatus : row.status = .running) (hcount : result.llmCallCount = row.llmCallCount)
      (hend : resolveMapTerminalStepStatus result = .failed)
  | completed (hstatus : row.status = .running) (hcount : result.llmCallCount = row.llmCallCount)
      (hend : resolveMapTerminalStepStatus result = .completed) (hresponse : result.responseSha256.isSome)
      (hstored : ∀ artifactKind, artifactKind ∈ result.stored)
  /-- a first call that raised, which the result does not count -/
  | unrecorded (hstatus : row.status = .running) (hrow : row.llmCallCount = 1) (hcount : result.llmCallCount = 0)
      (hend : result.validationOutcome = .skippedModelNotConfigured ∨ result.validationOutcome = .modelCallFailed)

inductive RowMove : NormalizationStep → NormalizationStep → Prop
  | stay (row : NormalizationStep) : RowMove row row
  | run (row : NormalizationStep) (now : Instant) (hstatus : row.status = .reserved) : RowMove row (runningStep row now)
  | repair (row : NormalizationStep) (hstatus : row.status = .running) (hcount : row.llmCallCount = 1) :
      RowMove row (repairingStep row)
  | reconcile (row : NormalizationStep) (now : Instant) (hstatus : row.status = .running) :
      RowMove row (reconciledStep row now)
  | record (row : NormalizationStep) (result : MapStepResult) (now : Instant) (h : Matches row result) :
      RowMove row (terminalizeIntakeMapStep row result now)

/-- the lifecycle of a step -/
inductive LegalMove : StepStatus → StepStatus → Prop
  | run : LegalMove .reserved .running
  | block : LegalMove .reserved .policyBlocked
  | reject : LegalMove .reserved .failed
  | complete : LegalMove .running .completed
  | fail : LegalMove .running .failed
  | reconcile : LegalMove .running .reconciliationRequired

def StepStatus.terminal : StepStatus → Bool
  | .reserved | .running => false
  | .completed | .policyBlocked | .failed | .reconciliationRequired => true

/-- what holds of a row at any time -/
structure Shape (row : NormalizationStep) : Prop where
  uncalled : row.status = .reserved ∨ row.status = .policyBlocked → row.llmCallCount = 0
  running : row.status = .running → row.llmCallCount = 1 ∨ row.llmCallCount = 2
  repaired : row.repairAttempted = true → row.llmCallCount = 2
  bounded : row.llmCallCount ≤ 2
  completed : row.status = .completed → row.responseSha256.isSome ∧ row.promptStorageKey.isSome ∧
    row.factBundleStorageKey.isSome ∧ row.responseStorageKey.isSome

section Terminalize

variable (row : NormalizationStep) (result : MapStepResult) (now : Instant)

@[simp] theorem terminalize_stepId : (terminalizeIntakeMapStep row result now).stepId = row.stepId := by
  unfold terminalizeIntakeMapStep
  split <;> rfl

@[simp] theorem terminalize_name : stepName (terminalizeIntakeMapStep row result now) = stepName row := by
  unfold terminalizeIntakeMapStep
  split <;> rfl

@[simp] theorem terminalize_status :
    (terminalizeIntakeMapStep row result now).status = resolveMapTerminalStepStatus result := by
  unfold terminalizeIntakeMapStep
  split <;> rfl

@[simp] theorem terminalize_llmCallCount :
    (terminalizeIntakeMapStep row result now).llmCallCount = result.llmCallCount := by
  unfold terminalizeIntakeMapStep
  split <;> rfl

@[simp] theorem terminalize_validationOutcome :
    (terminalizeIntakeMapStep row result now).validationOutcome = some result.validationOutcome.text := by
  unfold terminalizeIntakeMapStep
  split <;> rfl

@[simp] theorem terminalize_repairAttempted :
    (terminalizeIntakeMapStep row result now).repairAttempted = decide (result.llmCallCount = 2) := by
  unfold terminalizeIntakeMapStep
  split <;> rfl

theorem terminalize_completed (hend : resolveMapTerminalStepStatus result = .completed)
    (hresponse : result.responseSha256.isSome) (hstored : ∀ artifactKind, artifactKind ∈ result.stored) :
    (terminalizeIntakeMapStep row result now).responseSha256.isSome ∧
      (terminalizeIntakeMapStep row result now).promptStorageKey.isSome ∧
      (terminalizeIntakeMapStep row result now).factBundleStorageKey.isSome ∧
      (terminalizeIntakeMapStep row result now).responseStorageKey.isSome := by
  simp [terminalizeIntakeMapStep, hend, MapStepResult.storedKey, hstored, hresponse]

end Terminalize

variable {row row' : NormalizationStep} {result : MapStepResult}

theorem terminal_resolve (result : MapStepResult) : (resolveMapTerminalStepStatus result).terminal = true := by
  unfold resolveMapTerminalStepStatus
  split <;> rfl

theorem Matches.live (h : Matches row result) : row.status = .reserved ∨ row.status = .running := by
  cases h with
  | uncalled hstatus => exact Or.inl hstatus
  | failed hstatus => exact Or.inr hstatus
  | completed hstatus => exact Or.inr hstatus
  | unrecorded hstatus => exact Or.inr hstatus

theorem resolve_unrecorded
    (h : result.validationOutcome = .skippedModelNotConfigured ∨ result.validationOutcome = .modelCallFailed) :
    resolveMapTerminalStepStatus result = .failed := by
  unfold resolveMapTerminalStepStatus
  rcases h with h | h <;> rw [h]

theorem RowMove.stepId (h : RowMove row row') : row'.stepId = row.stepId := by
  cases h with
  | record result now => exact terminalize_stepId row result now
  | _ => rfl

theorem RowMove.name (h : RowMove row row') : stepName row' = stepName row := by
  cases h with
  | record result now => exact terminalize_name row result now
  | _ => rfl

/-- **A row in a terminal status never changes.** -/
theorem RowMove.of_terminal (h : RowMove row row') (hterminal : row.status.terminal = true) : row' = row := by
  have hlive (hl : row.status = .reserved ∨ row.status = .running) : row' = row := by
    rcases hl with hl | hl <;> rw [hl] at hterminal <;> cases hterminal
  cases h with
  | stay => rfl
  | run now hstatus => exact hlive (Or.inl hstatus)
  | repair hstatus => exact hlive (Or.inr hstatus)
  | reconcile now hstatus => exact hlive (Or.inr hstatus)
  | record result now hmatches => exact hlive hmatches.live

/-- **The status of a row follows the lifecycle.** -/
theorem RowMove.status (h : RowMove row row') : row'.status = row.status ∨ LegalMove row.status row'.status := by
  cases h with
  | stay => exact Or.inl rfl
  | run now hstatus => exact Or.inr (hstatus ▸ .run)
  | repair hstatus => exact Or.inl rfl
  | reconcile now hstatus => exact Or.inr (hstatus ▸ .reconcile)
  | record result now hmatches =>
    rw [terminalize_status]
    cases hmatches with
    | uncalled hstatus _ hend => rcases hend with hend | hend <;> rw [hstatus, hend]; exacts [Or.inr .block, Or.inr .reject]
    | failed hstatus _ hend => exact Or.inr (by rw [hstatus, hend]; exact .fail)
    | completed hstatus _ hend => exact Or.inr (by rw [hstatus, hend]; exact .complete)
    | unrecorded hstatus _ _ hend => exact Or.inr (by rw [hstatus, resolve_unrecorded hend]; exact .fail)

theorem Shape.record (h : Shape row) (hmatches : Matches row result) (now : Instant) :
    Shape (terminalizeIntakeMapStep row result now) := by
  have hbound : result.llmCallCount ≤ 2 := by
    cases hmatches with
    | uncalled _ hcount => omega
    | failed _ hcount => exact hcount ▸ h.bounded
    | completed _ hcount => exact hcount ▸ h.bounded
    | unrecorded _ _ hcount => omega
  refine ⟨fun hstatus => ?_, fun hstatus => ?_, fun hrepair => ?_, ?_, fun hstatus => ?_⟩
  · rw [terminalize_status] at hstatus
    rw [terminalize_llmCallCount]
    cases hmatches with
    | uncalled _ hcount => exact hcount
    | failed _ _ hend => rw [hend] at hstatus; rcases hstatus with hs | hs <;> cases hs
    | completed _ _ hend => rw [hend] at hstatus; rcases hstatus with hs | hs <;> cases hs
    | unrecorded _ _ hcount => exact hcount
  · rw [terminalize_status] at hstatus
    have hterminal := terminal_resolve result
    rw [hstatus] at hterminal
    cases hterminal
  · rw [terminalize_repairAttempted, decide_eq_true_eq] at hrepair
    rw [terminalize_llmCallCount, hrepair]
  · rw [terminalize_llmCallCount]
    exact hbound
  · rw [terminalize_status] at hstatus
    cases hmatches with
    | uncalled _ _ hend => rw [hstatus] at hend; rcases hend with hs | hs <;> cases hs
    | failed _ _ hend => rw [hstatus] at hend; cases hend
    | completed _ _ hend hresponse hstored => exact terminalize_completed row result now hend hresponse hstored
    | unrecorded _ _ _ hend => rw [resolve_unrecorded hend] at hstatus; cases hstatus

theorem shape_newStep (c : MapClaim) (now : Instant) (stepKey inputDigest : String) (stepId : Uuid) :
    Shape (newStep c now stepKey inputDigest stepId) :=
  ⟨fun _ => rfl, fun h => (by cases h), fun h => (by cases h), Nat.zero_le _, fun h => (by cases h)⟩

/-- **A move keeps the shape of a row.** -/
theorem Shape.move (h : Shape row) (hm : RowMove row row') : Shape row' := by
  cases hm with
  | stay => exact h
  | run now hstatus =>
    refine ⟨fun hs => ?_, fun _ => Or.inl rfl, fun hrepair => ?_, Nat.le_succ 1, fun hs => (by cases hs)⟩
    · rcases hs with hs | hs <;> cases hs
    · -- a reserved row has had no call, and so no repair
      have hcount := h.repaired hrepair
      rw [h.uncalled (Or.inl hstatus)] at hcount
      cases hcount
  | repair hstatus =>
    refine ⟨fun hs => ?_, fun _ => Or.inr rfl, fun _ => rfl, le_refl 2, fun hs => ?_⟩
    · rcases hs with hs | hs <;> cases hstatus.symm.trans hs
    · cases hstatus.symm.trans hs
  | reconcile now hstatus =>
    refine ⟨fun hs => ?_, fun hs => ?_, h.repaired, h.bounded, fun hs => ?_⟩
    · rcases hs with hs | hs <;> cases hs
    · cases hs
    · cases hs
  | record result now hmatches => exact h.record hmatches now

/-! ## Reading the tables -/

variable {M : Nat} {db db' : MapDb} {c : MapClaim} {now : Instant}

theorem assertLive_returns {work : IntakeWork} {revision : PackageRevision} {wrap : IntakeError → MapError} {u : Unit}
    (hr : Returns (onQueue wrap (assertIntakeClaimLive work revision c.leaseOwner c.fenceToken now)) db u db') :
    db' = db ∧ validLease work c.leaseOwner c.fenceToken now := by
  obtain ⟨t, hassert, rfl⟩ := returns_zoom.1 hr
  simp only [assertIntakeClaimLive, assertValidLease, returns_bind, returns_ensure] at hassert
  obtain ⟨_, _, ⟨hvalid, rfl⟩, -, rfl⟩ := hassert
  exact ⟨rfl, hvalid⟩

/-- a claim that is live holds its work -/
theorem holds_of_valid {work : IntakeWork} (hfound : db.queue.work? c.key = some work)
    (hvalid : validLease work c.leaseOwner c.fenceToken now) : Holds db.queue c.key c.fenceToken := by
  obtain ⟨hwork, hkey⟩ := Rows.mem_of_get? hfound
  exact ⟨work, hwork, hkey, hvalid.2.2.1⟩

theorem loadOwnedWork_returns {work : IntakeWork} (hr : Returns (loadOwnedWork c now) db work db') :
    db' = db ∧ Holds db.queue c.key c.fenceToken := by
  simp only [loadOwnedWork, returns_bind, returns_read, returns_orRaise, returns_ensure, returns_pure] at hr
  obtain ⟨found, _, ⟨hfound, rfl⟩, work, _, ⟨rfl, rfl⟩, foundRevision, _, ⟨-, rfl⟩, revision, _, ⟨-, rfl⟩, _, db₁, hassert,
    _, _, ⟨-, rfl⟩, -, rfl⟩ := hr
  obtain ⟨rfl, hvalid⟩ := assertLive_returns hassert
  exact ⟨rfl, holds_of_valid hfound hvalid⟩

theorem assertLiveLease_returns {u : Unit} (hr : Returns (assertLiveLease c now) db u db') : db' = db := by
  simp only [assertLiveLease, returns_bind, returns_pure] at hr
  obtain ⟨work, _, hload, -, rfl⟩ := hr
  exact (loadOwnedWork_returns hload).1

theorem loadOwnedMapContext_returns {stepKey : String} {stepId : Option Uuid} {x : Option NormalizationStep}
    (hr : Returns (loadOwnedMapContext c now stepKey stepId) db x db') :
    db' = db ∧ Holds db.queue c.key c.fenceToken ∧
      (x = none → stepId = none → ∀ row ∈ db.steps, stepName row ≠ (c.packageRevisionId, stepKey)) ∧
      ∀ row, x = some row → row ∈ db.steps ∧ stepName row = (c.packageRevisionId, stepKey) ∧
        ∀ id, stepId = some id → row.stepId = id := by
  simp only [loadOwnedMapContext, returns_bind, returns_read, returns_scalarOneOrNone] at hr
  obtain ⟨work, db₁, hload, rows, _, ⟨hrows, rfl⟩, hx, rfl⟩ := hr
  obtain ⟨rfl, hholds⟩ := loadOwnedWork_returns hload
  refine ⟨rfl, hholds, fun hnone hid row hrow hname => ?_, fun row hsome => ?_⟩
  · subst hnone hid
    rw [← hrows, Option.toList_none, List.filter_eq_nil_iff] at hx
    exact hx row hrow (by simp [hname])
  · subst hsome
    have hmem : row ∈ rows := by
      rw [hx]
      exact List.mem_singleton_self row
    rw [← hrows, List.mem_filter, Bool.and_eq_true, decide_eq_true_eq] at hmem
    refine ⟨hmem.1, hmem.2.1, fun id hid => ?_⟩
    have hall := hmem.2.2
    rw [hid] at hall
    simpa using hall

/-! ## Reservation -/

/-- the row that a step identifier names is moved, and the others stay -/
theorem forall₂_putStep (hids : (db.steps.map NormalizationStep.stepId).Nodup) (hrow : row ∈ db.steps)
    (hm : RowMove row row') : List.Forall₂ RowMove db.steps (db.putStep row').steps := by
  refine Rows.forall₂_put (fun x _ _ => .stay x) fun x hx hkey => ?_
  rw [Rows.eq_of_mem hids hx hrow (hkey.trans hm.stepId)]
  exact hm

/-- what a reservation that goes through has done -/
inductive Reserved (M : Nat) (db : MapDb) (c : MapClaim) (now : Instant) (stepKey inputDigest : String) (drawn : Uuid) :
    ReservationOutcome → MapDb → Prop
  | new (hnew : ∀ row ∈ db.steps, stepName row ≠ (c.packageRevisionId, stepKey)) :
      Reserved M db c now stepKey inputDigest drawn ⟨drawn, false⟩
        { db with steps := db.steps ++ [newStep c now stepKey inputDigest drawn] }
  | again (row : NormalizationStep) (hrow : row ∈ db.steps) (hname : stepName row = (c.packageRevisionId, stepKey))
      (hstatus : row.status = .reserved) : Reserved M db c now stepKey inputDigest drawn ⟨row.stepId, false⟩ db
  /-- the row was past its reservation; its claim is closed with it -/
  | replayed (row : NormalizationStep) (db' : MapDb) (hrow : row ∈ db.steps)
      (hname : stepName row = (c.packageRevisionId, stepKey)) (hstatus : row.status ≠ .reserved)
      (hqueue : QueueStep M none db.queue db'.queue)
      (hsteps : db'.steps = db.steps ∨ Closed db'.queue c.key ∧ db'.steps = (db.putStep (reconciledStep row now)).steps) :
      Reserved M db c now stepKey inputDigest drawn ⟨row.stepId, true⟩ db'

theorem markMapReconciliation_returns (h : DbOk M db.queue) {u : Unit}
    (hr : Returns (markMapReconciliation c now row) db u db') : QueueStep M none db.queue db'.queue ∧
      (db'.steps = db.steps ∨ Closed db'.queue c.key ∧ db'.steps = (db.putStep (reconciledStep row now)).steps) := by
  simp only [markMapReconciliation, returns_bind] at hr
  obtain ⟨marked, db₁, hzoom, hr⟩ := hr
  obtain ⟨queue, hmark, rfl⟩ := returns_zoom.1 hzoom
  obtain ⟨hfences, hclosed⟩ := @mark_fences _ _ none _ _ hmark
  have hqueue : QueueStep M none db.queue queue := .of_progress h (mark_returns h hmark) hfences
  cases marked with
  | true =>
    simp only [if_true, returns_modify] at hr
    obtain rfl := hr
    exact ⟨hqueue, Or.inr ⟨hclosed rfl _ rfl, rfl⟩⟩
  | false =>
    obtain ⟨-, rfl⟩ := returns_pure.1 hr
    exact ⟨hqueue, Or.inl rfl⟩

theorem reserve_returns (h : DbOk M db.queue) {stepKey inputDigest : String} {drawn : Uuid} {outcome : ReservationOutcome}
    (hr : Returns (reserveMapStep c now stepKey inputDigest drawn) db outcome db') :
    Holds db.queue c.key c.fenceToken ∧ Reserved M db c now stepKey inputDigest drawn outcome db' := by
  simp only [reserveMapStep, returns_bind] at hr
  obtain ⟨found, db₁, hload, hr⟩ := hr
  obtain ⟨rfl, hholds, hnone, hsome⟩ := loadOwnedMapContext_returns hload
  refine ⟨hholds, ?_⟩
  cases found with
  | none =>
    simp only [returns_bind, returns_modify, returns_pure] at hr
    obtain ⟨_, _, rfl, rfl, rfl⟩ := hr
    exact .new (hnone rfl rfl)
  | some row =>
    obtain ⟨hrow, hname, -⟩ := hsome row rfl
    dsimp only at hr
    split_ifs at hr with hagain hreplay
    · obtain ⟨rfl, rfl⟩ := returns_pure.1 hr
      exact .again row hrow hname hagain.1
    · simp only [returns_bind, returns_pure] at hr
      obtain ⟨_, _, hmark, rfl, rfl⟩ := hr
      obtain ⟨hqueue, hsteps⟩ := markMapReconciliation_returns h hmark
      refine .replayed row _ hrow hname (fun hstatus => ?_) hqueue hsteps
      rw [hstatus] at hreplay
      revert hreplay
      decide
    · -- every status but `reserved` is in the list
      simp only [returns_bind, returns_ensure, returns_pure] at hr
      obtain ⟨_, _, ⟨hdigest, rfl⟩, rfl, rfl⟩ := hr
      refine .again row hrow hname ?_
      cases hstatus : row.status with
      | reserved => rfl
      | _ => exact absurd (hstatus ▸ by decide : row.status ∈ replayReconciliationStepStatuses) hreplay

/-! ## Calls -/

/-- what a transition that goes through has done -/
inductive Transitioned (db : MapDb) (c : MapClaim) (now : Instant) (stepId : Uuid) (stepKey : String) :
    Nat → MapDb → Prop
  | run (row : NormalizationStep) (hrow : row ∈ db.steps) (hname : stepName row = (c.packageRevisionId, stepKey))
      (hid : row.stepId = stepId) (hstatus : row.status = .reserved) :
      Transitioned db c now stepId stepKey 1 (db.putStep (runningStep row now))
  | repair (row : NormalizationStep) (hrow : row ∈ db.steps) (hname : stepName row = (c.packageRevisionId, stepKey))
      (hid : row.stepId = stepId) (hstatus : row.status = .running) (hcount : row.llmCallCount = 1) :
      Transitioned db c now stepId stepKey 2 (db.putStep (repairingStep row))

theorem transition_returns {stepId : Uuid} {stepKey inputDigest : String} {attempt : Nat} {u : Unit}
    (hr : Returns (transitionMapStepForCall c now stepId stepKey inputDigest attempt) db u db') :
    Holds db.queue c.key c.fenceToken ∧ Transitioned db c now stepId stepKey attempt db' := by
  simp only [transitionMapStepForCall, returns_bind, returns_orRaise, returns_ensure] at hr
  obtain ⟨found, db₁, hload, row, _, ⟨hfound, rfl⟩, _, _, ⟨-, rfl⟩, hr⟩ := hr
  obtain ⟨rfl, hholds, -, hsome⟩ := loadOwnedMapContext_returns hload
  obtain ⟨hrow, hname, hid⟩ := hsome row hfound
  refine ⟨hholds, ?_⟩
  split_ifs at hr with hfirst hsecond
  · simp only [returns_bind, returns_ensure, returns_modify] at hr
    obtain ⟨_, _, ⟨hstatus, rfl⟩, rfl⟩ := hr
    exact hfirst ▸ .run row hrow hname (hid stepId rfl) hstatus
  · simp only [returns_bind, returns_ensure, returns_modify] at hr
    obtain ⟨_, _, ⟨⟨hstatus, hcount⟩, rfl⟩, rfl⟩ := hr
    exact hsecond ▸ .repair row hrow hname (hid stepId rfl) hstatus hcount
  · simp at hr

/-! ## Results -/

/-- a row after the results were recorded -/
inductive Recorded (results : List MapStepResult) (now : Instant) : NormalizationStep → NormalizationStep → Prop
  | other (row : NormalizationStep) (h : ∀ result ∈ results, result.stepId ≠ row.stepId) : Recorded results now row row
  | result (row : NormalizationStep) (result : MapStepResult) (hresult : result ∈ results)
      (hid : result.stepId = row.stepId) : Recorded results now row (terminalizeIntakeMapStep row result now)

theorem terminalizeSteps_returns {results : List MapStepResult} (hdistinct : (results.map MapStepResult.stepId).Nodup)
    {u : Unit} (hr : Returns (terminalizeSteps now results) db u db')
    (hids : (db.steps.map NormalizationStep.stepId).Nodup) :
    db'.queue = db.queue ∧ List.Forall₂ (Recorded results now) db.steps db'.steps := by
  induction results generalizing db with
  | nil =>
    obtain ⟨-, rfl⟩ := returns_pure.1 hr
    exact ⟨rfl, List.forall₂_same.2 fun row _ => .other row fun _ h => absurd h List.not_mem_nil⟩
  | cons result results ih =>
    simp only [terminalizeSteps, returns_bind, returns_read, returns_orRaise, returns_modify] at hr
    obtain ⟨found, _, ⟨hfound, rfl⟩, row, _, ⟨rfl, rfl⟩, _, _, rfl, hr⟩ := hr
    rw [List.map_cons, List.nodup_cons] at hdistinct
    obtain ⟨hrow, hid⟩ := Rows.mem_of_get? hfound
    have hids' : ((db.putStep (terminalizeIntakeMapStep row result now)).steps.map NormalizationStep.stepId).Nodup := by
      rw [MapDb.putStep, Rows.keys_put]
      exact hids
    obtain ⟨hqueue, hrest⟩ := ih hdistinct.2 hr hids'
    have hrest' := (List.forall₂_and_left _ _).2 ⟨fun x (hx : x ∈ db.steps) => hx, List.forall₂_map_left_iff.1 hrest⟩
    refine ⟨hqueue, hrest'.imp fun x x' hboth => ?_⟩
    obtain ⟨hx, hrec⟩ := hboth
    rw [terminalize_stepId] at hrec
    split_ifs at hrec with hsame
    · -- the row of this result: no later result is recorded in it
      obtain rfl := Rows.eq_of_mem hids hx hrow hsame
      cases hrec with
      | other => exact .result x result List.mem_cons_self hid.symm
      | result r hr hrid =>
        rw [terminalize_stepId, hid] at hrid
        exact absurd (hrid ▸ List.mem_map_of_mem hr) hdistinct.1
    · cases hrec with
      | other h => exact .other x fun r hr => (List.mem_cons.1 hr).elim (fun heq hrid => hsame (by rw [← hrid, heq, hid])) (h r)
      | result r hr hrid => exact .result x r (List.mem_cons_of_mem _ hr) hrid

theorem commit_returns (h : DbOk M db.queue) {results : List MapStepResult}
    (hdistinct : Holds db.queue c.key c.fenceToken → (results.map MapStepResult.stepId).Nodup)
    (hids : (db.steps.map NormalizationStep.stepId).Nodup) {u : Unit}
    (hr : Returns (commitSuccessfulExtract c now results) db u db') :
    Holds db.queue c.key c.fenceToken ∧ QueueStep M none db.queue db'.queue ∧ Closed db'.queue c.key ∧
      List.Forall₂ (Recorded results now) db.steps db'.steps := by
  simp only [commitSuccessfulExtract, returns_bind, returns_read, returns_orRaise, returns_ensure] at hr
  obtain ⟨found, _, ⟨hfound, rfl⟩, work, _, ⟨rfl, rfl⟩, foundRevision, _, ⟨-, rfl⟩, revision, _, ⟨-, rfl⟩, _, db₁, hassert,
    _, _, ⟨-, rfl⟩, _, _, ⟨-, rfl⟩, _, db₂, hcomplete, _, db₃, hsteps, hwrite⟩ := hr
  obtain ⟨rfl, hvalid⟩ := assertLive_returns hassert
  obtain ⟨queue, hdone, rfl⟩ := returns_zoom.1 hcomplete
  obtain ⟨hfences, hclosed⟩ := @complete_fences _ _ none _ _ hdone
  have hqueue : QueueStep M none db₁.queue queue := .of_progress h (complete_returns h hdone) hfences
  have hholds := holds_of_valid hfound hvalid
  obtain ⟨hsame, hrecorded⟩ := terminalizeSteps_returns (hdistinct hholds) hsteps hids
  obtain ⟨queue', hrevision, rfl⟩ := returns_zoom.1 hwrite
  have hwritten : QueueStep M none db₃.queue queue' := write_returns (hsame ▸ hqueue.ok) hrevision
  rw [hsame] at hwritten
  exact ⟨hholds, hqueue.trans hwritten, hwritten.closed (hclosed _ rfl), hrecorded⟩

end AtoService.IntakeMap
