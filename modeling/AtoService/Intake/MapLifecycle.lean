/-
The lifecycle of MAP steps and the calls that are made for them, in every run.

- `step_moved`: an event moves each row at most once.
- `steps_follow_lifecycle`: what can become of a row.
- `calls_counted`: the calls that are made, and what the rows record of them.
-/
import AtoService.Intake.MapInvariant

namespace AtoService.IntakeMap

open Session Checks Intake

variable {M : Nat} {s s' : State} {w : MapWorker} {row : NormalizationStep}

/-! ## The lifecycle of a row -/

/-- the rows after an event: each as it moved, and a new one at most -/
def Moved (s s' : State) : Prop :=
  ∃ moved new, s'.db.steps = moved ++ new ∧ List.Forall₂ RowMove s.db.steps moved ∧ ∀ row ∈ new, row.status = .reserved

theorem Moved.same (hsteps : s'.db.steps = s.db.steps) : Moved s s' :=
  ⟨s.db.steps, [], by rw [hsteps, List.append_nil], List.forall₂_same.2 fun row _ => .stay row,
    fun _ h => absurd h List.not_mem_nil⟩

theorem Moved.of_moves (hmoves : List.Forall₂ RowMove s.db.steps s'.db.steps) : Moved s s' :=
  ⟨s'.db.steps, [], (List.append_nil _).symm, hmoves, fun _ h => absurd h List.not_mem_nil⟩

theorem Moved.of_ended {c : MapClaim}
    (hrows : List.Forall₂ (fun row row' => row' = row ∨ Ended s c row row') s.db.steps s'.db.steps) : Moved s s' :=
  .of_moves (hrows.imp fun row _ hr => hr.elim (fun heq => heq ▸ .stay row) Ended.move)

theorem reserve_moved (h : Inv M s) (now : Instant) (w : MapWorker) : Moved s (s.reserve now w) := by
  unfold State.reserve
  split
  · rename_i artifact rest hphase htodo
    rcases returns_or_raises (reserveMapStep w.claim now (intakeMapStepKey artifact.artifactId) artifact.inputDigest s.drawn)
      s.db with ⟨outcome, db', hr⟩ | ⟨e, db', hr⟩
    · obtain ⟨hholds, hreserved⟩ := reserve_returns h.queue hr
      rw [State.transact, show reserveMapStep _ _ _ _ _ _ = _ from hr]
      cases hreserved with
      | new hnew =>
        refine ⟨s.db.steps, _, rfl, List.forall₂_same.2 fun row _ => .stay row, fun row hrow => ?_⟩
        rw [List.mem_singleton.1 hrow]
        rfl
      | again => exact .same rfl
      | replayed row db' hrow hname hstatus hqueue hsteps =>
        rcases hsteps with hsteps | ⟨hclosed, hsteps⟩
        · exact .same hsteps
        · refine .of_ended (c := w.claim) ?_
          show List.Forall₂ _ s.db.steps db'.steps
          rw [hsteps]
          exact forall₂_reconciled h hrow hname hstatus hholds
    · rw [State.transact, show reserveMapStep _ _ _ _ _ _ = _ from hr]
      exact .same rfl
  · exact .same rfl

theorem record_moved (h : Inv M s) (hw : w ∈ s.workers) (hlive : w.live = true) (now : Instant) :
    Moved s (s.record now w) := by
  unfold State.record
  split
  · rename_i stepId current artifact rest hnext htodo
    cases hdenial : w.denial current with
    | some errorCode => exact .same rfl
    | none =>
      dsimp only
      rcases returns_or_raises (transitionMapStepForCall w.claim now stepId (intakeMapStepKey artifact.artifactId)
        artifact.inputDigest (current + 1)) s.db with ⟨u, db', hr⟩ | ⟨e, db', hr⟩
      · obtain ⟨hholds, ht⟩ := transition_returns hr
        rw [State.transact, show transitionMapStepForCall _ _ _ _ _ _ _ = _ from hr]
        obtain ⟨row, row', hrow, -, -, hm, rfl, -⟩ := transitioned_spec h hw hlive hholds hnext ht
        exact .of_moves (forall₂_putStep h.ids hrow hm)
      · rw [State.transact, show transitionMapStepForCall _ _ _ _ _ _ _ = _ from hr]
        exact .same rfl
  · exact .same rfl

theorem commit_moved (h : Inv M s) (hw : w ∈ s.workers) (hlive : w.live = true) (now : Instant) :
    Moved s (s.commit now w) := by
  unfold State.commit
  split_ifs with hphase
  · rcases returns_or_raises (commitSuccessfulExtract w.claim now w.results) s.db with ⟨u, db', hr⟩ | ⟨e, db', hr⟩
    · rw [State.transact, show commitSuccessfulExtract _ _ _ _ = _ from hr]
      obtain ⟨hholds, -, -, hrows⟩ :=
        commit_returns h.queue (fun hholds => (h.owner w hw hlive hholds).distinct) h.ids hr
      exact .of_ended (forall₂_recorded h hw hphase (h.owner w hw hlive hholds) hrows)
    · rw [State.transact, show commitSuccessfulExtract _ _ _ _ = _ from hr]
      exact .same rfl
  · exact .same rfl

theorem check_moved (now : Instant) (w : MapWorker) : Moved s (s.check now w) := by
  unfold State.check
  split_ifs
  · rcases returns_or_raises (assertLiveLease w.claim now) s.db with ⟨u, db', hr⟩ | ⟨e, db', hr⟩
    · rw [State.transact, show assertLiveLease _ _ _ = _ from hr, assertLiveLease_returns hr]
      exact .same rfl
    · rw [State.transact, show assertLiveLease _ _ _ = _ from hr]
      exact .same rfl
  · exact .same rfl

theorem claim_moved (maxAttempts : Int) (r : ClaimRequest) (snapshot : MapSnapshot) :
    Moved s (s.claim maxAttempts r snapshot) := by
  unfold State.claim
  split
  · split_ifs <;> exact .same rfl
  · exact .same rfl

theorem call_moved (w : MapWorker) : Moved s (s.call w) := by
  unfold State.call
  split <;> exact .same rfl

theorem reply_moved (r : Reply) (w : MapWorker) : Moved s (s.reply r w) := by
  unfold State.reply
  split <;> exact .same rfl

/-- **One event** moves each row at most once, and adds a reserved one at most. -/
theorem step_moved {maxAttempts : Int} (h : Inv maxAttempts.toNat s) (e : Event) : Moved s (step maxAttempts s e) := by
  cases e with
  | operate a => exact .same rfl
  | claim r snapshot => exact claim_moved maxAttempts r snapshot
  | check fenceToken now => exact advance_cases (.same rfl) fun w _ _ => check_moved now w
  | reserve fenceToken now => exact advance_cases (.same rfl) fun w _ _ => reserve_moved h now w
  | record fenceToken now => exact advance_cases (.same rfl) fun w hw hlive => record_moved h hw hlive now
  | call fenceToken => exact advance_cases (.same rfl) fun w _ _ => call_moved w
  | reply fenceToken r => exact advance_cases (.same rfl) fun w _ _ => reply_moved r w
  | crash fenceToken => exact advance_cases (.same rfl) fun w _ _ => .same rfl
  | commit fenceToken now => exact advance_cases (.same rfl) fun w hw hlive => commit_moved h hw hlive now

/-- what has become of a row -/
theorem Moved.exists_row (hm : Moved s s') (hrow : row ∈ s.db.steps) : ∃ row' ∈ s'.db.steps, RowMove row row' := by
  obtain ⟨moved, new, hsteps, hmoves, -⟩ := hm
  obtain ⟨row', hrow', hmove⟩ := Results.exists_of_forall₂' hmoves hrow
  exact ⟨row', by rw [hsteps]; exact List.mem_append_left _ hrow', hmove⟩

theorem Moved.source {row' : NormalizationStep} (hm : Moved s s') (hrow : row' ∈ s'.db.steps) :
    (∃ row ∈ s.db.steps, RowMove row row') ∨ row'.status = .reserved := by
  obtain ⟨moved, new, hsteps, hmoves, hnew⟩ := hm
  rw [hsteps] at hrow
  rcases List.mem_append.1 hrow with hrow | hrow
  · exact Or.inl (Results.exists_of_forall₂ hmoves hrow)
  · exact Or.inr (hnew row' hrow)

theorem reached_append (maxAttempts : Int) (es : List Event) (e : Event) :
    reached maxAttempts (es ++ [e]) = step maxAttempts (reached maxAttempts es) e := by
  rw [reached, Runs.run_append]
  rfl

/-- **MAP steps follow their lifecycle**: in every run, an event moves the status of a step along one edge at most, never
changes a step in a terminal status, and begins steps as reserved; and the columns of a step agree with its status. -/
theorem steps_follow_lifecycle (maxAttempts : Int) (es : List Event) (e : Event) :
    ((reached maxAttempts es).db.steps.map NormalizationStep.stepId).Nodup ∧
      (∀ row ∈ (reached maxAttempts es).db.steps, ∃ row' ∈ (reached maxAttempts (es ++ [e])).db.steps,
        row'.stepId = row.stepId ∧ (row'.status = row.status ∨ LegalMove row.status row'.status) ∧
        (row.status.terminal = true → row' = row)) ∧
      (∀ row' ∈ (reached maxAttempts (es ++ [e])).db.steps,
        (∃ row ∈ (reached maxAttempts es).db.steps, row.stepId = row'.stepId) ∨ row'.status = .reserved) ∧
      ∀ row ∈ (reached maxAttempts es).db.steps,
        (row.status = .reserved ∨ row.status = .policyBlocked → row.llmCallCount = 0) ∧
        (row.repairAttempted = true → row.llmCallCount = 2) ∧
        (row.status = .completed → row.responseSha256.isSome ∧ row.promptStorageKey.isSome ∧
          row.factBundleStorageKey.isSome ∧ row.responseStorageKey.isSome) := by
  have h := run_inv maxAttempts es
  have hmoved := step_moved h e
  rw [reached_append]
  refine ⟨h.ids, fun row hrow => ?_, fun row' hrow' => ?_, fun row hrow => ?_⟩
  · obtain ⟨row', hrow', hm⟩ := hmoved.exists_row hrow
    exact ⟨row', hrow', hm.stepId, hm.status, hm.of_terminal⟩
  · rcases hmoved.source hrow' with ⟨row, hrow, hm⟩ | hreserved
    · exact Or.inl ⟨row, hrow, hm.stepId.symm⟩
    · exact Or.inr hreserved
  · have hshape := (h.rows row hrow).shape
    exact ⟨hshape.uncalled, hshape.repaired, hshape.completed⟩

/-! ## Who calls -/

/-- a step that a worker has in work after an event, it had in work before, or found reserved -/
def CurrentFrom (s s' : State) : Prop :=
  ∀ w' ∈ s'.workers, ∀ id, w'.current = some id →
    (∃ w ∈ s.workers, w.fenceToken = w'.fenceToken ∧ w.current = some id) ∨
      ∃ row ∈ s'.db.steps, row.stepId = id ∧ row.status = .reserved

/-- a call is made by a worker that has its step in work -/
def CallsFrom (s s' : State) : Prop :=
  ∃ made, s'.calls = s.calls ++ made ∧
    ∀ call ∈ made, ∃ w ∈ s.workers, w.fenceToken = call.fenceToken ∧ w.hasRecorded call.stepId = true

/-- what an event of a worker does besides its rows -/
structure Acts (s s' : State) : Prop where
  current : CurrentFrom s s'
  calls : CallsFrom s s'

theorem CurrentFrom.refl (s : State) : CurrentFrom s s := fun w hw _ hid => Or.inl ⟨w, hw, rfl, hid⟩

theorem CallsFrom.same (hcalls : s'.calls = s.calls) : CallsFrom s s' :=
  ⟨[], by rw [hcalls, List.append_nil], fun _ h => absurd h List.not_mem_nil⟩

/-- the worker of an event has its old step in work, or none -/
theorem Acts.put (s₁ : State) (w' : MapWorker) (hw : w ∈ s.workers) (hfence : w'.fenceToken = w.fenceToken)
    (hworkers : s₁.workers = s.workers) (hcalls : s₁.calls = s.calls)
    (hcurrent : ∀ id, w'.current = some id → w.current = some id ∨
      ∃ row ∈ s₁.db.steps, row.stepId = id ∧ row.status = .reserved) : Acts s (s₁.put w') := by
  refine ⟨fun x hx id hid => ?_, .same hcalls⟩
  rcases (mem_put (hworkers ▸ hw) hfence).1 hx with rfl | ⟨hx, -⟩
  · rcases hcurrent id hid with hid | hrow
    · exact Or.inl ⟨w, hw, hfence.symm, hid⟩
    · exact Or.inr hrow
  · exact Or.inl ⟨x, hworkers ▸ hx, rfl, hid⟩

theorem Acts.refl (s : State) : Acts s s := ⟨.refl s, .same rfl⟩

theorem current_finish (w : MapWorker) (result : MapStepResult) : (w.finish result).current = none :=
  (idle_of_nextPhase (w := w.finish result) rfl).1

theorem Acts.finish (s₁ : State) (hw : w ∈ s.workers) (hworkers : s₁.workers = s.workers) (hcalls : s₁.calls = s.calls)
    (result : MapStepResult) : Acts s (s₁.put (w.finish result)) := by
  refine Acts.put _ _ hw rfl hworkers hcalls fun id hid => ?_
  rw [current_finish] at hid
  cases hid

theorem Acts.stop (s₁ : State) (hw : w ∈ s.workers) (hworkers : s₁.workers = s.workers) (hcalls : s₁.calls = s.calls) :
    Acts s (s₁.put w.stop) := Acts.put _ _ hw rfl hworkers hcalls fun _ hid => Or.inl hid

/-- a transaction after which the worker has its old step in work, or none -/
theorem Acts.transact {α : Type} (s₁ : State) (hw : w ∈ s.workers) (hworkers : s₁.workers = s.workers)
    (hcalls : s₁.calls = s.calls) (x : Session MapDb MapError α) {next : α → MapWorker}
    (hnext : ∀ a db', Returns x s₁.db a db' → Acts s ({ s₁ with db := db' }.put (next a))) :
    Acts s (s₁.transact w x next) := by
  unfold State.transact
  split
  · rename_i a db' heq
    exact hnext a db' heq
  · exact Acts.stop _ hw hworkers hcalls

theorem reserve_acts (h : Inv M s) (hw : w ∈ s.workers) (now : Instant) : Acts s (s.reserve now w) := by
  unfold State.reserve
  split
  · rename_i artifact rest hphase htodo
    refine Acts.transact { s with drawn := s.drawn + 1 } hw rfl rfl _ fun outcome db' hr => ?_
    have hreserved : outcome.reconciliationRequired = false →
        ∃ row ∈ db'.steps, row.stepId = outcome.stepId ∧ row.status = .reserved := by
      intro hno
      obtain ⟨-, hres⟩ := reserve_returns h.queue hr
      cases hres with
      | new => exact ⟨_, List.mem_append_right _ (List.mem_singleton_self _), rfl, rfl⟩
      | again row hrow _ hstatus => exact ⟨row, hrow, rfl, hstatus⟩
      | replayed => cases hno
    unfold MapWorker.afterReservation
    split_ifs with hreplay
    · exact Acts.stop _ hw rfl rfl
    · split
      · exact Acts.finish { s with db := db', drawn := s.drawn + 1 } hw rfl rfl _
      · refine Acts.put _ _ hw rfl rfl rfl fun id hid => Or.inr ?_
        rw [← Option.some.inj hid]
        exact hreserved (by simpa using hreplay)
  · exact .refl s

theorem record_acts (hw : w ∈ s.workers) (now : Instant) : Acts s (s.record now w) := by
  unfold State.record
  split
  · rename_i stepId current artifact rest hnext htodo
    split
    · exact Acts.finish _ hw rfl rfl _
    · refine Acts.transact s hw rfl rfl _ fun u db' _ => Acts.put _ _ hw rfl rfl rfl fun id hid => Or.inl ?_
      rw [← Option.some.inj hid]
      unfold MapWorker.nextCall at hnext
      unfold MapWorker.current
      split at hnext
      · rename_i id' hphase
        rw [hphase, (Prod.mk.inj (Option.some.inj hnext)).1]
      · rename_i id' hphase
        rw [hphase, (Prod.mk.inj (Option.some.inj hnext)).1]
      · cases hnext
  · exact .refl s

theorem call_acts (hw : w ∈ s.workers) : Acts s (s.call w) := by
  unfold State.call
  split
  · rename_i stepId attempt artifact rest hphase htodo
    have hcurrent : CurrentFrom s (s.put { w with phase := .calling stepId attempt }) := by
      refine (Acts.put s { w with phase := .calling stepId attempt } hw rfl rfl rfl fun id hid => Or.inl ?_).current
      rw [← hid, MapWorker.current, hphase]
      rfl
    refine ⟨hcurrent, _, rfl, fun call hcall => ?_⟩
    · rw [List.mem_singleton.1 hcall]
      exact ⟨w, hw, rfl, (hasRecorded_of_phase hphase).trans (decide_eq_true rfl)⟩
  · exact .refl s

theorem reply_acts (hw : w ∈ s.workers) (r : Reply) : Acts s (s.reply r w) := by
  unfold State.reply
  split
  · rename_i stepId attempt hphase
    cases r with
    | accepted responseSha256 => exact Acts.finish _ hw rfl rfl _
    | rejected e =>
      rw [MapWorker.reply]
      split_ifs
      · refine Acts.put _ _ hw rfl rfl rfl fun id hid => Or.inl ?_
        rw [← hid, MapWorker.current, hphase]
        rfl
      · exact Acts.finish _ hw rfl rfl _
    | failed e => exact Acts.finish _ hw rfl rfl _
  · exact .refl s

theorem check_acts (hw : w ∈ s.workers) (now : Instant) : Acts s (s.check now w) := by
  unfold State.check
  split_ifs
  · refine Acts.transact s hw rfl rfl _ fun u db' _ => Acts.put _ _ hw rfl rfl rfl fun id hid => ?_
    cases hid
  · exact .refl s

theorem commit_acts (hw : w ∈ s.workers) (now : Instant) : Acts s (s.commit now w) := by
  unfold State.commit
  split_ifs
  · exact Acts.transact s hw rfl rfl _ fun u db' _ => Acts.stop _ hw rfl rfl
  · exact .refl s

theorem claim_acts (maxAttempts : Int) (r : ClaimRequest) (snapshot : MapSnapshot) :
    Acts s (s.claim maxAttempts r snapshot) := by
  unfold State.claim
  split
  · split_ifs
    · refine ⟨fun x hx id hid => ?_, .same rfl⟩
      rcases List.mem_append.1 hx with hx | hx
      · exact Or.inl ⟨x, hx, rfl, hid⟩
      · rw [List.mem_singleton.1 hx, (idle_of_nextPhase (w := MapWorker.start _ _ _ snapshot) rfl).1] at hid
        cases hid
    · exact ⟨fun x hx id hid => Or.inl ⟨x, hx, rfl, hid⟩, .same rfl⟩
  · exact ⟨fun x hx id hid => Or.inl ⟨x, hx, rfl, hid⟩, .same rfl⟩

theorem step_acts {maxAttempts : Int} (h : Inv maxAttempts.toNat s) (e : Event) : Acts s (step maxAttempts s e) := by
  cases e with
  | operate a => exact ⟨fun x hx id hid => Or.inl ⟨x, hx, rfl, hid⟩, .same rfl⟩
  | claim r snapshot => exact claim_acts maxAttempts r snapshot
  | check fenceToken now => exact advance_cases (.refl s) fun w hw _ => check_acts hw now
  | reserve fenceToken now => exact advance_cases (.refl s) fun w hw _ => reserve_acts h hw now
  | record fenceToken now => exact advance_cases (.refl s) fun w hw _ => record_acts hw now
  | call fenceToken => exact advance_cases (.refl s) fun w hw _ => call_acts hw
  | reply fenceToken r => exact advance_cases (.refl s) fun w hw _ => reply_acts hw r
  | crash fenceToken => exact advance_cases (.refl s) fun w hw _ => Acts.stop _ hw rfl rfl
  | commit fenceToken now => exact advance_cases (.refl s) fun w hw _ => commit_acts hw now

/-! ## The calls of a step -/

theorem RowOk.callsOf_le (h : RowOk s row) : s.callsOf row.stepId ≤ 2 := by
  have hbound := h.shape.bounded
  rcases h.counted with heq | ⟨-, hone⟩
  · omega
  · omega

/-- **At most two calls** are made for an artifact of a revision. -/
theorem Inv.callsFor_le (h : Inv M s) (packageRevisionId : Uuid) (stepKey : String) :
    s.callsFor packageRevisionId stepKey ≤ 2 := by
  by_cases hany : ∃ row ∈ s.db.steps, stepName row = (packageRevisionId, stepKey)
  · obtain ⟨row, hrow, hname⟩ := hany
    refine le_trans (List.countP_mono_left fun call hcall hmatch => ?_) (h.rows row hrow).callsOf_le
    -- the calls of an artifact are those of its row
    obtain ⟨row', hrow', hid, hname'⟩ := (h.calls call hcall).row
    rw [of_decide_eq_true hmatch, ← hname] at hname'
    obtain rfl := Rows.eq_of_mem h.names hrow' hrow hname'
    exact decide_eq_true hid.symm
  · have hnone : s.callsFor packageRevisionId stepKey = 0 := by
      refine List.countP_eq_zero.2 fun call hcall hmatch => hany ?_
      obtain ⟨row, hrow, -, hname⟩ := (h.calls call hcall).row
      exact ⟨row, hrow, hname.trans (of_decide_eq_true hmatch)⟩
    omega

/-- a completed step, and the calls made for it -/
structure Done (row : NormalizationStep) (n : Nat) (s : State) : Prop where
  inv : Inv M s
  mem : row ∈ s.db.steps
  calls : s.callsOf row.stepId = n

theorem CallsFrom.callsOf_eq (hc : CallsFrom s s') {stepId : Uuid}
    (hnone : s.recordedCalls stepId = 0) : s'.callsOf stepId = s.callsOf stepId := by
  obtain ⟨made, hcalls, hmade⟩ := hc
  rw [State.callsOf, hcalls, List.countP_append, State.callsOf, Nat.add_eq_left, List.countP_eq_zero]
  intro call hcall hid
  obtain ⟨w, hw, -, hrec⟩ := hmade call hcall
  rw [of_decide_eq_true hid, recordedCalls_eq_zero.1 hnone w hw] at hrec
  cases hrec

theorem step_done {maxAttempts : Int} (hrow : row.status = .completed) {n : Nat}
    (h : Done (M := maxAttempts.toNat) row n s) (e : Event) :
    Done (M := maxAttempts.toNat) row n (step maxAttempts s e) where
  inv := step_inv h.inv e
  mem := by
    obtain ⟨row', hrow', hm⟩ := (step_moved h.inv e).exists_row h.mem
    rw [hm.of_terminal (by rw [hrow]; rfl)] at hrow'
    exact hrow'
  calls := by
    have hsettled := (h.inv.rows row h.mem).settled (by rw [hrow]; rfl) (by rw [hrow]; decide)
    rw [(step_acts h.inv e).calls.callsOf_eq hsettled, h.calls]

/-- a step past its reservation, which only the workers `fences` have called or can call for -/
structure Reached (fences : List Uuid) (stepId : Uuid) (s : State) : Prop where
  inv : Inv M s
  row : ∃ row ∈ s.db.steps, row.stepId = stepId ∧ row.status ≠ .reserved
  workers : ∀ w ∈ s.workers, w.current = some stepId → w.fenceToken ∈ fences
  calls : ∀ call ∈ s.calls, call.stepId = stepId → call.fenceToken ∈ fences

/-- a row that is past its reservation is never reserved again -/
theorem RowMove.not_reserved {row' : NormalizationStep} (hm : RowMove row row') (h : row.status ≠ .reserved) :
    row'.status ≠ .reserved := by
  intro hr
  rcases hm.status with heq | hlegal
  · exact h (heq.symm.trans hr)
  · generalize row.status = status at hlegal
    rw [hr] at hlegal
    cases hlegal

theorem step_reached {maxAttempts : Int} {fences : List Uuid} {stepId : Uuid}
    (h : Reached (M := maxAttempts.toNat) fences stepId s) (e : Event) :
    Reached (M := maxAttempts.toNat) fences stepId (step maxAttempts s e) := by
  have hinv := step_inv h.inv e
  obtain ⟨row, hrow, hid, hstatus⟩ := h.row
  obtain ⟨row', hrow', hm⟩ := (step_moved h.inv e).exists_row hrow
  obtain ⟨hcurrent, made, hcalls, hmade⟩ := step_acts h.inv e
  refine ⟨hinv, ⟨row', hrow', hm.stepId.trans hid, hm.not_reserved hstatus⟩, fun w hw hcur => ?_, fun call hcall hcid => ?_⟩
  · rcases hcurrent w hw stepId hcur with ⟨w', hw', hfence, hcur'⟩ | ⟨x, hx, hxid, hreserved⟩
    · exact hfence ▸ h.workers w' hw' hcur'
    · -- the row of the step is not a reserved one
      obtain rfl := Rows.eq_of_mem hinv.ids hx hrow' (hxid.trans (hm.stepId.trans hid).symm)
      exact absurd hreserved (hm.not_reserved hstatus)
  · rw [hcalls] at hcall
    rcases List.mem_append.1 hcall with hcall | hcall
    · exact h.calls call hcall hcid
    · obtain ⟨w, hw, hfence, hrec⟩ := hmade call hcall
      exact hfence ▸ h.workers w hw (hcid ▸ current_of_hasRecorded hrec)

/-- **MAP calls are reserved**: in every run, at most two calls are made for an artifact of a revision; a step counts the
calls made for it and the calls that a worker has yet to make, except that it counts none of its one call when that raised,
and a step that has ended with its work has no call outstanding; a completed step stays as it is, with its calls; and a step past its reservation is called
only by workers that had claimed the work by then. -/
theorem calls_counted (maxAttempts : Int) (es fs : List Event) :
    (∀ packageRevisionId stepKey, (reached maxAttempts es).callsFor packageRevisionId stepKey ≤ 2) ∧
      (∀ row ∈ (reached maxAttempts es).db.steps,
        (row.llmCallCount =
            (reached maxAttempts es).callsOf row.stepId + (reached maxAttempts es).recordedCalls row.stepId ∨
          Unrecorded row ∧
            (reached maxAttempts es).callsOf row.stepId + (reached maxAttempts es).recordedCalls row.stepId = 1) ∧
        (row.status.terminal = true → row.status ≠ .reconciliationRequired →
          (reached maxAttempts es).recordedCalls row.stepId = 0)) ∧
      (∀ row ∈ (reached maxAttempts es).db.steps, row.status = .completed →
        row ∈ (reached maxAttempts (es ++ fs)).db.steps ∧
          (reached maxAttempts (es ++ fs)).callsOf row.stepId = (reached maxAttempts es).callsOf row.stepId) ∧
      ∀ row ∈ (reached maxAttempts es).db.steps, row.status ≠ .reserved →
        ∀ call ∈ (reached maxAttempts (es ++ fs)).calls, call.stepId = row.stepId →
          call.fenceToken ∈ (reached maxAttempts es).workers.map MapWorker.fenceToken := by
  have h := run_inv maxAttempts es
  have happend : reached maxAttempts (es ++ fs) = Runs.run (step maxAttempts) (reached maxAttempts es) fs := Runs.run_append _ _ _
  refine ⟨h.callsFor_le, fun row hrow => ⟨(h.rows row hrow).counted, (h.rows row hrow).settled⟩,
    fun row hrow hstatus => ?_, fun row hrow hstatus => ?_⟩
  · rw [happend]
    have hdone := Runs.run_inv (P := Done (M := maxAttempts.toNat) row ((reached maxAttempts es).callsOf row.stepId))
      (fun _ e hd => step_done hstatus hd e) ⟨h, hrow, rfl⟩ fs
    exact ⟨hdone.mem, hdone.calls⟩
  · rw [happend]
    have hreached := Runs.run_inv
      (P := Reached (M := maxAttempts.toNat) ((reached maxAttempts es).workers.map MapWorker.fenceToken) row.stepId)
      (fun _ e hr => step_reached hr e)
      ⟨h, ⟨row, hrow, rfl, hstatus⟩, fun w hw _ => List.mem_map_of_mem hw, fun call hcall _ => (h.calls call hcall).fence⟩ fs
    exact hreached.calls

section Reclaimed

/-- the revision whose one step the runs below process -/
private def revision : PackageRevision where
  packageRevisionId := 0
  dataOrigin := some "synthetic"
  contentManifestSha256 := some "manifest"
  revisionVersion := 1
  status := .extracting

private def snapshot : MapSnapshot where
  revisionVersion := 1
  artifacts := [⟨"a", "digest", true⟩]
  distinct := by decide
  modelRequest := some ⟨none⟩
  textClient := true

private def claimAt (now : Instant) : Event :=
  .claim { workPhase := "deterministic_extract", leaseOwner := "worker", now := ⟨now, true⟩, leaseSeconds := 1,
           allowedDataOrigins := none, seen := [revision], locked := [], fenceToken := 0, attemptId := 0 } snapshot

/-- a worker claims the work, reserves the step and commits the count of its first call -/
private def recorded : List Event :=
  [.operate (.writePackageRevision revision), .operate (.bootstrapDeterministicExtract ⟨0, 1, ⟨0, true⟩⟩), claimAt 0,
    .check 2 1, .reserve 2 1, .record 2 2]

/-- the lease runs out and a second worker claims the work, finds the step running and leaves it for an operator -/
private def reclaimed : List Event :=
  [.operate (.recover ⟨⟨2000000, true⟩, 10, []⟩), claimAt 2000000, .check 5 2000001, .reserve 5 2000001]

/-- A crash between the count and the call leaves one call counted that was never made; and a worker that only stalls there
makes it after the step was re-claimed. -/
theorem reclaimed_step_uncounted :
    (∃ row ∈ (reached 3 (recorded ++ .crash 2 :: reclaimed)).db.steps, row.status = .reconciliationRequired ∧
      row.llmCallCount = 1 ∧ (reached 3 (recorded ++ .crash 2 :: reclaimed)).callsOf row.stepId = 0) ∧
    (∃ row ∈ (reached 3 (recorded ++ reclaimed)).db.steps, row.status = .reconciliationRequired ∧
      (reached 3 (recorded ++ reclaimed)).callsOf row.stepId = 0 ∧
      (reached 3 (recorded ++ reclaimed ++ [.call 2])).callsOf row.stepId = 1) := by
  decide

end Reclaimed

end AtoService.IntakeMap
