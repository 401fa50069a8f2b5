/-
The invariant of MAP steps, in every run of workers, crashes, lost leases and new claims.

`Inv` relates the rows of the steps, the workers and the calls. Its heart is `Owner`: the worker that holds the work finds
each row it has touched as it left it, since rows are written under the lease only, and a fence token that was lost never
comes back. Of the other workers it needs only that the row of the step in work exists (`WorkerOk`).

- `Inv.quiet`: an event that writes no row; `Inv.write`: a transaction that closes the work; `inv_newStep`, `inv_record`,
  `inv_start`: the others.
- `step_inv`, `run_inv`: the invariant along runs.
-/
import AtoService.Intake.MapRuns
import AtoService.Intake.MapRows

namespace AtoService.IntakeMap

open Session Checks Intake

/-! ## The invariant -/

/-- the only call of the step that is counted and not made is the worker's own, if any -/
def Alone (s : State) (w : MapWorker) (stepId : Uuid) : Prop :=
  ∀ w' ∈ s.workers, w'.hasRecorded stepId = true → w'.fenceToken = w.fenceToken

/-- a row of the worker's revision, which no other worker is about to call for -/
def Has (s : State) (w : MapWorker) (stepId : Uuid) (P : NormalizationStep → Prop) : Prop :=
  ∃ row ∈ s.db.steps, row.stepId = stepId ∧ row.packageRevisionId = w.claim.packageRevisionId ∧ Alone s w stepId ∧ P row

def PhaseOk (s : State) (w : MapWorker) : Prop :=
  match w.phase with
  | .reserved id => Has s w id fun row => row.status = .reserved
  | .recorded id attempt => Has s w id fun row => row.status = .running ∧ row.llmCallCount = attempt
  | .calling id attempt => Has s w id fun row => row.status = .running ∧ row.llmCallCount = attempt
  | .repairing id => Has s w id fun row => row.status = .running ∧ row.llmCallCount = 1
  | _ => True

/-- what the worker that holds the work finds -/
structure Owner (s : State) (w : MapWorker) : Prop where
  phase : PhaseOk s w
  results : ∀ result ∈ w.results, Has s w result.stepId fun row =>
    Matches row result ∧ ∀ artifact ∈ w.todo, row.stepKey ≠ intakeMapStepKey artifact.artifactId
  distinct : (w.results.map MapStepResult.stepId).Nodup

/-- the step in work -/
def MapWorker.current (w : MapWorker) : Option Uuid :=
  match w.phase with
  | .reserved id | .recorded id _ | .calling id _ | .repairing id => some id
  | _ => none

/-- a first call has been admitted -/
def MapWorker.admitted (w : MapWorker) : Bool :=
  match w.phase with
  | .recorded _ _ | .calling _ _ | .repairing _ => true
  | _ => false

structure WorkerOk (s : State) (w : MapWorker) : Prop where
  fence : w.fenceToken < s.drawn
  distinct : (w.todo.map MapArtifact.artifactId).Nodup
  current : ∀ id, w.current = some id → ∃ row ∈ s.db.steps, row.stepId = id ∧ ∃ artifact rest,
    w.todo = artifact :: rest ∧ stepName row = (w.claim.packageRevisionId, intakeMapStepKey artifact.artifactId)
  routed : w.admitted = true → w.modelRequest.bind ModelCallRequest.routing = none

/-- the row of a step whose call raised, or that had no client to call: it counts no call -/
def Unrecorded (row : NormalizationStep) : Prop :=
  row.status = .failed ∧ row.llmCallCount = 0 ∧
    (row.validationOutcome = some MapValidationOutcome.skippedModelNotConfigured.text ∨
      row.validationOutcome = some MapValidationOutcome.modelCallFailed.text)

structure RowOk (s : State) (row : NormalizationStep) : Prop where
  drawn : row.stepId < s.drawn
  shape : Shape row
  counted : row.llmCallCount = s.callsOf row.stepId + s.recordedCalls row.stepId ∨
    Unrecorded row ∧ s.callsOf row.stepId + s.recordedCalls row.stepId = 1
  closed : row.status.terminal = true → Closed s.db.queue (row.packageRevisionId, .deterministicExtract)
  settled : row.status.terminal = true → row.status ≠ .reconciliationRequired → s.recordedCalls row.stepId = 0

structure CallOk (s : State) (call : MapCall) : Prop where
  fence : call.fenceToken ∈ s.workers.map MapWorker.fenceToken
  row : ∃ row ∈ s.db.steps, row.stepId = call.stepId ∧ stepName row = (call.packageRevisionId, call.stepKey)

structure Inv (M : Nat) (s : State) : Prop where
  queue : DbOk M s.db.queue
  fences : ∀ key fence, Holds s.db.queue key fence → fence < s.drawn
  workers : (s.workers.map MapWorker.fenceToken).Nodup
  ids : (s.db.steps.map NormalizationStep.stepId).Nodup
  names : (s.db.steps.map stepName).Nodup
  rows : ∀ row ∈ s.db.steps, RowOk s row
  calls : ∀ call ∈ s.calls, CallOk s call
  ok : ∀ w ∈ s.workers, WorkerOk s w
  owner : ∀ w ∈ s.workers, w.live = true → Holds s.db.queue w.claim.key w.fenceToken → Owner s w

variable {M : Nat} {s s' : State} {w w' : MapWorker} {row : NormalizationStep}

/-! ## Lemmas on the parts -/

theorem current_of_hasRecorded {stepId : Uuid} (h : w.hasRecorded stepId = true) : w.current = some stepId := by
  unfold MapWorker.hasRecorded at h
  unfold MapWorker.current
  split at h
  · rename_i id attempt hphase
    rw [hphase, ← of_decide_eq_true h]
  · cases h

theorem hasRecorded_of_phase {stepId id : Uuid} {attempt : Nat} (h : w.phase = .recorded id attempt) :
    w.hasRecorded stepId = decide (id = stepId) := by
  unfold MapWorker.hasRecorded
  rw [h]

theorem hasRecorded_eq_false (h : ∀ id attempt, w.phase ≠ .recorded id attempt) (stepId : Uuid) :
    w.hasRecorded stepId = false := by
  unfold MapWorker.hasRecorded
  split
  · rename_i id attempt hphase
    exact absurd hphase (h id attempt)
  · rfl

/-- a step that nobody is about to call for -/
theorem recordedCalls_eq_zero {stepId : Uuid} :
    s.recordedCalls stepId = 0 ↔ ∀ w ∈ s.workers, w.hasRecorded stepId = false := by
  simp [State.recordedCalls, List.countP_eq_zero]

theorem recordedCalls_put (h : Inv M s) (hw : w ∈ s.workers) (hfence : w'.fenceToken = w.fenceToken) (stepId : Uuid) :
    (s.put w').recordedCalls stepId + (w.hasRecorded stepId).toNat =
      s.recordedCalls stepId + (w'.hasRecorded stepId).toNat :=
  Rows.countP_put h.workers hw hfence fun x => x.hasRecorded stepId

theorem mem_put (hw : w ∈ s.workers) (hfence : w'.fenceToken = w.fenceToken) {x : MapWorker} :
    x ∈ (s.put w').workers ↔ x = w' ∨ x ∈ s.workers ∧ x.fenceToken ≠ w'.fenceToken :=
  Rows.mem_put (hfence ▸ List.mem_map_of_mem hw)

/-- a row that no call is counted for -/
theorem RowOk.uncalled (h : RowOk s row) (hstatus : row.status = .reserved) :
    s.callsOf row.stepId = 0 ∧ s.recordedCalls row.stepId = 0 := by
  have hcount := h.shape.uncalled (Or.inl hstatus)
  rcases h.counted with heq | ⟨⟨hfailed, -⟩, -⟩
  · omega
  · rw [hstatus] at hfailed
    cases hfailed

theorem alone_of_reserved (h : RowOk s row) (hstatus : row.status = .reserved) (w : MapWorker) : Alone s w row.stepId := by
  intro w' hw' hrec
  rw [recordedCalls_eq_zero.1 (h.uncalled hstatus).2 w' hw'] at hrec
  cases hrec

/-- the workers on one revision that hold its work are one -/
theorem claim_ne_of_holds (h : Inv M s) (hholds : Holds s.db.queue w.claim.key w.fenceToken)
    (hholds' : Holds s.db.queue w'.claim.key w'.fenceToken) (hne : w'.fenceToken ≠ w.fenceToken) :
    w'.claim.packageRevisionId ≠ w.claim.packageRevisionId := by
  intro heq
  have hkey : w'.claim.key = w.claim.key := by rw [MapClaim.key, MapClaim.key, heq]
  exact hne (Holds.unique h.queue (hkey ▸ hholds') hholds)

theorem Has.imp {stepId : Uuid} {P Q : NormalizationStep → Prop} (h : Has s w stepId P) (hPQ : ∀ row, P row → Q row) :
    Has s w stepId Q := by
  obtain ⟨row, hrow, hid, hrevision, halone, hP⟩ := h
  exact ⟨row, hrow, hid, hrevision, halone, hPQ row hP⟩

/-- the rows and the other workers' calls are as they were -/
theorem Has.transport {stepId : Uuid} {P : NormalizationStep → Prop} (h : Has s w stepId P) (hclaim : w'.claim = w.claim)
    (hrows : ∀ row ∈ s.db.steps, row.packageRevisionId = w.claim.packageRevisionId → row.stepId = stepId →
      row ∈ s'.db.steps)
    (hworkers : ∀ x ∈ s'.workers, x.hasRecorded stepId = true → x.fenceToken ≠ w.fenceToken →
      ∃ y ∈ s.workers, y.hasRecorded stepId = true ∧ y.fenceToken = x.fenceToken) : Has s' w' stepId P := by
  obtain ⟨row, hrow, hid, hrevision, halone, hP⟩ := h
  refine ⟨row, hrows row hrow hrevision hid, hid, hclaim ▸ hrevision, fun x hx hrec => ?_, hP⟩
  have hfence : w'.fenceToken = w.fenceToken := congrArg MapClaim.fenceToken hclaim
  by_contra hne
  rw [hfence] at hne
  obtain ⟨y, hy, hyrec, hyfence⟩ := hworkers x hx hrec hne
  exact hne (hyfence ▸ halone y hy hyrec)

theorem Owner.transport (h : Owner s w) (hphase : w'.phase = w.phase) (htodo : w'.todo = w.todo)
    (hresults : w'.results = w.results)
    (hhas : ∀ stepId P, Has s w stepId P → Has s' w' stepId P) : Owner s' w' where
  phase := by
    have hp := h.phase
    unfold PhaseOk at hp ⊢
    rw [hphase]
    cases hw : w.phase with
    | reserved id => rw [hw] at hp; exact hhas _ _ hp
    | recorded id attempt => rw [hw] at hp; exact hhas _ _ hp
    | calling id attempt => rw [hw] at hp; exact hhas _ _ hp
    | repairing id => rw [hw] at hp; exact hhas _ _ hp
    | checking => trivial
    | ready => trivial
    | finished => trivial
  results result hresult := by
    rw [hresults] at hresult
    rw [htodo]
    exact hhas _ _ (h.results result hresult)
  distinct := hresults ▸ h.distinct

theorem WorkerOk.transport (h : WorkerOk s w) (hdrawn : s.drawn ≤ s'.drawn)
    (hrows : ∀ row ∈ s.db.steps, ∃ row' ∈ s'.db.steps, row'.stepId = row.stepId ∧ stepName row' = stepName row) :
    WorkerOk s' w where
  fence := lt_of_lt_of_le h.fence hdrawn
  distinct := h.distinct
  current id hid := by
    obtain ⟨row, hrow, hrid, artifact, rest, htodo, hname⟩ := h.current id hid
    obtain ⟨row', hrow', hid', hname'⟩ := hrows row hrow
    exact ⟨row', hrow', hid'.trans hrid, artifact, rest, htodo, hname'.trans hname⟩
  routed := h.routed

/-! ## Events that write no row -/

/-- **An event that writes no row** and makes no call, of a worker that keeps its claim and its count of calls. -/
theorem Inv.quiet (h : Inv M s) (hw : w ∈ s.workers) (hlive : w.live = true) (hclaim : w'.claim = w.claim)
    (hrec : ∀ id, w'.hasRecorded id = w.hasRecorded id) (hok : WorkerOk s w')
    (howner : w'.live = true → Owner s w → Owner s w') : Inv M (s.put w') := by
  have hfence : w'.fenceToken = w.fenceToken := congrArg MapClaim.fenceToken hclaim
  -- who is about to call for a step
  have hwho : ∀ id, ∀ x ∈ (s.put w').workers, x.hasRecorded id = true →
      ∃ y ∈ s.workers, y.hasRecorded id = true ∧ y.fenceToken = x.fenceToken := by
    intro id x hx hxrec
    rcases (mem_put hw hfence).1 hx with rfl | ⟨hx, -⟩
    · exact ⟨w, hw, hrec id ▸ hxrec, hfence.symm⟩
    · exact ⟨x, hx, hxrec, rfl⟩
  have hhas (x : MapWorker) (stepId : Uuid) (P : NormalizationStep → Prop) (hx : Has s x stepId P) :
      Has (s.put w') x stepId P := hx.transport rfl (fun row hrow _ _ => hrow) fun y hy hyrec _ => hwho stepId y hy hyrec
  have hcount (id : Uuid) : (s.put w').recordedCalls id = s.recordedCalls id := by
    have := recordedCalls_put h hw hfence id
    rw [hrec id] at this
    omega
  refine ⟨h.queue, h.fences, ?_, h.ids, h.names, fun row hrow => ?_, fun call hcall => ?_, fun x hx => ?_,
    fun x hx hxlive hxholds => ?_⟩
  · show (Rows.put MapWorker.fenceToken w' s.workers |>.map MapWorker.fenceToken).Nodup
    rw [Rows.keys_put]
    exact h.workers
  · have hr := h.rows row hrow
    exact ⟨hr.drawn, hr.shape, (hcount row.stepId).symm ▸ hr.counted, hr.closed, fun ht hne => (hcount _).trans (hr.settled ht hne)⟩
  · refine ⟨?_, (h.calls call hcall).row⟩
    show call.fenceToken ∈ (Rows.put MapWorker.fenceToken w' s.workers).map MapWorker.fenceToken
    rw [Rows.keys_put]
    exact (h.calls call hcall).fence
  · rcases (mem_put hw hfence).1 hx with rfl | ⟨hx, -⟩
    · exact hok.transport (le_refl _) fun row hrow => ⟨row, hrow, rfl, rfl⟩
    · exact (h.ok x hx).transport (le_refl _) fun row hrow => ⟨row, hrow, rfl, rfl⟩
  · rcases (mem_put hw hfence).1 hx with rfl | ⟨hx, -⟩
    · have hholds : Holds s.db.queue w.claim.key w.fenceToken := hfence ▸ hclaim ▸ hxholds
      exact (howner hxlive (h.owner w hw hlive hholds)).transport rfl rfl rfl (hhas x)
    · exact (h.owner x hx hxlive hxholds).transport rfl rfl rfl (hhas x)

theorem Inv.stop (h : Inv M s) (hw : w ∈ s.workers) (hlive : w.live = true) : Inv M (s.put w.stop) := by
  have hok := h.ok w hw
  exact h.quiet hw hlive rfl (fun _ => rfl) ⟨hok.fence, hok.distinct, hok.current, hok.routed⟩ fun hl => by cases hl

theorem intakeMapStepKey_injective : Function.Injective intakeMapStepKey := fun _ _ h => (String.append_right_inj _).1 h

theorem nextPhase_cases (todo : List MapArtifact) (index : Nat) :
    MapWorker.nextPhase todo index = .finished ∨ MapWorker.nextPhase todo index = .checking ∨
      MapWorker.nextPhase todo index = .ready := by
  unfold MapWorker.nextPhase
  split_ifs
  · exact Or.inl rfl
  · exact Or.inr (Or.inl rfl)
  · exact Or.inr (Or.inr rfl)

/-- between two artifacts no step is in work -/
theorem idle_of_nextPhase {todo : List MapArtifact} {index : Nat} (hphase : w.phase = MapWorker.nextPhase todo index) :
    w.current = none ∧ w.admitted = false ∧ (∀ id, w.hasRecorded id = false) ∧ ∀ s, PhaseOk s w := by
  unfold MapWorker.current MapWorker.admitted MapWorker.hasRecorded PhaseOk
  rw [hphase]
  rcases nextPhase_cases todo index with h | h | h <;> rw [h] <;> exact ⟨rfl, rfl, fun _ => rfl, fun _ => trivial⟩

theorem WorkerOk.idle (h : WorkerOk s w) (hclaim : w'.claim = w.claim) (hcurrent : w'.current = none)
    (hadmitted : w'.admitted = false) (htodo : w'.todo.Sublist w.todo) : WorkerOk s w' where
  fence := by
    rw [MapWorker.fenceToken, hclaim]
    exact h.fence
  distinct := h.distinct.sublist (htodo.map _)
  current id hid := by
    rw [hcurrent] at hid
    cases hid
  routed hr := by
    rw [hadmitted] at hr
    cases hr

theorem WorkerOk.finish (h : WorkerOk s w) (result : MapStepResult) : WorkerOk s (w.finish result) := by
  obtain ⟨hcurrent, hadmitted, -⟩ := idle_of_nextPhase (w := w.finish result) rfl
  exact h.idle rfl hcurrent hadmitted (List.tail_sublist _)

/-- **A result** for the artifact in work keeps what the worker knows of its rows. -/
theorem Owner.finish (hi : Inv M s) (h : Owner s w) (hok : WorkerOk s w) {artifact : MapArtifact} {rest : List MapArtifact}
    (htodo : w.todo = artifact :: rest) {result : MapStepResult}
    (hhas : Has s w result.stepId fun row =>
      Matches row result ∧ row.stepKey = intakeMapStepKey artifact.artifactId) : Owner s (w.finish result) where
  phase := (idle_of_nextPhase (w := w.finish result) rfl).2.2.2 s
  results r hr := by
    have htail : (w.finish result).todo = rest := by
      show w.todo.tail = rest
      rw [htodo]
      rfl
    rw [htail]
    have hdistinct := hok.distinct
    rw [htodo, List.map_cons, List.nodup_cons] at hdistinct
    rcases List.mem_append.1 hr with hr | hr
    · refine Has.imp (h.results r hr) fun row ⟨hmatches, hkeys⟩ => ⟨hmatches, fun a ha => hkeys a ?_⟩
      rw [htodo]
      exact List.mem_cons_of_mem _ ha
    · obtain rfl := List.mem_singleton.1 hr
      refine Has.imp hhas fun row ⟨hmatches, hkey⟩ => ⟨hmatches, fun a ha heq => ?_⟩
      have hid := intakeMapStepKey_injective (hkey.symm.trans heq)
      exact hdistinct.1 (hid ▸ List.mem_map_of_mem ha)
  distinct := by
    show ((w.results ++ [result]).map MapStepResult.stepId).Nodup
    rw [List.map_append, List.map_singleton, ← List.concat_eq_append, List.nodup_concat]
    refine ⟨fun hmem => ?_, h.distinct⟩
    obtain ⟨r, hr, hid⟩ := List.mem_map.1 hmem
    -- an earlier result is about the row of another artifact
    obtain ⟨row, hrow, hrid, -, -, -, hkeys⟩ := h.results r hr
    obtain ⟨row', hrow', hrid', -, -, -, hkey⟩ := hhas
    obtain rfl := Rows.eq_of_mem hi.ids hrow hrow' (hrid.trans (hid.trans hrid'.symm))
    refine hkeys artifact ?_ hkey
    rw [htodo]
    exact List.mem_cons_self

/-- a worker ends its artifact with a result -/
theorem Inv.finish (h : Inv M s) (hw : w ∈ s.workers) (hlive : w.live = true) (hrec : ∀ id, w.hasRecorded id = false)
    {artifact : MapArtifact} {rest : List MapArtifact} (htodo : w.todo = artifact :: rest) {result : MapStepResult}
    (hhas : Owner s w → Has s w result.stepId fun row =>
      Matches row result ∧ row.stepKey = intakeMapStepKey artifact.artifactId) : Inv M (s.put (w.finish result)) := by
  have hidle := (idle_of_nextPhase (w := w.finish result) rfl).2.2.1
  refine h.quiet hw hlive rfl (fun id => (hidle id).trans (hrec id).symm) ((h.ok w hw).finish result) fun _ ho => ?_
  exact ho.finish h (h.ok w hw) htodo (hhas ho)

/-- the row of the step in work is that of the artifact in work -/
theorem Has.key (h : Inv M s) (hok : WorkerOk s w) {artifact : MapArtifact} {rest : List MapArtifact}
    (htodo : w.todo = artifact :: rest) {id : Uuid} (hcurrent : w.current = some id) {P : NormalizationStep → Prop}
    (hhas : Has s w id P) : Has s w id fun row => P row ∧ row.stepKey = intakeMapStepKey artifact.artifactId := by
  obtain ⟨row, hrow, hid, hrevision, halone, hP⟩ := hhas
  obtain ⟨row', hrow', hid', artifact', rest', htodo', hname⟩ := hok.current id hcurrent
  obtain rfl := Rows.eq_of_mem h.ids hrow hrow' (hid.trans hid'.symm)
  obtain ⟨rfl, rfl⟩ := List.cons.inj (htodo.symm.trans htodo')
  exact ⟨row, hrow, hid, hrevision, halone, hP, congrArg Prod.snd hname⟩

/-! ## Replies -/

theorem reply_inv (h : Inv M s) (hw : w ∈ s.workers) (hlive : w.live = true) (r : Reply) : Inv M (s.reply r w) := by
  unfold State.reply
  split
  · rename_i id attempt hphase
    have hcurrent : w.current = some id := by rw [MapWorker.current, hphase]
    have hrec : ∀ id', w.hasRecorded id' = false :=
      hasRecorded_eq_false fun _ _ heq => by rw [hphase] at heq; cases heq
    have hok := h.ok w hw
    obtain ⟨-, -, -, artifact, rest, htodo, -⟩ := hok.current id hcurrent
    have hhas (ho : Owner s w) : Has s w id fun row => (row.status = .running ∧ row.llmCallCount = attempt) ∧
        row.stepKey = intakeMapStepKey artifact.artifactId := by
      have hp := ho.phase
      unfold PhaseOk at hp
      rw [hphase] at hp
      exact Has.key h hok htodo hcurrent hp
    cases r with
    | accepted responseSha256 =>
      refine h.finish hw hlive hrec htodo fun ho => (hhas ho).imp fun row ⟨⟨hstatus, hcount⟩, hkey⟩ => ⟨?_, hkey⟩
      refine .completed hstatus hcount.symm ?_ rfl fun artifactKind => ?_
      · simp only [acceptedResult, resolveMapTerminalStepStatus]
        split_ifs <;> rfl
      · cases artifactKind <;> simp [acceptedResult, storedBeforeCall]
    | rejected e =>
      rw [MapWorker.reply]
      split_ifs with hrepair
      · refine h.quiet hw hlive rfl (fun id' => ?_) ⟨hok.fence, hok.distinct, fun id' hid => ?_, fun _ => ?_⟩ fun _ ho => ?_
        · rw [hrec id']
          rfl
        · exact hok.current id' (hcurrent.trans hid)
        · exact hok.routed (by rw [MapWorker.admitted, hphase])
        · refine ⟨?_, ho.results, ho.distinct⟩
          exact (hhas ho).imp fun row ⟨⟨hstatus, hcount⟩, _⟩ => ⟨hstatus, hcount.trans hrepair.1⟩
      · refine h.finish hw hlive hrec htodo fun ho => (hhas ho).imp fun row ⟨⟨hstatus, hcount⟩, hkey⟩ => ⟨?_, hkey⟩
        refine .failed hstatus hcount.symm ?_
        simp only [rejectedResult, resolveMapTerminalStepStatus]
        split_ifs <;> rfl
    | failed e =>
      refine h.finish hw hlive hrec htodo fun ho => ?_
      rw [failedResult]
      split_ifs with hfirst
      · refine (hhas ho).imp fun row ⟨⟨hstatus, hcount⟩, hkey⟩ => ⟨.unrecorded hstatus (hcount.trans hfirst) rfl ?_, hkey⟩
        cases e
        · exact Or.inl rfl
        · exact Or.inr rfl
      · exact (hhas ho).imp fun row ⟨⟨hstatus, hcount⟩, hkey⟩ => ⟨.failed hstatus hcount.symm rfl, hkey⟩
  · exact h

/-! ## Reservation -/

/-- identifiers may be drawn and not used -/
theorem Inv.draw (h : Inv M s) : Inv M { s with drawn := s.drawn + 1 } where
  queue := h.queue
  fences key fence hholds := Nat.lt_succ_of_lt (h.fences key fence hholds)
  workers := h.workers
  ids := h.ids
  names := h.names
  rows row hrow :=
    have hr := h.rows row hrow
    ⟨Nat.lt_succ_of_lt hr.drawn, hr.shape, hr.counted, hr.closed, hr.settled⟩
  calls call hcall := ⟨(h.calls call hcall).fence, (h.calls call hcall).row⟩
  ok w hw := (h.ok w hw).transport (Nat.le_succ _) fun row hrow => ⟨row, hrow, rfl, rfl⟩
  owner w hw hlive hholds := (h.owner w hw hlive hholds).transport rfl rfl rfl fun _ _ hhas => hhas

/-- no call is made or counted for an identifier that is not drawn yet -/
theorem Inv.undrawn (h : Inv M s) : s.callsOf s.drawn = 0 ∧ s.recordedCalls s.drawn = 0 := by
  constructor
  · rw [State.callsOf, List.countP_eq_zero]
    intro call hcall hid
    obtain ⟨row, hrow, hrid, -⟩ := (h.calls call hcall).row
    have hlt := (h.rows row hrow).drawn
    rw [hrid, of_decide_eq_true hid] at hlt
    exact absurd hlt (lt_irrefl _)
  · refine recordedCalls_eq_zero.2 fun w hw => Bool.eq_false_iff.2 fun hrec => ?_
    obtain ⟨row, hrow, hrid, -⟩ := (h.ok w hw).current _ (current_of_hasRecorded hrec)
    have hlt := (h.rows row hrow).drawn
    rw [hrid] at hlt
    exact absurd hlt (lt_irrefl _)

/-- **A reservation** adds a row for a step that had none. -/
theorem inv_newStep (h : Inv M s) {c : MapClaim} {now : Instant} {stepKey inputDigest : String}
    (hnew : ∀ row ∈ s.db.steps, stepName row ≠ (c.packageRevisionId, stepKey)) :
    Inv M { s with
      db := { s.db with steps := s.db.steps ++ [newStep c now stepKey inputDigest s.drawn] }, drawn := s.drawn + 1 } := by
  have hd := h.draw
  have hold : ∀ row ∈ s.db.steps, row ∈ s.db.steps ++ [newStep c now stepKey inputDigest s.drawn] :=
    fun row hrow => List.mem_append_left _ hrow
  refine ⟨hd.queue, hd.fences, hd.workers, ?_, ?_, fun row hrow => ?_, fun call hcall => ⟨(h.calls call hcall).fence, ?_⟩,
    fun w hw => (h.ok w hw).transport (Nat.le_succ _) fun row hrow => ⟨row, hold row hrow, rfl, rfl⟩,
    fun w hw hlive hholds => ?_⟩
  · show ((s.db.steps ++ [newStep c now stepKey inputDigest s.drawn]).map NormalizationStep.stepId).Nodup
    rw [List.map_append, List.map_singleton, ← List.concat_eq_append, List.nodup_concat]
    refine ⟨fun hmem => ?_, h.ids⟩
    obtain ⟨row, hrow, hid⟩ := List.mem_map.1 hmem
    have hlt := (h.rows row hrow).drawn
    rw [hid] at hlt
    exact absurd hlt (lt_irrefl _)
  · show ((s.db.steps ++ [newStep c now stepKey inputDigest s.drawn]).map stepName).Nodup
    rw [List.map_append, List.map_singleton, ← List.concat_eq_append, List.nodup_concat]
    refine ⟨fun hmem => ?_, h.names⟩
    obtain ⟨row, hrow, hname⟩ := List.mem_map.1 hmem
    exact hnew row hrow hname
  · rcases List.mem_append.1 hrow with hrow | hrow
    · have hr := hd.rows row hrow
      exact ⟨hr.drawn, hr.shape, hr.counted, hr.closed, hr.settled⟩
    · obtain rfl := List.mem_singleton.1 hrow
      obtain ⟨hcalls, hrecorded⟩ := h.undrawn
      refine ⟨Nat.lt_succ_self _, shape_newStep _ _ _ _ _, Or.inl ?_, fun ht => (by cases ht), fun ht => (by cases ht)⟩
      show 0 = s.callsOf s.drawn + s.recordedCalls s.drawn
      omega
  · obtain ⟨row, hrow, hrest⟩ := (h.calls call hcall).row
    exact ⟨row, hold row hrow, hrest⟩
  · refine (h.owner w hw hlive hholds).transport rfl rfl rfl fun id P hhas => hhas.transport rfl (fun row hrow _ _ => hold row hrow)
      fun x hx hrec _ => ⟨x, hx, hrec, rfl⟩

/-- the worker goes on with a row that is reserved -/
theorem Inv.afterReservation (h : Inv M s) (hw : w ∈ s.workers) (hlive : w.live = true) (hphase : w.phase = .ready)
    {artifact : MapArtifact} {rest : List MapArtifact} (htodo : w.todo = artifact :: rest) (hrow : row ∈ s.db.steps)
    (hname : stepName row = (w.claim.packageRevisionId, intakeMapStepKey artifact.artifactId))
    (hstatus : row.status = .reserved) : Inv M (s.put (w.afterReservation artifact ⟨row.stepId, false⟩)) := by
  have hok := h.ok w hw
  have hrec : ∀ id, w.hasRecorded id = false :=
    hasRecorded_eq_false fun _ _ heq => by rw [hphase] at heq; cases heq
  have hhas : Has s w row.stepId fun row => row.status = .reserved ∧
      row.stepKey = intakeMapStepKey artifact.artifactId :=
    ⟨row, hrow, rfl, congrArg Prod.fst hname, alone_of_reserved (h.rows row hrow) hstatus w, hstatus,
      congrArg Prod.snd hname⟩
  unfold MapWorker.afterReservation
  rw [if_neg Bool.false_ne_true]
  cases hskip : w.skip artifact with
  | some p =>
    refine h.finish hw hlive hrec htodo fun _ => hhas.imp fun row ⟨hstatus, hkey⟩ => ⟨.uncalled hstatus rfl ?_, hkey⟩
    unfold MapWorker.skip at hskip
    split_ifs at hskip
    · rw [← Option.some.inj hskip]
      exact Or.inr rfl
    · rw [← Option.some.inj hskip]
      exact Or.inl rfl
    · rw [← Option.some.inj hskip]
      exact Or.inr rfl
  | none =>
    refine h.quiet hw hlive rfl (fun id => ?_) ⟨hok.fence, hok.distinct, fun id hid => ?_, fun ha => (by cases ha)⟩
      fun _ ho => ⟨hhas.imp fun _ hr => hr.1, ho.results, ho.distinct⟩
    · rw [hrec id]
      rfl
    · obtain rfl : row.stepId = id := Option.some.inj hid
      exact ⟨row, hrow, rfl, artifact, rest, htodo, hname⟩

/-! ## Operations on the queue -/

/-- **An operation on the queue**, with the fence token drawn for it. -/
theorem Inv.withQueue (h : Inv M s) {queue : Db} (hqueue : QueueStep M (some s.drawn) s.db.queue queue) :
    Inv M (s.withQueue queue) := by
  have hd := h.draw
  -- the drawn token is of no worker yet
  have hholds : ∀ w ∈ s.workers, Holds queue w.claim.key w.fenceToken → Holds s.db.queue w.claim.key w.fenceToken := by
    intro w hw hf
    refine hqueue.holds (fun hdrawn => ?_) hf
    have hlt := (h.ok w hw).fence
    rw [← Option.some.inj hdrawn] at hlt
    exact absurd hlt (lt_irrefl _)
  refine ⟨hqueue.ok, fun key fence hf => ?_, h.workers, h.ids, h.names, fun row hrow => ?_,
    fun call hcall => ⟨(h.calls call hcall).fence, (h.calls call hcall).row⟩,
    fun w hw => (h.ok w hw).transport (Nat.le_succ _) fun row hrow => ⟨row, hrow, rfl, rfl⟩,
    fun w hw hlive hf => (h.owner w hw hlive (hholds w hw hf)).transport rfl rfl rfl fun _ _ hhas => hhas⟩
  · rcases hqueue.fences key fence hf with hdrawn | hf
    · rw [← Option.some.inj hdrawn]
      exact Nat.lt_succ_self _
    · exact hd.fences key fence hf
  · have hr := hd.rows row hrow
    exact ⟨hr.drawn, hr.shape, hr.counted, fun ht => hqueue.closed (hr.closed ht), hr.settled⟩

/-! ## Transactions that close the work -/

/-- a row that ends with its work -/
structure Ended (s : State) (c : MapClaim) (row row' : NormalizationStep) : Prop where
  revision : row.packageRevisionId = c.packageRevisionId
  move : RowMove row row'
  counted : row'.llmCallCount = row.llmCallCount ∨ Unrecorded row' ∧ row.llmCallCount = 1
  settled : row'.status ≠ .reconciliationRequired → s.recordedCalls row.stepId = 0

theorem RowMove.revision {row' : NormalizationStep} (hm : RowMove row row') :
    row'.packageRevisionId = row.packageRevisionId := congrArg Prod.fst hm.name

/-- rows moved one by one keep their identifiers and names -/
theorem keys_of_moves {β : Type} {f : NormalizationStep → β} (hf : ∀ row row', RowMove row row' → f row' = f row)
    {rows rows' : List NormalizationStep} (h : List.Forall₂ RowMove rows rows') : rows'.map f = rows.map f := by
  induction h with
  | nil => rfl
  | cons hm _ ih => rw [List.map_cons, List.map_cons, hf _ _ hm, ih]

/-- a row that was not closed yet counts its calls -/
theorem RowOk.live (h : RowOk s row) (hlive : row.status.terminal = false) :
    row.llmCallCount = s.callsOf row.stepId + s.recordedCalls row.stepId := by
  rcases h.counted with heq | ⟨⟨hfailed, -⟩, -⟩
  · exact heq
  · rw [hfailed] at hlive
    cases hlive

theorem RowOk.ended (h : RowOk s row) {row' : NormalizationStep} {c : MapClaim} (he : Ended s c row row') {queue : Db}
    {steps : List NormalizationStep} (hclosed : Closed queue c.key) :
    RowOk { s with db := { queue, steps } } row' := by
  have hid := he.move.stepId
  have hclosed' : Closed queue (row'.packageRevisionId, .deterministicExtract) := by
    rw [he.move.revision, he.revision]
    exact hclosed
  refine ⟨hid ▸ h.drawn, h.shape.move he.move, ?_, fun _ => hclosed', fun _ hne => ?_⟩
  · show row'.llmCallCount = s.callsOf row'.stepId + s.recordedCalls row'.stepId ∨
      Unrecorded row' ∧ s.callsOf row'.stepId + s.recordedCalls row'.stepId = 1
    rw [hid]
    cases hterminal : row.status.terminal with
    | true =>
      rw [he.move.of_terminal hterminal]
      exact h.counted
    | false =>
      have hcount := h.live hterminal
      rcases he.counted with heq | ⟨hunrecorded, hone⟩
      · exact Or.inl (heq.trans hcount)
      · exact Or.inr ⟨hunrecorded, hcount.symm.trans hone⟩
  · show s.recordedCalls row'.stepId = 0
    rw [hid]
    exact he.settled hne

/-- **A transaction that closes the work** of its claim, and moves rows of that revision only. -/
theorem Inv.write (h : Inv M s) {c : MapClaim} {db' : MapDb} (hqueue : QueueStep M none s.db.queue db'.queue)
    (hclosed : Closed db'.queue c.key)
    (hrows : List.Forall₂ (fun row row' => row' = row ∨ Ended s c row row') s.db.steps db'.steps) :
    Inv M { s with db := db' } := by
  have hmoves : List.Forall₂ RowMove s.db.steps db'.steps :=
    hrows.imp fun row row' hr => hr.elim (fun heq => heq ▸ .stay row) Ended.move
  have hkept : ∀ row ∈ s.db.steps, ∃ row' ∈ db'.steps, row'.stepId = row.stepId ∧ stepName row' = stepName row := by
    intro row hrow
    obtain ⟨row', hrow', hm⟩ := Results.exists_of_forall₂' hmoves hrow
    exact ⟨row', hrow', hm.stepId, hm.name⟩
  refine ⟨hqueue.ok, fun key fence hholds => h.fences key fence (hqueue.holds (by simp) hholds), h.workers, ?_, ?_,
    fun row' hrow' => ?_, fun call hcall => ⟨(h.calls call hcall).fence, ?_⟩,
    fun w hw => (h.ok w hw).transport (le_refl _) hkept, fun w hw hlive hholds => ?_⟩
  · show (db'.steps.map NormalizationStep.stepId).Nodup
    rw [keys_of_moves (fun _ _ hm => hm.stepId) hmoves]
    exact h.ids
  · show (db'.steps.map stepName).Nodup
    rw [keys_of_moves (fun _ _ hm => hm.name) hmoves]
    exact h.names
  · obtain ⟨row, hrow, hr⟩ := Results.exists_of_forall₂ hrows hrow'
    rcases hr with rfl | he
    · have hr := h.rows row' hrow
      exact ⟨hr.drawn, hr.shape, hr.counted, fun ht => hqueue.closed (hr.closed ht), hr.settled⟩
    · exact (h.rows row hrow).ended he hclosed
  · obtain ⟨row, hrow, hid, hname⟩ := (h.calls call hcall).row
    obtain ⟨row', hrow', hid', hname'⟩ := hkept row hrow
    exact ⟨row', hrow', hid'.trans hid, hname'.trans hname⟩
  · -- a worker that still holds its work is on another revision
    have hne : w.claim.packageRevisionId ≠ c.packageRevisionId := by
      intro heq
      have hkey : c.key = w.claim.key := by rw [MapClaim.key, MapClaim.key, heq]
      exact (hkey ▸ hclosed).not_holds hqueue.ok _ hholds
    have howner := h.owner w hw hlive (hqueue.holds (by simp) hholds)
    refine howner.transport rfl rfl rfl fun id P hhas => hhas.transport rfl (fun row hrow hrevision _ => ?_)
      fun x hx hrec _ => ⟨x, hx, hrec, rfl⟩
    obtain ⟨row', hrow', hr⟩ := Results.exists_of_forall₂' hrows hrow
    rcases hr with rfl | he
    · exact hrow'
    · exact absurd (hrevision.symm.trans he.revision) hne

/-- a row that was past its reservation when it was claimed again -/
theorem forall₂_reconciled (h : Inv M s) {c : MapClaim} {stepKey : String} {now : Instant} (hrow : row ∈ s.db.steps)
    (hname : stepName row = (c.packageRevisionId, stepKey)) (hstatus : row.status ≠ .reserved)
    (hholds : Holds s.db.queue c.key c.fenceToken) :
    List.Forall₂ (fun x x' => x' = x ∨ Ended s c x x') s.db.steps (s.db.putStep (reconciledStep row now)).steps := by
  have hrevision : row.packageRevisionId = c.packageRevisionId := congrArg Prod.fst hname
  -- the work of a row that has ended is closed, and nobody holds it
  have hrunning : row.status = .running := by
    have hopen : row.status.terminal = false := by
      by_contra hterminal
      have hclosed := (h.rows row hrow).closed (by simpa using hterminal)
      rw [hrevision] at hclosed
      exact hclosed.not_holds h.queue _ hholds
    cases hs : row.status with
    | running => rfl
    | reserved => exact absurd hs hstatus
    | _ => rw [hs] at hopen; cases hopen
  refine Rows.forall₂_put (fun x _ _ => Or.inl rfl) fun x hx hkey => Or.inr ?_
  obtain rfl := Rows.eq_of_mem h.ids hx hrow hkey
  exact ⟨hrevision, .reconcile x now hrunning, Or.inl rfl, fun hne => absurd rfl hne⟩

theorem reserve_inv (h : Inv M s) (hw : w ∈ s.workers) (hlive : w.live = true) (now : Instant) :
    Inv M (s.reserve now w) := by
  unfold State.reserve
  split
  · rename_i artifact rest hphase htodo
    rcases returns_or_raises (reserveMapStep w.claim now (intakeMapStepKey artifact.artifactId) artifact.inputDigest s.drawn)
      s.db with ⟨outcome, db', hr⟩ | ⟨e, db', hr⟩
    · obtain ⟨hholds, hreserved⟩ := reserve_returns h.queue hr
      rw [show State.transact { s with drawn := s.drawn + 1 } w _ (w.afterReservation artifact) =
        { s with db := db', drawn := s.drawn + 1 }.put (w.afterReservation artifact outcome) from by
          rw [State.transact, show reserveMapStep _ _ _ _ _ _ = _ from hr]]
      cases hreserved with
      | new hnew =>
        exact (inv_newStep h hnew).afterReservation hw hlive hphase htodo
          (List.mem_append_right _ (List.mem_singleton_self _)) rfl rfl
      | again row hrow hname hstatus =>
        exact h.draw.afterReservation hw hlive hphase htodo hrow hname hstatus
      | replayed row db' hrow hname hstatus hqueue hsteps =>
        rcases hsteps with hsteps | ⟨hclosed, hsteps⟩
        · obtain ⟨queue, steps⟩ := db'
          obtain rfl : steps = s.db.steps := hsteps
          exact (h.withQueue (hqueue.undrawn _)).stop hw hlive
        · refine (h.write hqueue hclosed ?_).draw.stop hw hlive
          rw [hsteps]
          exact forall₂_reconciled h hrow hname hstatus hholds
    · rw [show State.transact { s with drawn := s.drawn + 1 } w _ (w.afterReservation artifact) =
        { s with drawn := s.drawn + 1 }.put w.stop from by
          rw [State.transact, show reserveMapStep _ _ _ _ _ _ = _ from hr]]
      exact h.draw.stop hw hlive
  · exact h

/-! ## Calls -/

/-- the row that a transition writes, and where it was before -/
theorem transitioned_spec (h : Inv M s) (hw : w ∈ s.workers) (hlive : w.live = true)
    (hholds : Holds s.db.queue w.claim.key w.fenceToken) {now : Instant} {stepId : Uuid} {stepKey : String}
    {current : Nat} (hnext : w.nextCall = some (stepId, current)) {db' : MapDb}
    (ht : Transitioned s.db w.claim now stepId stepKey (current + 1) db') :
    ∃ row row', row ∈ s.db.steps ∧ row.stepId = stepId ∧ stepName row = (w.claim.packageRevisionId, stepKey) ∧
      RowMove row row' ∧ db' = s.db.putStep row' ∧ row'.status = .running ∧ row'.llmCallCount = row.llmCallCount + 1 ∧
      row'.llmCallCount = current + 1 ∧ row.status.terminal = false ∧ Alone s w stepId := by
  have hphase := (h.owner w hw hlive hholds).phase
  unfold PhaseOk at hphase
  unfold MapWorker.nextCall at hnext
  generalize hattempt : current + 1 = attempt at ht
  cases ht with
  | run row hrow hname hid hstatus =>
    obtain rfl : current = 0 := by omega
    refine ⟨row, _, hrow, hid, hname, .run row now hstatus, rfl, rfl, ?_, rfl, by rw [hstatus]; rfl, ?_⟩
    · rw [(h.rows row hrow).shape.uncalled (Or.inl hstatus)]
      rfl
    · exact hid ▸ alone_of_reserved (h.rows row hrow) hstatus w
  | repair row hrow hname hid hstatus hcount =>
    obtain rfl : current = 1 := by omega
    refine ⟨row, _, hrow, hid, hname, .repair row hstatus hcount, rfl, hstatus, ?_, rfl, by rw [hstatus]; rfl, ?_⟩
    · rw [hcount]
      rfl
    · split at hnext
      · cases hnext
      · rename_i id hp
        rw [hp] at hphase
        obtain ⟨rfl, -⟩ := Prod.mk.inj (Option.some.inj hnext)
        obtain ⟨-, -, -, -, halone, -⟩ := hphase
        exact halone
      · cases hnext

/-- **The transaction before a call** counts the call in the row. -/
theorem inv_record (h : Inv M s) (hw : w ∈ s.workers) (hlive : w.live = true)
    (hholds : Holds s.db.queue w.claim.key w.fenceToken) {now : Instant} {stepId : Uuid} {current : Nat}
    (hnext : w.nextCall = some (stepId, current)) {artifact : MapArtifact} {rest : List MapArtifact}
    (htodo : w.todo = artifact :: rest) (hrouted : w.modelRequest.bind ModelCallRequest.routing = none) {db' : MapDb}
    (ht : Transitioned s.db w.claim now stepId (intakeMapStepKey artifact.artifactId) (current + 1) db') :
    Inv M ({ s with db := db' }.put { w with phase := .recorded stepId (current + 1) }) := by
  obtain ⟨row, row', hrow, rfl, hname, hm, rfl, hstatus, hsucc, hcount, hopen, halone⟩ :=
    transitioned_spec h hw hlive hholds hnext ht
  set w' : MapWorker := { w with phase := .recorded row.stepId (current + 1) } with hw'
  have hfence : w'.fenceToken = w.fenceToken := rfl
  have hrec : ∀ id, w.hasRecorded id = false := by
    refine hasRecorded_eq_false fun _ _ heq => ?_
    rw [MapWorker.nextCall, heq] at hnext
    cases hnext
  have hrec' (id : Uuid) : w'.hasRecorded id = decide (row.stepId = id) := hasRecorded_of_phase rfl
  have hmoves : List.Forall₂ RowMove s.db.steps (s.db.putStep row').steps := forall₂_putStep h.ids hrow hm
  have hmem : row' ∈ (s.db.putStep row').steps :=
    (Rows.mem_put (hm.stepId ▸ List.mem_map_of_mem hrow)).2 (Or.inl rfl)
  have hothers : ∀ x ∈ s.db.steps, x.stepId ≠ row.stepId → x ∈ (s.db.putStep row').steps :=
    fun x hx hne => Rows.mem_put_of_ne hx (hm.stepId ▸ hne)
  have hkept : ∀ x ∈ s.db.steps, ∃ x' ∈ (s.db.putStep row').steps, x'.stepId = x.stepId ∧ stepName x' = stepName x := by
    intro x hx
    obtain ⟨x', hx', hmx⟩ := Results.exists_of_forall₂' hmoves hx
    exact ⟨x', hx', hmx.stepId, hmx.name⟩
  have hcounts (id : Uuid) : ({ s with db := s.db.putStep row' }.put w').recordedCalls id =
      s.recordedCalls id + (decide (row.stepId = id)).toNat := by
    have hput := recordedCalls_put h hw hfence id
    rw [hrec id, hrec' id] at hput
    exact hput
  -- a step other than this one
  have hhas (x : MapWorker) (id : Uuid) (P : NormalizationStep → Prop) (hne : id ≠ row.stepId) (hx : Has s x id P) :
      Has ({ s with db := s.db.putStep row' }.put w') x id P := by
    refine hx.transport rfl (fun y hy _ hid => hothers y hy (hid ▸ hne)) fun y hy hyrec _ => ?_
    rcases (mem_put hw hfence).1 hy with rfl | ⟨hy, -⟩
    · rw [hrec' id, decide_eq_true_eq] at hyrec
      exact absurd hyrec.symm hne
    · exact ⟨y, hy, hyrec, rfl⟩
  have hrevision : row.packageRevisionId = w.claim.packageRevisionId := congrArg Prod.fst hname
  refine ⟨h.queue, h.fences, ?_, ?_, ?_, fun x hx => ?_, fun call hcall => ⟨?_, ?_⟩, fun x hx => ?_,
    fun x hx hxlive hxholds => ?_⟩
  · show (Rows.put MapWorker.fenceToken w' s.workers |>.map MapWorker.fenceToken).Nodup
    rw [Rows.keys_put]
    exact h.workers
  · show ((s.db.putStep row').steps.map NormalizationStep.stepId).Nodup
    rw [keys_of_moves (fun _ _ hm => hm.stepId) hmoves]
    exact h.ids
  · show ((s.db.putStep row').steps.map stepName).Nodup
    rw [keys_of_moves (fun _ _ hm => hm.name) hmoves]
    exact h.names
  · rcases (Rows.mem_put (hm.stepId ▸ List.mem_map_of_mem hrow)).1 hx with rfl | ⟨hx, hne⟩
    · have hr := h.rows row hrow
      refine ⟨hm.stepId ▸ hr.drawn, hr.shape.move hm, Or.inl ?_, fun ht => ?_, fun ht => ?_⟩
      · rw [hcounts, hm.stepId, decide_eq_true rfl, hsucc, hr.live hopen]
        rfl
      · rw [hstatus] at ht
        cases ht
      · rw [hstatus] at ht
        cases ht
    · have hr := h.rows x hx
      rw [hm.stepId] at hne
      have hsame : ({ s with db := s.db.putStep row' }.put w').recordedCalls x.stepId = s.recordedCalls x.stepId := by
        rw [hcounts, decide_eq_false hne.symm]
        rfl
      exact ⟨hr.drawn, hr.shape, hsame.symm ▸ hr.counted, hr.closed, fun ht hne => hsame.trans (hr.settled ht hne)⟩
  · show call.fenceToken ∈ (Rows.put MapWorker.fenceToken w' s.workers).map MapWorker.fenceToken
    rw [Rows.keys_put]
    exact (h.calls call hcall).fence
  · obtain ⟨x, hx, hid, hxname⟩ := (h.calls call hcall).row
    obtain ⟨x', hx', hid', hname'⟩ := hkept x hx
    exact ⟨x', hx', hid'.trans hid, hname'.trans hxname⟩
  · rcases (mem_put hw hfence).1 hx with rfl | ⟨hx, -⟩
    · refine ⟨(h.ok w hw).fence, (h.ok w hw).distinct, fun id hid => ?_, fun _ => hrouted⟩
      obtain rfl : row.stepId = id := Option.some.inj hid
      exact ⟨row', hmem, hm.stepId, artifact, rest, htodo, hm.name.trans hname⟩
    · exact (h.ok x hx).transport (le_refl _) hkept
  · rcases (mem_put hw hfence).1 hx with rfl | ⟨hx, hne⟩
    · have ho := h.owner w hw hlive hholds
      refine ⟨⟨row', hmem, hm.stepId, hm.revision.trans hrevision, fun y hy hyrec => ?_, hstatus, hcount⟩,
        fun result hresult => ?_, ho.distinct⟩
      · rcases (mem_put hw hfence).1 hy with rfl | ⟨hy, -⟩
        · rfl
        · exact halone y hy hyrec
      · obtain ⟨y, hy, hid, hyrev, hyalone, hmatches, hkeys⟩ := ho.results result hresult
        -- the row of an earlier result is that of another artifact
        have hne : result.stepId ≠ row.stepId := by
          intro heq
          obtain rfl := Rows.eq_of_mem h.ids hy hrow (hid.trans heq)
          exact hkeys artifact (htodo ▸ List.mem_cons_self) (congrArg Prod.snd hname)
        exact hhas w' result.stepId _ hne ⟨y, hy, hid, hyrev, hyalone, hmatches, hkeys⟩
    · -- another holder works on another revision
      have hrev := claim_ne_of_holds h hholds hxholds hne
      have ho := h.owner x hx hxlive hxholds
      refine ho.transport rfl rfl rfl fun id P hxhas => hhas x id P (fun heq => ?_) hxhas
      obtain ⟨y, hy, hid, hyrev, -⟩ := hxhas
      obtain rfl := Rows.eq_of_mem h.ids hy hrow (hid.trans heq)
      exact hrev (hyrev.symm.trans hrevision)

theorem callsOf_append (s : State) (call : MapCall) (stepId : Uuid) :
    { s with calls := s.calls ++ [call] }.callsOf stepId = s.callsOf stepId + (decide (call.stepId = stepId)).toNat := by
  simp only [State.callsOf, List.countP_append, List.countP_singleton]
  cases decide (call.stepId = stepId) <;> rfl

/-- **A call** is made as its row counts it. -/
theorem call_inv (h : Inv M s) (hw : w ∈ s.workers) (hlive : w.live = true) : Inv M (s.call w) := by
  unfold State.call
  split
  · rename_i stepId attempt artifact rest hphase htodo
    set call : MapCall := ⟨w.claim.packageRevisionId, intakeMapStepKey artifact.artifactId, stepId, w.fenceToken, attempt⟩
    set w' : MapWorker := { w with phase := .calling stepId attempt }
    show Inv M ({ s with calls := s.calls ++ [call] }.put w')
    have hfence : w'.fenceToken = w.fenceToken := rfl
    have hok := h.ok w hw
    have hrec (id : Uuid) : w.hasRecorded id = decide (stepId = id) := hasRecorded_of_phase hphase
    have hrec' (id : Uuid) : w'.hasRecorded id = false := rfl
    have hcurrent : w.current = some stepId := by rw [MapWorker.current, hphase]
    have hcounts (id : Uuid) : ({ s with calls := s.calls ++ [call] }.put w').recordedCalls id +
        (decide (stepId = id)).toNat = s.recordedCalls id := by
      have hput := recordedCalls_put h hw hfence id
      rw [hrec id, hrec' id] at hput
      exact hput
    have hhas (x : MapWorker) (id : Uuid) (P : NormalizationStep → Prop) (hx : Has s x id P) :
        Has ({ s with calls := s.calls ++ [call] }.put w') x id P := by
      refine hx.transport rfl (fun y hy _ _ => hy) fun y hy hyrec _ => ?_
      rcases (mem_put hw hfence).1 hy with rfl | ⟨hy, -⟩
      · rw [hrec' id] at hyrec
        cases hyrec
      · exact ⟨y, hy, hyrec, rfl⟩
    refine ⟨h.queue, h.fences, ?_, h.ids, h.names, fun row hrow => ?_, fun c hc => ?_, fun x hx => ?_,
      fun x hx hxlive hxholds => ?_⟩
    · show (Rows.put MapWorker.fenceToken w' s.workers |>.map MapWorker.fenceToken).Nodup
      rw [Rows.keys_put]
      exact h.workers
    · -- what is made is no longer outstanding
      have hr := h.rows row hrow
      have hmade : ({ s with calls := s.calls ++ [call] }.put w').callsOf row.stepId =
          s.callsOf row.stepId + (decide (stepId = row.stepId)).toNat := callsOf_append s call row.stepId
      have hleft := hcounts row.stepId
      refine ⟨hr.drawn, hr.shape, ?_, hr.closed, fun ht hne => ?_⟩
      · rcases hr.counted with heq | ⟨hunrecorded, hone⟩
        · exact Or.inl (by omega)
        · exact Or.inr ⟨hunrecorded, by omega⟩
      · have hzero := hr.settled ht hne
        omega
    · have hfences : (({ s with calls := s.calls ++ [call] }.put w').workers).map MapWorker.fenceToken =
          s.workers.map MapWorker.fenceToken := Rows.keys_put w' s.workers
      rcases List.mem_append.1 hc with hc | hc
      · refine ⟨?_, (h.calls c hc).row⟩
        rw [hfences]
        exact (h.calls c hc).fence
      · obtain rfl := List.mem_singleton.1 hc
        obtain ⟨row, hrow, hid, artifact', rest', htodo', hname⟩ := hok.current stepId hcurrent
        obtain ⟨rfl, rfl⟩ := List.cons.inj (htodo.symm.trans htodo')
        refine ⟨?_, row, hrow, hid, hname⟩
        rw [hfences]
        exact List.mem_map_of_mem hw
    · rcases (mem_put hw hfence).1 hx with rfl | ⟨hx, -⟩
      · refine ⟨hok.fence, hok.distinct, fun id hid => ?_, fun _ => hok.routed (by rw [MapWorker.admitted, hphase])⟩
        exact hok.current id (hcurrent.trans hid)
      · exact (h.ok x hx).transport (le_refl _) fun row hrow => ⟨row, hrow, rfl, rfl⟩
    · rcases (mem_put hw hfence).1 hx with rfl | ⟨hx, -⟩
      · have ho := h.owner w hw hlive hxholds
        have hp := ho.phase
        unfold PhaseOk at hp
        rw [hphase] at hp
        exact ⟨hhas w' stepId _ hp, fun result hresult => hhas w' _ _ (ho.results result hresult), ho.distinct⟩
      · exact (h.owner x hx hxlive hxholds).transport rfl rfl rfl (hhas x)
  · exact h

theorem record_inv (h : Inv M s) (hw : w ∈ s.workers) (hlive : w.live = true) (now : Instant) :
    Inv M (s.record now w) := by
  unfold State.record
  split
  · rename_i stepId current artifact rest hnext htodo
    have hrec : ∀ id, w.hasRecorded id = false := by
      refine hasRecorded_eq_false fun _ _ heq => ?_
      rw [MapWorker.nextCall, heq] at hnext
      cases hnext
    have hok := h.ok w hw
    cases hdenial : w.denial current with
    | some errorCode =>
      have hfirst : w.phase = .reserved stepId ∧ current = 0 := by
        unfold MapWorker.nextCall at hnext
        split at hnext
        · rename_i id hphase
          obtain ⟨rfl, rfl⟩ := Prod.mk.inj (Option.some.inj hnext)
          exact ⟨hphase, rfl⟩
        · -- the policy that admitted the first call admits the repair, and one call is below the limit
          rename_i id hphase
          obtain ⟨rfl, rfl⟩ := Prod.mk.inj (Option.some.inj hnext)
          rw [MapWorker.denial, hok.routed (by rw [MapWorker.admitted, hphase])] at hdenial
          cases hdenial
        · cases hnext
      obtain ⟨hphase, rfl⟩ := hfirst
      refine h.finish hw hlive hrec htodo fun ho => ?_
      have hp := ho.phase
      unfold PhaseOk at hp
      rw [hphase] at hp
      exact (Has.key h hok htodo (by rw [MapWorker.current, hphase]) hp).imp
        fun row ⟨hstatus, hkey⟩ => ⟨.uncalled hstatus rfl (Or.inl rfl), hkey⟩
    | none =>
      dsimp only
      rcases returns_or_raises (transitionMapStepForCall w.claim now stepId (intakeMapStepKey artifact.artifactId)
        artifact.inputDigest (current + 1)) s.db with ⟨u, db', hr⟩ | ⟨e, db', hr⟩
      · obtain ⟨hholds, ht⟩ := transition_returns hr
        rw [State.transact, show transitionMapStepForCall _ _ _ _ _ _ _ = _ from hr]
        refine inv_record h hw hlive hholds hnext htodo ?_ ht
        rw [MapWorker.denial, Option.or_eq_none_iff] at hdenial
        exact hdenial.1
      · rw [State.transact, show transitionMapStepForCall _ _ _ _ _ _ _ = _ from hr]
        exact h.stop hw hlive
  · exact h

/-! ## The end of a claim -/

theorem check_inv (h : Inv M s) (hw : w ∈ s.workers) (hlive : w.live = true) (now : Instant) : Inv M (s.check now w) := by
  unfold State.check
  split_ifs with hphase
  · rcases returns_or_raises (assertLiveLease w.claim now) s.db with ⟨u, db', hr⟩ | ⟨e, db', hr⟩
    · rw [State.transact, show assertLiveLease _ _ _ = _ from hr, assertLiveLease_returns hr]
      have hrec : ∀ id, w.hasRecorded id = false :=
        hasRecorded_eq_false fun _ _ heq => by rw [hphase] at heq; cases heq
      exact h.quiet hw hlive rfl (fun id => (hrec id).symm) ((h.ok w hw).idle rfl rfl rfl (List.Sublist.refl _))
        fun _ ho => ⟨trivial, ho.results, ho.distinct⟩
    · rw [State.transact, show assertLiveLease _ _ _ = _ from hr]
      exact h.stop hw hlive
  · exact h

/-- the rows of the results, as they are recorded -/
theorem forall₂_recorded (h : Inv M s) (hw : w ∈ s.workers) (hphase : w.phase = .finished) (ho : Owner s w) {now : Instant}
    {rows : List NormalizationStep} (hrows : List.Forall₂ (Recorded w.results now) s.db.steps rows) :
    List.Forall₂ (fun row row' => row' = row ∨ Ended s w.claim row row') s.db.steps rows := by
  have hmem := (List.forall₂_and_left _ _).2 ⟨fun row (hrow : row ∈ s.db.steps) => hrow, hrows⟩
  refine hmem.imp fun row row' ⟨hrow, hrec⟩ => ?_
  cases hrec with
  | other => exact Or.inl rfl
  | result result hresult hid =>
    obtain ⟨x, hx, hxid, hrevision, halone, hmatches, -⟩ := ho.results result hresult
    obtain rfl := Rows.eq_of_mem h.ids hx hrow (hxid.trans hid)
    refine Or.inr ⟨hrevision, .record x result now hmatches, ?_, fun _ => recordedCalls_eq_zero.2 fun y hy => ?_⟩
    · rw [terminalize_llmCallCount]
      cases hmatches with
      | uncalled hstatus hcount => exact Or.inl (hcount.trans ((h.rows x hx).shape.uncalled (Or.inl hstatus)).symm)
      | failed _ hcount => exact Or.inl hcount
      | completed _ hcount => exact Or.inl hcount
      | unrecorded _ hrow hcount hend =>
        refine Or.inr ⟨⟨?_, ?_, ?_⟩, hrow⟩
        · rw [terminalize_status, resolve_unrecorded hend]
        · rw [terminalize_llmCallCount, hcount]
        · rw [terminalize_validationOutcome]
          rcases hend with hend | hend
          · exact Or.inl (by rw [hend])
          · exact Or.inr (by rw [hend])
    · -- only the worker itself could be about to call, and it has finished
      by_contra hyrec
      have hyrec : y.hasRecorded x.stepId = true := by simpa using hyrec
      obtain rfl := Rows.eq_of_mem h.workers hy hw (halone y hy (hid ▸ hxid ▸ hyrec))
      rw [hasRecorded_eq_false (fun _ _ heq => by rw [hphase] at heq; cases heq)] at hyrec
      cases hyrec

theorem commit_inv (h : Inv M s) (hw : w ∈ s.workers) (hlive : w.live = true) (now : Instant) : Inv M (s.commit now w) := by
  unfold State.commit
  split_ifs with hphase
  · rcases returns_or_raises (commitSuccessfulExtract w.claim now w.results) s.db with ⟨u, db', hr⟩ | ⟨e, db', hr⟩
    · rw [State.transact, show commitSuccessfulExtract _ _ _ _ = _ from hr]
      obtain ⟨hholds, hqueue, hclosed, hrows⟩ :=
        commit_returns h.queue (fun hholds => (h.owner w hw hlive hholds).distinct) h.ids hr
      have ho := h.owner w hw hlive hholds
      exact (h.write hqueue hclosed (forall₂_recorded h hw hphase ho hrows)).stop hw hlive
    · rw [State.transact, show commitSuccessfulExtract _ _ _ _ = _ from hr]
      exact h.stop hw hlive
  · exact h

/-! ## Runs -/

/-- a worker begins with work that it has claimed -/
theorem inv_start (h : Inv M s) {work : IntakeWork} {leaseOwner : String} {snapshot : MapSnapshot} {fenceToken : Uuid}
    (hfence : fenceToken < s.drawn) (hnew : fenceToken ∉ s.workers.map MapWorker.fenceToken) :
    Inv M { s with workers := s.workers ++ [MapWorker.start work leaseOwner fenceToken snapshot] } := by
  set w := MapWorker.start work leaseOwner fenceToken snapshot with hw
  obtain ⟨hcurrent, hadmitted, hrec, hphase⟩ := idle_of_nextPhase (w := w) rfl
  have hcount (id : Uuid) : { s with workers := s.workers ++ [w] }.recordedCalls id = s.recordedCalls id := by
    simp only [State.recordedCalls, List.countP_append, List.countP_singleton, hrec id]
    rfl
  have hhas (x : MapWorker) (id : Uuid) (P : NormalizationStep → Prop) (hx : Has s x id P) :
      Has { s with workers := s.workers ++ [w] } x id P := by
    refine hx.transport rfl (fun y hy _ _ => hy) fun y hy hyrec _ => ?_
    rcases List.mem_append.1 hy with hy | hy
    · exact ⟨y, hy, hyrec, rfl⟩
    · rw [List.mem_singleton.1 hy, hrec id] at hyrec
      cases hyrec
  refine ⟨h.queue, h.fences, ?_, h.ids, h.names, fun row hrow => ?_, fun call hcall => ⟨?_, (h.calls call hcall).row⟩,
    fun x hx => ?_, fun x hx hxlive hxholds => ?_⟩
  · show ((s.workers ++ [w]).map MapWorker.fenceToken).Nodup
    rw [List.map_append, List.map_singleton, ← List.concat_eq_append, List.nodup_concat]
    exact ⟨hnew, h.workers⟩
  · have hr := h.rows row hrow
    exact ⟨hr.drawn, hr.shape, (hcount row.stepId).symm ▸ hr.counted, hr.closed, fun ht hne => (hcount _).trans (hr.settled ht hne)⟩
  · show call.fenceToken ∈ (s.workers ++ [w]).map MapWorker.fenceToken
    rw [List.map_append]
    exact List.mem_append_left _ (h.calls call hcall).fence
  · rcases List.mem_append.1 hx with hx | hx
    · exact (h.ok x hx).transport (le_refl _) fun row hrow => ⟨row, hrow, rfl, rfl⟩
    · rw [List.mem_singleton.1 hx]
      refine ⟨hfence, snapshot.distinct, fun id hid => ?_, fun ha => ?_⟩
      · rw [hcurrent] at hid
        cases hid
      · rw [hadmitted] at ha
        cases ha
  · rcases List.mem_append.1 hx with hx | hx
    · exact (h.owner x hx hxlive hxholds).transport rfl rfl rfl (hhas x)
    · rw [List.mem_singleton.1 hx]
      exact ⟨hphase _, fun r hr => absurd hr List.not_mem_nil, List.nodup_nil⟩

/-- a claim, by a worker or not -/
theorem claim_step {maxAttempts : Int} (h : Inv maxAttempts.toNat s) (r : ClaimRequest) :
    QueueStep maxAttempts.toNat (some s.drawn) s.db.queue
      (claimNextEligibleIntakeWork maxAttempts { r with fenceToken := s.drawn } s.db.queue).2 := by
  rcases returns_or_raises (claimNextEligibleIntakeWork maxAttempts { r with fenceToken := s.drawn }) s.db.queue with
    ⟨x, queue, hr⟩ | ⟨e, queue, hr⟩
  · rw [show claimNextEligibleIntakeWork _ _ _ = _ from hr]
    exact .of_progress h.queue (claim_returns h.queue hr) (claim_fences hr).1
  · rw [show claimNextEligibleIntakeWork _ _ _ = _ from hr, unchanged_claim _ _ _ e queue hr]
    exact .refl h.queue _

theorem claim_inv {maxAttempts : Int} (h : Inv maxAttempts.toNat s) (r : ClaimRequest) (snapshot : MapSnapshot) :
    Inv maxAttempts.toNat (s.claim maxAttempts r snapshot) := by
  have hq := h.withQueue (claim_step h r)
  unfold State.claim
  split
  · rename_i claimed queue heq
    rw [heq] at hq
    split_ifs
    · obtain ⟨-, hclaimed⟩ := claim_fences (show Returns _ _ _ _ from heq)
      rw [hclaimed claimed rfl]
      refine inv_start hq (Nat.lt_succ_self _) fun hmem => ?_
      obtain ⟨w, hw, hfence⟩ := List.mem_map.1 hmem
      have hlt := (h.ok w hw).fence
      rw [hfence] at hlt
      exact absurd hlt (lt_irrefl _)
    · exact hq
  · rename_i x queue _ heq
    rw [heq] at hq
    exact hq

/-- an event of a worker keeps what its own function keeps -/
theorem advance_cases {P : State → Prop} (hs : P s) {fenceToken : Uuid} {f : MapWorker → State}
    (hf : ∀ w ∈ s.workers, w.live = true → P (f w)) : P (s.advance fenceToken f) := by
  unfold State.advance
  split
  · exact hs
  · rename_i w hfound
    split_ifs with hlive
    · exact hf w (Rows.mem_of_get? hfound).1 hlive
    · exact hs

/-- **One event** keeps the invariant. -/
theorem step_inv {maxAttempts : Int} (h : Inv maxAttempts.toNat s) (e : Event) :
    Inv maxAttempts.toNat (step maxAttempts s e) := by
  cases e with
  | operate a => exact h.withQueue (queueStep h.queue s.drawn a)
  | claim r snapshot => exact claim_inv h r snapshot
  | check fenceToken now => exact advance_cases h fun w hw hlive => check_inv h hw hlive now
  | reserve fenceToken now => exact advance_cases h fun w hw hlive => reserve_inv h hw hlive now
  | record fenceToken now => exact advance_cases h fun w hw hlive => record_inv h hw hlive now
  | call fenceToken => exact advance_cases h fun w hw hlive => call_inv h hw hlive
  | reply fenceToken r => exact advance_cases h fun w hw hlive => reply_inv h hw hlive r
  | crash fenceToken => exact advance_cases h fun w hw hlive => h.stop hw hlive
  | commit fenceToken now => exact advance_cases h fun w hw hlive => commit_inv h hw hlive now

theorem inv_init (M : Nat) : Inv M {} where
  queue := LeaseQueue.inv_empty _ _
  fences key fence hholds := by
    obtain ⟨work, hwork, -⟩ := hholds
    exact absurd hwork List.not_mem_nil
  workers := List.nodup_nil
  ids := List.nodup_nil
  names := List.nodup_nil
  rows row hrow := absurd hrow List.not_mem_nil
  calls call hcall := absurd hcall List.not_mem_nil
  ok w hw := absurd hw List.not_mem_nil
  owner w hw := absurd hw List.not_mem_nil

theorem run_inv (maxAttempts : Int) (es : List Event) : Inv maxAttempts.toNat (reached maxAttempts es) :=
  Runs.run_inv (P := Inv maxAttempts.toNat) (fun _ e h => step_inv h e) (inv_init _) es

end AtoService.IntakeMap
