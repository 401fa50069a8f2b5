/-
The contract of the job queue, in every run of claims, heartbeats, completions, failures and recoveries by any workers.

`Action` adds what the rest of the service does meanwhile: it starts runs with their jobs, records completed steps and
moves runs by legal transitions. `step` keeps what an operation has written when it raises. No order of times is assumed,
and the budget of attempts may differ from call to call.

- `unchanged_perform`: an operation that raises has written nothing.
- `step_keeps`, `run_keeps`: every operation, and so every run, keeps the joint invariant and what `Evolves` says.
- `job_queue_contract`: the contract.
-/
import AtoService.Jobs.Progress
import AtoService.Lib.Runs

namespace AtoService.Jobs

open Session LeaseQueue Checks

variable {M : Nat} {C : Uuid → Prop} {db db' : Db}

/-! ## Operations that raise -/

theorem unchanged_heartbeatJob (r : HeartbeatRequest) (db : Db) : Unchanged (heartbeatJob r) db := by
  refine unchanged_bind (readOnly_lift _) fun now _ => unchanged_bind (readOnly_lift _) fun _ _ =>
    unchanged_bind (readOnly_lift _) fun _ _ => unchanged_bind (readOnly_loadLeasedJob _ _ _) fun job _ => ?_
  exact (never_modify _ _).unchanged

theorem unchanged_completeJob (r : CompleteRequest) (db : Db) : Unchanged (completeJob r) db := by
  refine unchanged_bind (readOnly_lift _) fun now _ => unchanged_bind (readOnly_lift _) fun _ _ =>
    unchanged_bind (readOnly_loadLeasedJob _ _ _) fun job _ => unchanged_bind (readOnly_read _) fun completed _ =>
    unchanged_bind (readOnly_ensure _ _) fun _ _ => unchanged_bind (readOnly_loadActiveAttempt _) fun active _ =>
    unchanged_bind (readOnly_orRaise _ _) fun attempt _ => ?_
  exact (never_bind (never_modify _ _) fun _ _ _ => never_modify _ _).unchanged

theorem never_transitionRunToFailed {run : Run} (hrun : run.status = .running) (now : Instant) (errorCode : String)
    (db : Db) : Never (transitionRunToFailed run now errorCode) db := by
  intro e db' h
  simp [transitionRunToFailed, hrun, RunStatus.terminal, requireRunTransition, isLegalRunTransition, raises_bind,
    Results.ensure] at h

/-- a job that fails has a run, and a running run may fail -/
theorem never_failJob (h : DbOk M db) (r : FailureRequest) (now : Instant) (canReclaim allowed : Bool) {job : Job}
    (hjob : job ∈ db.jobs) (attempt : JobAttempt) : Never (failJob r now canReclaim allowed job attempt) db := by
  refine never_bind (never_modify _ _) fun _ db₁ h₁ => never_bind (never_modify _ _) fun _ db₂ h₂ =>
    never_bind (never_read _ _) fun found db₃ h₃ => ?_
  obtain rfl := returns_modify.1 h₁
  obtain rfl := returns_modify.1 h₂
  obtain ⟨rfl, rfl⟩ := returns_read.1 h₃
  obtain ⟨run, hrun⟩ := Option.isSome_iff_exists.1 (h.run?_isSome hjob)
  intro e db' hraises
  rcases raises_bind.1 hraises with hnone | ⟨run', db₄, hsome, hfail⟩
  · rw [raises_orRaise] at hnone
    exact absurd (hrun.symm.trans hnone.1) (Option.some_ne_none _)
  · split_ifs at hfail with hrunning
    · exact never_transitionRunToFailed hrunning _ _ _ e db' hfail
    · exact raises_pure.1 hfail

theorem unchanged_recordJobFailure (h : DbOk M db) (r : FailureRequest) : Unchanged (recordJobFailure r) db := by
  refine unchanged_bind (readOnly_lift _) fun now _ => unchanged_bind (readOnly_lift _) fun _ _ =>
    unchanged_bind (readOnly_lift _) fun _ _ => unchanged_bind (readOnly_lift _) fun _ _ =>
    unchanged_bind (readOnly_lift _) fun deadline _ => unchanged_bind (readOnly_loadLeasedJob _ _ _) fun job hload =>
    unchanged_bind (readOnly_loadActiveAttempt _) fun active _ => unchanged_bind (readOnly_orRaise _ _) fun attempt _ => ?_
  obtain ⟨-, hjob, -, -⟩ := loadLeasedJob_returns hload
  dsimp only
  split_ifs
  · refine unchanged_bind (readOnly_lift _) fun next _ => ?_
    exact (never_bind (never_modify _ _) fun _ _ _ => never_modify _ _).unchanged
  · exact (never_failJob h r now _ _ hjob attempt).unchanged

theorem never_startRun (run : Run) (now : Instant) (db : Db) : Never (startRun run now) db := by
  intro e db' h
  unfold startRun at h
  split_ifs at h with hqueued
  · simp [hqueued, requireRunTransition, isLegalRunTransition, raises_bind, Results.ensure] at h
  · exact raises_pure.1 h

theorem unchanged_claimNextEligibleJob (r : ClaimRequest) (db : Db) : Unchanged (claimNextEligibleJob r) db := by
  refine unchanged_bind (readOnly_lift _) fun now _ => unchanged_bind (readOnly_lift _) fun _ _ =>
    unchanged_bind (readOnly_lift _) fun _ _ => unchanged_bind (readOnly_lift _) fun _ _ =>
    unchanged_bind (readOnly_read _) fun selected _ => ?_
  cases selected with
  | none => exact (never_pure _ _).unchanged
  | some job =>
    have hclaim : Unchanged (claimJob r now job) db := by
      refine unchanged_bind (readOnly_ensure _ _) fun _ _ => unchanged_bind (readOnly_read _) fun found _ =>
        unchanged_bind (readOnly_orRaise _ _) fun run _ => unchanged_bind (readOnly_ensure _ _) fun _ _ =>
        unchanged_bind (readOnly_read _) fun completed _ => unchanged_bind (readOnly_ensure _ _) fun _ _ => ?_
      exact (never_bind (never_startRun run now _) fun _ _ _ => never_bind (never_modify _ _) fun _ _ _ =>
        never_bind (never_modify _ _) fun _ _ _ => never_pure _ _).unchanged
    intro e db' hraises
    rcases raises_bind.1 hraises with hraises | ⟨c, db₁, -, hraises⟩
    · exact hclaim e db' hraises
    · exact absurd hraises (never_pure _ _ e db')

theorem recovery_failRun_running {job : Job} {run : Option Run} {completed : Bool} {attempt : Option JobAttempt}
    {maxAttempts : Int} {run' : Run} (h : recovery job run completed attempt maxAttempts = .failRun run') :
    run'.status = .running := by
  unfold recovery at h
  split at h
  · cases h
  · split at h
    · cases h
    · split_ifs at h with h₁ h₂ h₃ h₄
      rw [← Recovery.failRun.inj h]
      exact not_not.1 h₄

theorem never_recoverSingleExpiredJob (h : DbOk M db) {maxAttempts : Int} {now : Instant} {job : Job}
    (hjob : job ∈ db.jobs) (hexpired : leaseIsExpired job.leaseExpiresAt now = true) :
    Never (recoverSingleExpiredJob now maxAttempts job) db := by
  refine never_bind (never_ensure hexpired _ _) fun _ db₁ h₁ => never_bind (never_read _ _) fun run db₂ h₂ =>
    never_bind (never_read _ _) fun completed db₃ h₃ => ?_
  obtain ⟨-, rfl⟩ := returns_ensure.1 h₁
  obtain ⟨hrun, rfl⟩ := returns_read.1 h₂
  obtain ⟨-, rfl⟩ := returns_read.1 h₃
  refine never_bind (never_loadActiveAttempt h hjob) fun attempt db₄ _ => ?_
  dsimp only
  generalize houtcome : recovery job run completed attempt maxAttempts = outcome
  refine never_bind ?_ fun _ _ _ => never_bind (never_modify _ _) fun _ _ _ => never_bind ?_ fun _ _ _ => never_pure _ _
  · cases attempt with
    | none => exact never_pure _ _
    | some a => exact never_modify _ _
  · cases outcome with
    | failRun run' => exact never_transitionRunToFailed (recovery_failRun_running houtcome) _ _ _
    | reconcile => exact never_pure _ _
    | fail => exact never_pure _ _
    | requeue => exact never_pure _ _

theorem never_recoverJobs {maxAttempts : Int} {now : Instant} {jobs : List Job} (hids : (jobs.map Job.jobId).Nodup)
    (h : DbOk M db)
    (hjobs : ∀ job ∈ jobs, job ∈ db.jobs ∧ job.status = .leased ∧ leaseIsExpired job.leaseExpiresAt now = true) :
    Never (recoverJobs now maxAttempts jobs) db := by
  induction jobs generalizing db with
  | nil => exact never_pure _ _
  | cons job jobs ih =>
    rw [List.map_cons, List.nodup_cons] at hids
    obtain ⟨hjob, hleased, hexpired⟩ := hjobs job List.mem_cons_self
    refine never_bind (never_recoverSingleExpiredJob h hjob hexpired) fun job' db₁ h₁ => ?_
    obtain ⟨hp, hput, hid⟩ := recoverSingleExpiredJob_returns (C := fun _ => False) h hjob hleased h₁
    have hended : job'.status ≠ .leased := by
      simp only [recoverSingleExpiredJob, returns_bind, returns_pure] at h₁
      obtain ⟨_, _, -, _, _, -, _, _, -, _, _, -, _, _, -, _, _, -, _, _, -, rfl, -⟩ := h₁
      exact recovery_ne_leased _
    refine never_bind (never_ensure hended _ _) fun _ db₂ h₂ => ?_
    obtain ⟨-, rfl⟩ := returns_ensure.1 h₂
    refine never_bind (ih hids.2 (h.progress hp) fun j hj => ?_) fun _ _ _ => never_pure _ _
    obtain ⟨hmem, hrest⟩ := hjobs j (List.mem_cons_of_mem _ hj)
    exact ⟨hput ▸ mem_of_batch hid hids.1 hj hmem, hrest⟩

theorem unchanged_recoverExpiredLeases (h : DbOk M db) (r : RecoverRequest) : Unchanged (recoverExpiredLeases r) db := by
  refine unchanged_bind (readOnly_lift _) fun now _ => unchanged_bind (readOnly_lift _) fun _ _ =>
    unchanged_bind (readOnly_lift _) fun _ _ => unchanged_bind (readOnly_read _) fun jobs hjobs => ?_
  obtain ⟨rfl, -⟩ := returns_read.1 hjobs
  refine (never_recoverJobs (Rows.nodup_selected h.queue.keys _ _ _) h fun job hjob => ?_).unchanged
  obtain ⟨hmem, hrec⟩ := Rows.mem_selected hjob
  simp only [recoverable, Bool.and_eq_true, decide_eq_true_eq] at hrec
  refine ⟨hmem, hrec.1.1, ?_⟩
  cases he : job.leaseExpiresAt with
  | none => rfl
  | some e =>
    have hle := hrec.1.2
    rw [he] at hle
    exact hle

/-! ## The rest of the service -/

theorem startAnalysis_returns {runId jobId : Uuid} {stepKey : String} {stepIdempotent : Bool}
    {now : Instant} {u : Unit} (hr : Returns (startAnalysis runId jobId stepKey stepIdempotent now) db u db') :
    runId ∉ db.runs.map Run.runId ∧ jobId ∉ db.jobs.map Job.jobId ∧ db' = { db with
      runs := db.runs ++ [⟨runId, .queued, none, none, 0, none, none⟩]
      jobs := db.jobs ++ [⟨jobId, runId, stepKey, stepIdempotent, .available, 0, now, none, none, none, none⟩] } := by
  simp only [startAnalysis, returns_bind, returns_read, returns_ensure, returns_modify] at hr
  obtain ⟨_, _, ⟨rfl, rfl⟩, _, _, ⟨hrun, rfl⟩, _, _, ⟨rfl, rfl⟩, _, _, ⟨hjob, rfl⟩, rfl⟩ := hr
  exact ⟨hrun, hjob, rfl⟩

theorem DbOk.startAnalysis (h : DbOk M db) {runId jobId : Uuid} (hrun : runId ∉ db.runs.map Run.runId)
    (hjob : jobId ∉ db.jobs.map Job.jobId) (stepKey : String) (stepIdempotent : Bool) (now : Instant) :
    DbOk M { db with
      runs := db.runs ++ [⟨runId, .queued, none, none, 0, none, none⟩]
      jobs := db.jobs ++ [⟨jobId, runId, stepKey, stepIdempotent, .available, 0, now, none, none, none, none⟩] } where
  queue := inv_enqueue h.queue hjob rfl rfl rfl
  runIds := by
    rw [List.map_append, List.nodup_append]
    refine ⟨h.runIds, List.nodup_singleton _, fun k hk k' hk' heq => hrun ?_⟩
    rw [List.map_singleton, List.mem_singleton] at hk'
    rw [← show k = runId from heq.trans hk']
    exact hk
  owned job hmem := by
    rw [List.map_append]
    rcases List.mem_append.1 hmem with hmem | hmem
    · exact List.mem_append_left _ (h.owned job hmem)
    · rw [List.mem_singleton.1 hmem]
      exact List.mem_append_right _ (List.mem_singleton_self _)

theorem transitionRun_returns (h : DbOk M db) {run' : Run} {condition : RunTransitionCondition} {u : Unit}
    (hr : Returns (transitionRun run' condition) db u db') :
    ∃ runs, RunsKept db.runs runs ∧ db' = { db with runs := runs } := by
  simp only [transitionRun, returns_bind, returns_read, returns_orRaise, returns_lift, returns_modify, requireRunTransition,
    Results.ensure_eq_ok] at hr
  obtain ⟨_, _, ⟨rfl, rfl⟩, run, _, ⟨hrun, rfl⟩, _, _, ⟨hlegal, rfl⟩, rfl⟩ := hr
  obtain ⟨hmem, hid⟩ := run?_some hrun
  refine ⟨_, ?_, rfl⟩
  refine RunsKept.put h.runIds hmem hid.symm ?_
  -- no transition leaves a terminal status
  cases hs : run.status <;> rw [hs] at hlegal <;> first | rfl | cases hlegal

/-- writing runs leaves the queue -/
theorem DbOk.runs (h : DbOk M db) {runs : List Run} (hruns : RunsKept db.runs runs) : DbOk M { db with runs := runs } where
  queue := h.queue
  runIds := hruns.runIds ▸ h.runIds
  owned job hjob := by
    rw [hruns.runIds]
    exact h.owned job hjob

/-! ## Runs of the queue -/

inductive Action where
  | claim (r : ClaimRequest)
  | heartbeat (r : HeartbeatRequest)
  | complete (r : CompleteRequest)
  | recordFailure (r : FailureRequest)
  | recover (r : RecoverRequest)
  | startAnalysis (runId jobId : Uuid) (stepKey : String) (stepIdempotent : Bool) (now : Instant)
  | addRunStep (step : RunStep)
  | transitionRun (run : Run) (condition : RunTransitionCondition)
deriving DecidableEq, Repr

def perform : Action → Session Db JobError Unit
  | .claim r => claimNextEligibleJob r >>= fun _ => pure ()
  | .heartbeat r => heartbeatJob r
  | .complete r => completeJob r
  | .recordFailure r => recordJobFailure r
  | .recover r => recoverExpiredLeases r >>= fun _ => pure ()
  | .startAnalysis runId jobId stepKey stepIdempotent now => startAnalysis runId jobId stepKey stepIdempotent now
  | .addRunStep step => addRunStep step
  | .transitionRun run condition => transitionRun run condition

/-- an operation, with what it has written when it raises -/
def step (db : Db) (a : Action) : Db := (perform a db).2

/-- the budget of attempts that a claim is made with -/
def Action.maxAttempts : Action → Nat
  | .claim r => r.maxAttempts.toNat
  | _ => 0

/-- the largest budget of the claims of a run -/
def budget (as : List Action) : Nat := (as.map Action.maxAttempts).foldr max 0

theorem maxAttempts_le_budget {as : List Action} {a : Action} (h : a ∈ as) : a.maxAttempts ≤ budget as := by
  induction as with
  | nil => exact absurd h List.not_mem_nil
  | cons b as ih =>
    rcases List.mem_cons.1 h with rfl | h
    · exact le_max_left _ _
    · exact (ih h).trans (le_max_right _ _)

/-- **An operation that raises** leaves jobs, attempts and runs as they were. -/
theorem unchanged_perform (h : DbOk M db) (a : Action) : Unchanged (perform a) db := by
  have hdiscard {α : Type} {x : Session Db JobError α} (hx : Unchanged x db) :
      Unchanged (x >>= fun _ => pure ()) db := by
    intro e db' hraises
    rcases raises_bind.1 hraises with hraises | ⟨_, _, -, hraises⟩
    · exact hx e db' hraises
    · exact absurd hraises (never_pure _ _ e db')
  cases a with
  | claim r => exact hdiscard (unchanged_claimNextEligibleJob r db)
  | heartbeat r => exact unchanged_heartbeatJob r db
  | complete r => exact unchanged_completeJob r db
  | recordFailure r => exact unchanged_recordJobFailure h r
  | recover r => exact hdiscard (unchanged_recoverExpiredLeases h r)
  | startAnalysis runId jobId stepKey stepIdempotent now =>
    exact unchanged_bind (readOnly_read _) fun _ _ => unchanged_bind (readOnly_ensure _ _) fun _ _ =>
      unchanged_bind (readOnly_read _) fun _ _ => unchanged_bind (readOnly_ensure _ _) fun _ _ =>
      (never_modify _ _).unchanged
  | addRunStep step =>
    exact unchanged_bind (readOnly_read _) fun _ _ => unchanged_bind (readOnly_ensure _ _) fun _ _ =>
      unchanged_bind (readOnly_read _) fun _ _ => unchanged_bind (readOnly_ensure _ _) fun _ _ =>
      (never_modify _ _).unchanged
  | transitionRun run condition =>
    exact unchanged_bind (readOnly_read _) fun _ _ => unchanged_bind (readOnly_orRaise _ _) fun _ _ =>
      unchanged_bind (readOnly_lift _) fun _ _ => (never_modify _ _).unchanged

/-! ## What a run keeps -/

/-- the step of a job is completed -/
def Finished (db : Db) (job : Job) : Prop := completedRunStepExists db.runSteps job.runId job.stepKey = true

/-- how the tables change in a run -/
structure Evolves (db db' : Db) : Prop where
  /-- jobs in a terminal status keep their rows and attempts -/
  final : Final queue (tables db) (tables db')
  terminalRuns : ∀ run ∈ db.runs, run.status.terminal = true → run ∈ db'.runs
  runSteps : ∀ s ∈ db.runSteps, s ∈ db'.runSteps
  /-- a job whose step is completed makes no further attempt, and changes only to end its lease -/
  finished : ∀ job ∈ db.jobs, ∃ job' ∈ db'.jobs, job'.jobId = job.jobId ∧ job'.runId = job.runId ∧
    job'.stepKey = job.stepKey ∧ (Finished db job → job'.attemptCount = job.attemptCount ∧
      (job.status ≠ .leased → job' = job))

theorem Evolves.refl (db : Db) : Evolves db db where
  final := Final.refl _
  terminalRuns _ h _ := h
  runSteps _ h := h
  finished job h := ⟨job, h, rfl, rfl, rfl, fun _ => ⟨rfl, fun _ => rfl⟩⟩

theorem finished_of_subset {db db' : Db} {job job' : Job} (h : Finished db job) (hsteps : ∀ s ∈ db.runSteps, s ∈ db'.runSteps)
    (hrun : job'.runId = job.runId) (hstep : job'.stepKey = job.stepKey) : Finished db' job' := by
  obtain ⟨s, hs, heq⟩ := List.any_eq_true.1 h
  refine List.any_eq_true.2 ⟨s, hsteps s hs, ?_⟩
  rw [hrun, hstep]
  exact heq

theorem Evolves.trans {db db' db'' : Db} (h : Evolves db db') (h' : Evolves db' db'') : Evolves db db'' where
  final := h.final.trans h'.final
  terminalRuns run hrun hterminal := h'.terminalRuns run (h.terminalRuns run hrun hterminal) hterminal
  runSteps s hs := h'.runSteps s (h.runSteps s hs)
  finished job hjob := by
    obtain ⟨j', hj', hid, hrun, hstep, hkeep⟩ := h.finished job hjob
    obtain ⟨j'', hj'', hid', hrun', hstep', hkeep'⟩ := h'.finished j' hj'
    refine ⟨j'', hj'', hid'.trans hid, hrun'.trans hrun, hstep'.trans hstep, fun hfinished => ?_⟩
    obtain ⟨hcount, hsame⟩ := hkeep hfinished
    obtain ⟨hcount', hsame'⟩ := hkeep' (finished_of_subset hfinished h.runSteps hrun hstep)
    refine ⟨hcount'.trans hcount, fun hne => ?_⟩
    have heq := hsame hne
    rw [heq] at hsame'
    exact hsame' hne

theorem Progress.evolves (h : DbOk M db) (hp : Progress M C db db') (hC : ∀ k, C k → Unfinished db k) :
    Evolves db db' where
  final := final_advances hp.queue
  terminalRuns := hp.runs.terminal
  runSteps s hs := hp.runSteps ▸ hs
  finished job hjob := by
    obtain ⟨job', hjob', hid⟩ := hp.queue.row' hjob
    obtain ⟨j, hj, hid', hrun, hstep⟩ := hp.jobs job' hjob'
    have hsame : j = job := Rows.eq_of_mem h.queue.keys hj hjob (hid'.symm.trans hid)
    rw [hsame] at hrun hstep
    refine ⟨job', hjob', hid, hrun, hstep, fun hfinished => ?_⟩
    refine unclaimed_advances hp.queue hjob hjob' hid fun hclaim => ?_
    have hunfinished := hC _ hclaim job hjob rfl
    rw [Finished, hunfinished] at hfinished
    cases hfinished

theorem evolves_runs (db : Db) {runs : List Run} (hruns : RunsKept db.runs runs) : Evolves db { db with runs := runs } where
  final := Final.refl _
  terminalRuns := hruns.terminal
  runSteps _ h := h
  finished job h := ⟨job, h, rfl, rfl, rfl, fun _ => ⟨rfl, fun _ => rfl⟩⟩

theorem chain_evolves (h : DbOk M db) (hc : Chain M (fun _ => False) db db') : Evolves db db' := by
  induction hc with
  | refl => exact Evolves.refl db
  | tail hc hp ih => exact ih.trans (hp.evolves (h.chain hc) fun _ hf => hf.elim)

/-- **One operation** keeps the invariant, whatever the order of the operations before it. -/
theorem step_keeps (h : DbOk M db) {a : Action} (ha : a.maxAttempts ≤ M) : DbOk M (step db a) ∧ Evolves db (step db a) := by
  rcases returns_or_raises (perform a) db with ⟨u, db', hr⟩ | ⟨e, db', hr⟩
  · have hstep : step db a = db' := congrArg Prod.snd hr
    rw [hstep]
    have hprogress (hp : Progress M (fun _ => False) db db') : DbOk M db' ∧ Evolves db db' :=
      ⟨h.progress hp, hp.evolves h fun _ hf => hf.elim⟩
    cases a with
    | claim r =>
      obtain ⟨c, _, hclaim, hpure⟩ := returns_bind.1 hr
      obtain ⟨-, rfl⟩ := returns_pure.1 hpure
      have hM : r.maxAttempts ≤ M := Int.toNat_le.1 ha
      have hp := claimNextEligibleJob_returns h hM hclaim
      exact ⟨h.progress hp, hp.evolves h fun _ hu => hu⟩
    | heartbeat r => exact hprogress (heartbeatJob_returns h hr)
    | complete r => exact hprogress (completeJob_returns h hr)
    | recordFailure r => exact hprogress (recordJobFailure_returns h hr)
    | recover r =>
      obtain ⟨ids, _, hrecover, hpure⟩ := returns_bind.1 hr
      obtain ⟨-, rfl⟩ := returns_pure.1 hpure
      have hc := recoverExpiredLeases_returns (C := fun _ => False) h hrecover
      exact ⟨h.chain hc, chain_evolves h hc⟩
    | startAnalysis runId jobId stepKey stepIdempotent now =>
      obtain ⟨hrun, hjob, rfl⟩ := startAnalysis_returns hr
      refine ⟨h.startAnalysis hrun hjob stepKey stepIdempotent now, Final.enqueue _ _, fun run hmem _ => ?_, fun _ hs => hs,
        fun job hmem => ?_⟩
      · exact List.mem_append_left _ hmem
      · exact ⟨job, List.mem_append_left _ hmem, rfl, rfl, rfl, fun _ => ⟨rfl, fun _ => rfl⟩⟩
    | addRunStep s =>
      simp only [perform, addRunStep, returns_bind, returns_read, returns_ensure, returns_modify] at hr
      obtain ⟨_, _, ⟨rfl, rfl⟩, _, _, ⟨-, rfl⟩, _, _, ⟨-, rfl⟩, _, _, ⟨-, rfl⟩, rfl⟩ := hr
      exact ⟨⟨h.queue, h.runIds, h.owned⟩, Final.refl _, fun _ hmem _ => hmem, fun _ hs => List.mem_append_left _ hs,
        fun job hmem => ⟨job, hmem, rfl, rfl, rfl, fun _ => ⟨rfl, fun _ => rfl⟩⟩⟩
    | transitionRun run condition =>
      obtain ⟨runs, hruns, rfl⟩ := transitionRun_returns h hr
      exact ⟨h.runs hruns, evolves_runs db hruns⟩
  · have hstep : step db a = db' := congrArg Prod.snd hr
    rw [hstep, unchanged_perform h a e db' hr]
    exact ⟨h, Evolves.refl db⟩

theorem run_keeps (h : DbOk M db) {l : List Action} (ha : ∀ a ∈ l, a.maxAttempts ≤ M) :
    DbOk M (Runs.run step db l) ∧ Evolves db (Runs.run step db l) := by
  induction l generalizing db with
  | nil => exact ⟨h, Evolves.refl db⟩
  | cons a l ih =>
    obtain ⟨hok, hev⟩ := step_keeps h (ha a List.mem_cons_self)
    obtain ⟨hok', hev'⟩ := ih hok fun b hb => ha b (List.mem_cons_of_mem _ hb)
    exact ⟨hok', hev.trans hev'⟩

/-! ## The contract -/

/-- what holds of the tables at any time -/
structure Contract (M : Nat) (db : Db) : Prop where
  leased : ∀ job ∈ db.jobs,
    job.status = .leased ↔ job.leaseOwner.isSome ∧ job.leaseExpiresAt.isSome ∧ job.heartbeatAt.isSome
  unheld : ∀ job ∈ db.jobs,
    job.status ≠ .leased → job.leaseOwner = none ∧ job.leaseExpiresAt = none ∧ job.heartbeatAt = none
  numbered : ∀ job ∈ db.jobs,
    (db.jobAttempts.filter fun a => a.jobId = job.jobId).map JobAttempt.attemptNumber = List.range' 1 job.attemptCount
  bounded : ∀ job ∈ db.jobs, job.attemptCount ≤ M
  active : ∀ a ∈ db.jobAttempts, a.status = .active →
    ∃ job ∈ db.jobs, job.jobId = a.jobId ∧ job.status = .leased ∧ job.leaseOwner = some a.leaseOwner
  single : ∀ a ∈ db.jobAttempts, ∀ a' ∈ db.jobAttempts, a.status = .active → a'.status = .active → a.jobId = a'.jobId →
    a = a'

theorem contract_of_ok (h : DbOk M db) : Contract M db := by
  have hunheld : ∀ job ∈ db.jobs, job.status ≠ .leased →
      job.leaseOwner = none ∧ job.leaseExpiresAt = none ∧ job.heartbeatAt = none := fun job hjob hne =>
    unheld_iff.1 ((h.queue.entries job hjob).unheld hne)
  refine ⟨fun job hjob => ⟨fun hl => ?_, fun hset => ?_⟩, hunheld, fun job hjob => (h.queue.entries job hjob).numbered,
    fun job hjob => (h.queue.entries job hjob).bounded, fun a ha hactive => ?_, fun a ha a' ha' hactive hactive' heq => ?_⟩
  · have hheld := (h.queue.entries job hjob).held hl
    rw [holder_def] at hheld
    split_ifs at hheld with hset
    · exact ⟨hheld, hset⟩
    · cases hheld
  · by_contra hne
    rw [(hunheld job hjob hne).1] at hset
    cases hset.1
  · obtain ⟨job, hjob, hid⟩ := List.mem_map.1 (h.queue.owned a ha)
    have hmem : a ∈ attemptsOf queue (tables db) (queue.rowKey job) := (mem_attemptsOf queue).2 ⟨ha, hid.symm⟩
    obtain ⟨hl, hholder⟩ := (h.queue.entries job hjob).active a hmem (decide_eq_true hactive)
    refine ⟨job, hjob, hid, hl, ?_⟩
    rw [holder_def] at hholder
    split_ifs at hholder
    exact hholder
  · obtain ⟨job, hjob, hid⟩ := List.mem_map.1 (h.queue.owned a ha)
    exact (h.queue.entries job hjob).single a ((mem_attemptsOf queue).2 ⟨ha, hid.symm⟩) a'
      ((mem_attemptsOf queue).2 ⟨ha', heq.symm.trans hid.symm⟩) (decide_eq_true hactive) (decide_eq_true hactive')

theorem dbOk_empty (M : Nat) : DbOk M {} where
  queue := inv_empty M 0
  runIds := List.nodup_nil
  owned _ h := absurd h List.not_mem_nil

/-- **The job queue** after every sequence of operations: the joint invariant, what later operations keep, and that an
operation that raises has written nothing. -/
theorem job_queue_contract (as bs : List Action) :
    Contract (budget as) (Runs.run step {} as) ∧ Evolves (Runs.run step {} as) (Runs.run step {} (as ++ bs)) ∧
      ∀ a, Unchanged (perform a) (Runs.run step {} as) := by
  have has := run_keeps (dbOk_empty (budget as)) fun a ha => maxAttempts_le_budget ha
  refine ⟨contract_of_ok has.1, ?_, fun a => unchanged_perform has.1 a⟩
  have hall := run_keeps (dbOk_empty (budget (as ++ bs))) (l := as) fun a ha =>
    maxAttempts_le_budget (List.mem_append_left bs ha)
  rw [Runs.run_append]
  exact (run_keeps hall.1 fun a ha => maxAttempts_le_budget (List.mem_append_right as ha)).2

end AtoService.Jobs
