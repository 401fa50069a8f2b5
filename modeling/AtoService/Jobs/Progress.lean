/-
What the operations of the job queue write.

A job's row and its attempts are read as a lease queue, `queue`. `Progress` is an operation that goes through: every job
moves as a lease queue allows, runs that are terminal keep their rows, steps stay.

- `progress_put`, `progress_settle`: an operation that writes one job, and at most one attempt and one open run.
- `heartbeatJob_returns`, `completeJob_returns`, `recordJobFailure_returns`, `claimNextEligibleJob_returns`,
  `recoverExpiredLeases_returns`: each operation makes progress; only a claim adds an attempt, to a job whose step is not
  completed.
-/
import AtoService.Jobs.Queue

namespace AtoService.Jobs

open Session LeaseQueue Checks

/-! ## The queue of the job tables -/

/-- how a job and its attempts are read as a queue; the holder of a lease is its owner -/
def queue : Shape Uuid String Job JobAttempt where
  rowKey := Job.jobId
  status := Job.status
  attemptCount := Job.attemptCount
  holder job := if job.leaseExpiresAt.isSome ∧ job.heartbeatAt.isSome then job.leaseOwner else none
  unheld job := job.leaseOwner.isNone && job.leaseExpiresAt.isNone && job.heartbeatAt.isNone
  owner := JobAttempt.jobId
  number := JobAttempt.attemptNumber
  active a := a.status = .active
  attemptedBy := JobAttempt.leaseOwner

def tables (db : Db) : Tables Job JobAttempt := ⟨db.jobs, db.jobAttempts⟩

structure DbOk (M : Nat) (db : Db) : Prop where
  queue : Inv queue M 0 (tables db)
  runIds : (db.runs.map Run.runId).Nodup
  owned : ∀ job ∈ db.jobs, job.runId ∈ db.runs.map Run.runId

/-- runs keep their identifiers, and the terminal ones their rows -/
structure RunsKept (runs runs' : List Run) : Prop where
  runIds : runs'.map Run.runId = runs.map Run.runId
  terminal : ∀ run ∈ runs, run.status.terminal = true → run ∈ runs'

theorem RunsKept.refl (runs : List Run) : RunsKept runs runs := ⟨rfl, fun _ h _ => h⟩

/-- a run that is not terminal is written -/
theorem RunsKept.put {runs : List Run} (hids : (runs.map Run.runId).Nodup) {run run' : Run} (hrun : run ∈ runs)
    (hid : run'.runId = run.runId) (hopen : run.status.terminal = false) : RunsKept runs (Rows.put Run.runId run' runs) where
  runIds := Rows.keys_put run' runs
  terminal r hr hterminal := by
    have hmem : run'.runId ∈ runs.map Run.runId := hid ▸ List.mem_map_of_mem hrun
    refine (Rows.mem_put hmem).2 (Or.inr ⟨hr, fun heq => ?_⟩)
    rw [Rows.eq_of_mem hids hr hrun (heq.trans hid), hopen] at hterminal
    cases hterminal

/-- what an operation does to the tables; `C k`: it may claim the job `k` -/
structure Progress (M : Nat) (C : Uuid → Prop) (db db' : Db) : Prop where
  queue : Advances queue M 0 C (tables db) (tables db')
  runs : RunsKept db.runs db'.runs
  jobs : ∀ job' ∈ db'.jobs, ∃ job ∈ db.jobs, job'.jobId = job.jobId ∧ job'.runId = job.runId ∧ job'.stepKey = job.stepKey
  runSteps : db'.runSteps = db.runSteps

variable {M : Nat} {C : Uuid → Prop} {db db' : Db}

theorem DbOk.progress (h : DbOk M db) (hp : Progress M C db db') : DbOk M db' where
  queue := inv_advances h.queue hp.queue
  runIds := hp.runs.runIds ▸ h.runIds
  owned job' hjob' := by
    obtain ⟨job, hjob, -, hrun, -⟩ := hp.jobs job' hjob'
    rw [hp.runs.runIds, hrun]
    exact h.owned job hjob

/-- **An operation on one job**: it writes the job, at most one attempt, and a run that is not terminal. -/
theorem progress_put {job j : Job} (hjob : job ∈ db.jobs) (hid : j.jobId = job.jobId)
    (hrun : j.runId = job.runId) (hstep : j.stepKey = job.stepKey) {runs : List Run} (hruns : RunsKept db.runs runs)
    {as : List JobAttempt} (ha : Advances queue M 0 C (tables db) ⟨Rows.put Job.jobId j db.jobs, as⟩) :
    Progress M C db { db with runs := runs, jobs := Rows.put Job.jobId j db.jobs, jobAttempts := as } where
  queue := ha
  runs := hruns
  jobs k hk := by
    have hmem : j.jobId ∈ db.jobs.map Job.jobId := hid ▸ List.mem_map_of_mem hjob
    rcases (Rows.mem_put hmem).1 hk with rfl | ⟨hk, -⟩
    · exact ⟨job, hjob, hid, hrun, hstep⟩
    · exact ⟨k, hk, rfl, rfl, rfl⟩
  runSteps := rfl

/-! ## What the operations read -/

theorem run?_some {runId : Uuid} {run : Run} (hrun : db.run? runId = some run) : run ∈ db.runs ∧ run.runId = runId :=
  Rows.mem_of_get? hrun

/-- a job's run exists -/
theorem DbOk.run?_isSome (h : DbOk M db) {job : Job} (hjob : job ∈ db.jobs) : (db.run? job.runId).isSome :=
  Rows.get?_isSome.2 (h.owned job hjob)

/-- the active attempt of a job, if there is one -/
theorem loadActiveAttempt_returns {jobId : Uuid} {x : Option JobAttempt}
    (h : Returns (loadActiveAttemptForUpdate jobId) db x db') :
    db' = db ∧ (∀ a, x = some a → a ∈ attemptsOf queue (tables db) jobId ∧ queue.active a = true) ∧
      (x = none → ∀ a ∈ attemptsOf queue (tables db) jobId, queue.active a = false) := by
  simp only [loadActiveAttemptForUpdate, returns_bind, returns_read, returns_scalarOneOrNone] at h
  obtain ⟨as, _, ⟨rfl, rfl⟩, hlist, rfl⟩ := h
  have hmem : ∀ a, a ∈ x.toList ↔ a ∈ attemptsOf queue (tables db) jobId ∧ queue.active a = true := by
    intro a
    rw [← hlist, List.mem_filter, mem_attemptsOf]
    simp [queue, tables, and_assoc]
  refine ⟨rfl, fun a ha => (hmem a).1 (by rw [ha]; exact List.mem_singleton_self a), fun hnone a ha => ?_⟩
  by_contra hactive
  have := (hmem a).2 ⟨ha, by simpa using hactive⟩
  rw [hnone] at this
  exact absurd this List.not_mem_nil

/-- a job has at most one active attempt -/
theorem never_loadActiveAttempt (h : DbOk M db) {job : Job} (hjob : job ∈ db.jobs) :
    Never (loadActiveAttemptForUpdate job.jobId) db := by
  intro e db' hraises
  simp only [loadActiveAttemptForUpdate, raises_bind, raises_read, returns_read, raises_scalarOneOrNone, false_or] at hraises
  obtain ⟨as, _, ⟨rfl, rfl⟩, hmany, -⟩ := hraises
  have hsub : (db.jobAttempts.filter fun a => a.jobId = job.jobId && a.status = .active) =
      (attemptsOf queue (tables db) job.jobId).filter queue.active := by
    rw [attemptsOf, List.filter_filter]
    exact List.filter_congr fun a _ => Bool.and_comm _ _
  rw [hsub] at hmany
  exact absurd (h.queue.entries job hjob).active_le_one (Nat.not_le.2 hmany)

theorem readOnly_loadActiveAttempt (jobId : Uuid) : ReadOnly (loadActiveAttemptForUpdate jobId) :=
  readOnly_bind (readOnly_read _) fun _ => readOnly_scalarOneOrNone _ _

theorem readOnly_loadLeasedJob (jobId : Uuid) (leaseOwner : String) (now : Instant) :
    ReadOnly (loadLeasedJob jobId leaseOwner now) :=
  readOnly_bind (readOnly_read _) fun _ => readOnly_bind (readOnly_orRaise _ _) fun _ =>
    readOnly_bind (readOnly_ensure _ _) fun _ => readOnly_pure _

theorem loadLeasedJob_returns {jobId : Uuid} {leaseOwner : String} {now : Instant} {job : Job}
    (h : Returns (loadLeasedJob jobId leaseOwner now) db job db') :
    db' = db ∧ job ∈ db.jobs ∧ job.jobId = jobId ∧ validLease job leaseOwner now := by
  simp only [loadLeasedJob, returns_bind, returns_read, returns_orRaise, returns_ensure, returns_pure] at h
  obtain ⟨found, _, ⟨rfl, rfl⟩, job', _, ⟨hfound, rfl⟩, _, _, ⟨hvalid, rfl⟩, rfl, rfl⟩ := h
  obtain ⟨hmem, hid⟩ := Rows.mem_of_get? hfound
  exact ⟨rfl, hmem, hid, hvalid⟩

/-! ## What the operations write -/

theorem holder_setLeaseFields (job : Job) (leaseOwner : String) (now : Instant) (leaseSeconds : Int) :
    queue.holder (setLeaseFields job leaseOwner now leaseSeconds) = some leaseOwner := rfl

theorem holder_def (job : Job) : queue.holder job =
    if job.leaseExpiresAt.isSome ∧ job.heartbeatAt.isSome then job.leaseOwner else none := rfl

theorem unheld_iff {job : Job} :
    queue.unheld job = true ↔ job.leaseOwner = none ∧ job.leaseExpiresAt = none ∧ job.heartbeatAt = none := by
  simp [queue, and_assoc]

/-- the holder of a lease that is accepted -/
theorem holder_eq (h : DbOk M db) {job : Job} (hjob : job ∈ db.jobs) {leaseOwner : String} {now : Instant}
    (hvalid : validLease job leaseOwner now) : queue.holder job = some leaseOwner := by
  have hheld := (h.queue.entries job hjob).held hvalid.1
  rw [holder_def] at hheld ⊢
  split_ifs at hheld ⊢ with hset
  · exact hvalid.2.1
  · cases hheld

theorem heartbeatJob_returns (h : DbOk M db) {r : HeartbeatRequest} {u : Unit}
    (hr : Returns (heartbeatJob r) db u db') : Progress M C db db' := by
  simp only [heartbeatJob, returns_bind, returns_lift, returns_modify] at hr
  obtain ⟨now, _, ⟨-, rfl⟩, _, _, ⟨-, rfl⟩, _, _, ⟨-, rfl⟩, job, db₁, hload, rfl⟩ := hr
  obtain ⟨rfl, hjob, -, hvalid⟩ := loadLeasedJob_returns hload
  refine progress_put hjob (j := setLeaseFields job r.leaseOwner now r.leaseSeconds) rfl rfl rfl (RunsKept.refl _)
    (advances_extend h.queue hjob rfl hvalid.1 hvalid.1 rfl ?_)
  exact (holder_setLeaseFields job _ _ _).trans (holder_eq h hjob hvalid).symm

/-- the end of a job's lease, with the end of its active attempt -/
theorem progress_settle (h : DbOk M db) {job j : Job} (hjob : job ∈ db.jobs) (hleased : job.status = .leased)
    (hid : j.jobId = job.jobId) (hrun : j.runId = job.runId) (hstep : j.stepKey = job.stepKey)
    (hended : j.status ≠ .leased) (hunheld : queue.unheld j = true) (hcount : j.attemptCount = job.attemptCount)
    {runs : List Run} (hruns : RunsKept db.runs runs)
    {a b : JobAttempt} (ha : a ∈ attemptsOf queue (tables db) job.jobId) (hactive : queue.active a = true)
    (howner : b.jobId = a.jobId) (hnumber : b.attemptNumber = a.attemptNumber) (hdone : queue.active b = false) :
    Progress M C db { db with
      runs := runs, jobs := Rows.put Job.jobId j db.jobs, jobAttempts := Rows.put attemptKey b db.jobAttempts } :=
  progress_put hjob hid hrun hstep hruns (advances_settle h.queue hjob hid hleased hended hunheld hcount
    (fun _ hpos => absurd hpos (by decide)) ha hactive howner hnumber hdone)

theorem completeJob_returns (h : DbOk M db) {r : CompleteRequest} {u : Unit}
    (hr : Returns (completeJob r) db u db') : Progress M C db db' := by
  simp only [completeJob, returns_bind, returns_lift, returns_modify, returns_read, returns_ensure, returns_orRaise] at hr
  obtain ⟨now, _, ⟨-, rfl⟩, _, _, ⟨-, rfl⟩, job, db₁, hload, completed, _, ⟨-, rfl⟩, _, _, ⟨-, rfl⟩, active, db₂, hactive,
    a, _, ⟨hsome, rfl⟩, _, _, rfl, rfl⟩ := hr
  obtain ⟨rfl, hjob, hid, hvalid⟩ := loadLeasedJob_returns hload
  obtain ⟨rfl, ha, -⟩ := loadActiveAttempt_returns hactive
  obtain ⟨hmem, hact⟩ := ha a hsome
  rw [← hid] at hmem
  exact progress_settle h hjob hvalid.1 (j := clearLeaseFields { job with status := .completed, lastErrorCode := none })
    rfl rfl rfl (fun hs => by cases hs) rfl rfl (RunsKept.refl _) hmem hact (b := succeededAttempt a now)
    rfl rfl rfl

theorem transitionRunToFailed_returns (h : DbOk M db) {run : Run} (hrun : run ∈ db.runs) {now : Instant}
    {errorCode : String} {u : Unit} (hr : Returns (transitionRunToFailed run now errorCode) db u db') :
    ∃ runs, RunsKept db.runs runs ∧ db' = { db with runs := runs } := by
  unfold transitionRunToFailed at hr
  split_ifs at hr with hterminal
  · obtain ⟨-, rfl⟩ := returns_pure.1 hr
    exact ⟨db.runs, RunsKept.refl _, rfl⟩
  · simp only [returns_bind, returns_lift, returns_modify] at hr
    obtain ⟨_, _, ⟨-, rfl⟩, rfl⟩ := hr
    refine ⟨_, ?_, rfl⟩
    exact RunsKept.put h.runIds hrun rfl (Bool.eq_false_iff.2 hterminal)

theorem retryJob_returns (h : DbOk M db) {r : FailureRequest} {now : Instant}
    {deadline : Option Instant} {job : Job} (hjob : job ∈ db.jobs) (hleased : job.status = .leased)
    {a : JobAttempt} (ha : a ∈ attemptsOf queue (tables db) job.jobId) (hactive : queue.active a = true) {u : Unit}
    (hr : Returns (retryJob r now deadline job a) db u db') : Progress M C db db' := by
  simp only [retryJob, returns_bind, returns_lift, returns_modify] at hr
  obtain ⟨next, _, ⟨-, rfl⟩, _, _, rfl, rfl⟩ := hr
  exact progress_settle h hjob hleased (j := clearLeaseFields { job with
      lastErrorCode := some r.errorCode, status := .available, availableAt := next }) rfl rfl rfl (fun hs => by cases hs)
    rfl rfl (RunsKept.refl _) ha hactive (b := failedAttempt a now r.errorCode r.transportRetryable) rfl rfl rfl

theorem failJob_returns (h : DbOk M db) {r : FailureRequest} {now : Instant} {canReclaim allowed : Bool} {job : Job}
    (hjob : job ∈ db.jobs) (hleased : job.status = .leased) {a : JobAttempt}
    (ha : a ∈ attemptsOf queue (tables db) job.jobId) (hactive : queue.active a = true) {u : Unit}
    (hr : Returns (failJob r now canReclaim allowed job a) db u db') : Progress M C db db' := by
  simp only [failJob, returns_bind, returns_modify, returns_read, returns_orRaise] at hr
  obtain ⟨_, _, rfl, _, _, rfl, found, _, ⟨rfl, rfl⟩, run, _, ⟨hrun, rfl⟩, hr⟩ := hr
  have hsettle (runs : List Run) (hruns : RunsKept db.runs runs) := progress_settle (C := C) h hjob hleased
    (j := clearLeaseFields { job with lastErrorCode := some r.errorCode, status := .failed }) rfl rfl rfl
    (fun hs => by cases hs) rfl rfl hruns ha hactive
    (b := failedAttempt a now r.errorCode r.transportRetryable) rfl rfl rfl
  split_ifs at hr
  · have hok : DbOk M _ := h.progress (hsettle db.runs (RunsKept.refl _))
    obtain ⟨runs, hruns, rfl⟩ := transitionRunToFailed_returns hok (run?_some hrun).1 hr
    exact hsettle runs hruns
  · obtain ⟨-, rfl⟩ := returns_pure.1 hr
    exact hsettle db.runs (RunsKept.refl _)

theorem recordJobFailure_returns (h : DbOk M db) {r : FailureRequest} {u : Unit}
    (hr : Returns (recordJobFailure r) db u db') : Progress M C db db' := by
  simp only [recordJobFailure, returns_bind, returns_lift, returns_orRaise] at hr
  obtain ⟨now, _, ⟨-, rfl⟩, _, _, ⟨-, rfl⟩, _, _, ⟨-, rfl⟩, _, _, ⟨-, rfl⟩, deadline, _, ⟨-, rfl⟩, job, db₁, hload, active,
    db₂, hactive, a, _, ⟨hsome, rfl⟩, hr⟩ := hr
  obtain ⟨rfl, hjob, hid, hvalid⟩ := loadLeasedJob_returns hload
  obtain ⟨rfl, ha, -⟩ := loadActiveAttempt_returns hactive
  obtain ⟨hmem, hact⟩ := ha a hsome
  rw [← hid] at hmem
  split_ifs at hr
  · exact retryJob_returns h hjob hvalid.1 hmem hact hr
  · exact failJob_returns h hjob hvalid.1 hmem hact hr

/-! ## Claims -/

/-- no job with the key has a completed step -/
def Unfinished (db : Db) (jobId : Uuid) : Prop :=
  ∀ job ∈ db.jobs, job.jobId = jobId → completedRunStepExists db.runSteps job.runId job.stepKey = false

theorem startRun_returns (h : DbOk M db) {run : Run} (hrun : run ∈ db.runs) {now : Instant} {b : Bool}
    (hr : Returns (startRun run now) db b db') : ∃ runs, RunsKept db.runs runs ∧ db' = { db with runs := runs } := by
  unfold startRun at hr
  split_ifs at hr with hqueued
  · simp only [returns_bind, returns_lift, returns_modify, returns_pure] at hr
    obtain ⟨_, _, ⟨-, rfl⟩, _, _, rfl, -, rfl⟩ := hr
    refine ⟨_, ?_, rfl⟩
    exact RunsKept.put h.runIds hrun rfl (by rw [hqueued]; rfl)
  · obtain ⟨-, rfl⟩ := returns_pure.1 hr
    exact ⟨db.runs, RunsKept.refl _, rfl⟩

/-- **A claim** starts the run, if it is queued, and leases the job for a new attempt; the job's step is not completed. -/
theorem claimJob_returns (h : DbOk M db) {r : ClaimRequest} (hM : r.maxAttempts ≤ M) {now : Instant} {job : Job}
    (hjob : job ∈ db.jobs) (havailable : job.status = .available) {c : ClaimedJob}
    (hr : Returns (claimJob r now job) db c db') :
    Progress M (Unfinished db) db db' ∧ c.job.jobId = job.jobId ∧ Unfinished db job.jobId := by
  simp only [claimJob, returns_bind, returns_ensure, returns_read, returns_orRaise, returns_modify, returns_pure] at hr
  obtain ⟨_, _, ⟨hcount, rfl⟩, found, _, ⟨rfl, rfl⟩, run, _, ⟨hrun, rfl⟩, _, _, ⟨hopen, rfl⟩, completed, _, ⟨rfl, rfl⟩, _, _,
    ⟨hcompleted, rfl⟩, started, db₁, hstart, _, _, rfl, _, _, rfl, rfl, rfl⟩ := hr
  obtain ⟨runs, hruns, rfl⟩ := startRun_returns h (run?_some hrun).1 hstart
  have hunfinished : Unfinished db job.jobId := by
    intro j hj heq
    rw [Rows.eq_of_mem h.queue.keys hj hjob heq]
    exact hcompleted
  have hlt : job.attemptCount < M := by omega
  exact ⟨progress_put hjob (j := leasedJob r now job) rfl rfl rfl hruns (advances_claim (a := newAttempt r now job) h.queue hjob
    rfl hunfinished havailable rfl hlt rfl rfl rfl rfl (holder_setLeaseFields _ _ _ _)), rfl, hunfinished⟩

theorem Progress.refl (h : DbOk M db) : Progress M C db db where
  queue := advances_refl h.queue
  runs := RunsKept.refl _
  jobs job hjob := ⟨job, hjob, rfl, rfl, rfl⟩
  runSteps := rfl

theorem claimNextEligibleJob_returns (h : DbOk M db) {r : ClaimRequest} (hM : r.maxAttempts ≤ M) {c : Option ClaimedJob}
    (hr : Returns (claimNextEligibleJob r) db c db') : Progress M (Unfinished db) db db' := by
  simp only [claimNextEligibleJob, returns_bind, returns_lift, returns_read] at hr
  obtain ⟨now, _, ⟨-, rfl⟩, _, _, ⟨-, rfl⟩, _, _, ⟨-, rfl⟩, _, _, ⟨-, rfl⟩, selected, _, ⟨hselected, rfl⟩, hr⟩ := hr
  cases selected with
  | none =>
    obtain ⟨-, rfl⟩ := returns_pure.1 hr
    exact Progress.refl h
  | some job =>
    simp only [returns_bind, returns_pure] at hr
    obtain ⟨claimed, _, hclaim, -, rfl⟩ := hr
    obtain ⟨hjob, hclaimable⟩ := Rows.head_selected hselected
    have havailable : job.status = .available := by
      simp only [claimable, Bool.and_eq_true, decide_eq_true_eq] at hclaimable
      exact hclaimable.1.1.1.1.1
    exact (claimJob_returns h hM hjob havailable hclaim).1

/-! ## Recovery -/

theorem recovery_failRun {job : Job} {run : Option Run} {completed : Bool} {attempt : Option JobAttempt} {maxAttempts : Int}
    {run' : Run} (h : recovery job run completed attempt maxAttempts = .failRun run') : run = some run' := by
  unfold recovery at h
  split at h
  · cases h
  · split at h
    · cases h
    · split_ifs at h
      rw [Recovery.failRun.inj h]

theorem recovery_ne_leased (outcome : Recovery) : outcome.status ≠ .leased := by
  cases outcome <;> exact fun h => by cases h

/-- the recovery of a job whose lease has expired, before its run is settled -/
theorem progress_recovered (h : DbOk M db) {job : Job} (hjob : job ∈ db.jobs) (hleased : job.status = .leased)
    {o : Recovery} {now : Instant} {attempt : Option JobAttempt}
    (hattempt : ∀ a, attempt = some a → a ∈ attemptsOf queue (tables db) job.jobId ∧ queue.active a = true)
    (hnone : attempt = none → ∀ a ∈ attemptsOf queue (tables db) job.jobId, queue.active a = false) {db₁ : Db} {u : Unit}
    (hend : Returns (endAttempt attempt now) db u db₁) {runs : List Run} (hruns : RunsKept db.runs runs) :
    Progress M C db { db₁ with runs := runs, jobs := Rows.put Job.jobId (recoveredJob job o now) db.jobs } ∧
      db₁.jobs = db.jobs ∧ db₁.runs = db.runs := by
  cases attempt with
  | none =>
    obtain ⟨-, rfl⟩ := returns_pure.1 hend
    refine ⟨?_, rfl, rfl⟩
    exact progress_put hjob (j := recoveredJob job o now) rfl rfl rfl hruns (advances_abandon h.queue hjob rfl hleased (recovery_ne_leased o) rfl rfl
      (fun _ hpos => absurd hpos (by decide)) (hnone rfl))
  | some a =>
    obtain rfl := returns_modify.1 hend
    obtain ⟨hmem, hactive⟩ := hattempt a rfl
    refine ⟨?_, rfl, rfl⟩
    exact progress_settle h hjob hleased (j := recoveredJob job o now) rfl rfl rfl (recovery_ne_leased o) rfl
      rfl hruns hmem hactive (b := failedAttempt a now errorJobLeaseLost true) rfl rfl rfl

theorem recoverSingleExpiredJob_returns (h : DbOk M db) {maxAttempts : Int} {now : Instant}
    {job job' : Job} (hjob : job ∈ db.jobs) (hleased : job.status = .leased)
    (hr : Returns (recoverSingleExpiredJob now maxAttempts job) db job' db') :
    Progress M C db db' ∧ db'.jobs = Rows.put Job.jobId job' db.jobs ∧ job'.jobId = job.jobId := by
  simp only [recoverSingleExpiredJob, returns_bind, returns_ensure, returns_read, returns_modify, returns_pure] at hr
  obtain ⟨_, _, ⟨-, rfl⟩, run, _, ⟨hrun, rfl⟩, completed, _, ⟨-, rfl⟩, attempt, db₁, hactive, _, db₂, hend, _, _, rfl, _, db₃,
    hfail, rfl, rfl⟩ := hr
  obtain ⟨heq, hattempt, hnone⟩ := loadActiveAttempt_returns hactive
  rw [heq] at hend
  generalize houtcome : recovery job run completed attempt maxAttempts = outcome at hfail ⊢
  have hrecovered (runs : List Run) (hruns : RunsKept db.runs runs) :=
    progress_recovered (C := C) (o := outcome) h hjob hleased hattempt hnone hend hruns
  obtain ⟨hstay, hjobs, hruns₂⟩ := hrecovered db.runs (RunsKept.refl _)
  have hput : db₂.putJob (recoveredJob job outcome now) =
      { db₂ with runs := db.runs, jobs := Rows.put Job.jobId (recoveredJob job outcome now) db.jobs } := by
    rw [Db.putJob, hjobs, hruns₂]
  rw [hput] at hfail
  cases outcome with
  | failRun run' =>
    have hrun' : db.run? job.runId = some run' := hrun.trans (recovery_failRun houtcome)
    obtain ⟨runs, hkept, rfl⟩ := transitionRunToFailed_returns (h.progress hstay) (run?_some hrun').1 hfail
    exact ⟨(hrecovered runs hkept).1, rfl, rfl⟩
  | reconcile =>
    obtain ⟨-, rfl⟩ := returns_pure.1 hfail
    exact ⟨hstay, rfl, rfl⟩
  | fail =>
    obtain ⟨-, rfl⟩ := returns_pure.1 hfail
    exact ⟨hstay, rfl, rfl⟩
  | requeue =>
    obtain ⟨-, rfl⟩ := returns_pure.1 hfail
    exact ⟨hstay, rfl, rfl⟩

/-- several operations, one after another -/
abbrev Chain (M : Nat) (C : Uuid → Prop) : Db → Db → Prop := Relation.ReflTransGen (Progress M C)

theorem DbOk.chain (h : DbOk M db) (hc : Chain M C db db') : DbOk M db' := by
  induction hc with
  | refl => exact h
  | tail _ hp ih => exact ih.progress hp

/-- the other jobs of a batch are as they were selected -/
theorem mem_of_batch {job job' : Job} (hid : job'.jobId = job.jobId) {jobs : List Job}
    (hnot : job.jobId ∉ jobs.map Job.jobId) {j : Job} (hj : j ∈ jobs) (hmem : j ∈ db.jobs) :
    j ∈ Rows.put Job.jobId job' db.jobs := by
  refine Rows.mem_put_of_ne hmem fun heq => hnot ?_
  rw [← hid, ← heq]
  exact List.mem_map_of_mem hj

theorem recoverJobs_returns {maxAttempts : Int} {now : Instant} {jobs : List Job}
    (hids : (jobs.map Job.jobId).Nodup) {ids : List Uuid} (h : DbOk M db)
    (hjobs : ∀ job ∈ jobs, job ∈ db.jobs ∧ job.status = .leased) (hr : Returns (recoverJobs now maxAttempts jobs) db ids db') :
    Chain M C db db' := by
  induction jobs generalizing db ids with
  | nil =>
    obtain ⟨-, rfl⟩ := returns_pure.1 hr
    exact .refl
  | cons job jobs ih =>
    simp only [recoverJobs, returns_bind, returns_ensure, returns_pure] at hr
    obtain ⟨job', db₁, hone, _, _, ⟨-, rfl⟩, rest, _, hrest, -, rfl⟩ := hr
    rw [List.map_cons, List.nodup_cons] at hids
    obtain ⟨hjob, hleased⟩ := hjobs job List.mem_cons_self
    obtain ⟨hp, hput, hid⟩ := recoverSingleExpiredJob_returns (C := C) h hjob hleased hone
    refine Relation.ReflTransGen.head hp (ih hids.2 (h.progress hp) (fun j hj => ?_) hrest)
    obtain ⟨hmem, hl⟩ := hjobs j (List.mem_cons_of_mem _ hj)
    exact ⟨hput ▸ mem_of_batch hid hids.1 hj hmem, hl⟩

theorem recoverExpiredLeases_returns (h : DbOk M db) {r : RecoverRequest}
    {ids : List Uuid} (hr : Returns (recoverExpiredLeases r) db ids db') : Chain M C db db' := by
  simp only [recoverExpiredLeases, returns_bind, returns_lift, returns_read] at hr
  obtain ⟨now, _, ⟨-, rfl⟩, _, _, ⟨-, rfl⟩, _, _, ⟨-, rfl⟩, jobs, _, ⟨rfl, rfl⟩, hr⟩ := hr
  refine recoverJobs_returns (Rows.nodup_selected h.queue.keys _ _ _) h (fun job hjob => ?_) hr
  obtain ⟨hmem, hrec⟩ := Rows.mem_selected hjob
  refine ⟨hmem, ?_⟩
  simp only [recoverable, Bool.and_eq_true, decide_eq_true_eq] at hrec
  exact hrec.1.1

end AtoService.Jobs
