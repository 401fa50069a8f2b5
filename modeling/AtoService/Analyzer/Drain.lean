/-
The drain of the analysis queue: one pass of the worker after another, each in its own session, until a pass returns nothing.

A pass that claims a job and returns ends the job and its run (`pass_cases`): with a result when the analysis succeeded,
with none when the worker recorded its failure. The drain stops at the first pass without a result, so at the first
failure too.

- `eligible_of_settled`: what a pass leaves eligible are the jobs that were, but for those of the run that it has ended.
- `drain_stops`: the drain stops, and no job is eligible then exactly if no pass recorded a failure while a job of another
  run was eligible.
-/
import AtoService.Analyzer.Worker
import AtoService.Jobs.Progress

namespace AtoService.Analyzer

open Session Checks AtoService.Matrix
open Jobs (Uuid JobError Run RunStatus RunStep Job JobStatus ClaimRequest ClaimedJob claimable claimSelect)

/-! ## Definitions -/

/-- the arguments of a drain whose clock does not move, beyond those that the worker defaults -/
structure DrainRequest where
  config : RuntimeConfig
  leaseOwner : String
  now : Datetime

/-- what a pass finds outside the database, and the identifier that it draws -/
structure Pass where
  services : Services
  attemptId : Uuid

def defaultLeaseOwner : String := "deterministic-analyzer-worker"

def defaultLeaseSeconds : Int := 300

def defaultMaxAttempts : Int := 3

/-- the claim of a pass, when no other transaction is open -/
def DrainRequest.claim (r : DrainRequest) (attemptId : Uuid) (db : Db) : ClaimRequest where
  leaseOwner := r.leaseOwner
  now := r.now
  maxAttempts := defaultMaxAttempts
  leaseSeconds := defaultLeaseSeconds
  seen := ⟨db.queue.runs, db.queue.runSteps⟩
  locked := []
  attemptId := attemptId

def drainPass (r : DrainRequest) (p : Pass) (db : Db) : Except AnalyzerError (Option AnalysisResult) × Db :=
  processNextDeterministicAnalysisJob p.services (some r.config) (r.claim p.attemptId db) db

/-- the loop from its pass `n` on, for at most so many passes -/
def drainDeterministicAnalysis (r : DrainRequest) (passes : Nat → Pass) :
    Nat → Nat → List AnalysisResult → Db → Option (Except AnalyzerError (List AnalysisResult) × Db)
  | 0, _, _, _ => none
  | fuel + 1, n, processed, db =>
    match drainPass r (passes n) db with
    | (.error e, _) => some (.error e, db)
    | (.ok none, db') => some (.ok processed, db')
    | (.ok (some result), db') => drainDeterministicAnalysis r passes fuel (n + 1) (processed ++ [result]) db'

/-- the jobs that a claim may select -/
def eligible (r : DrainRequest) (db : Db) (job : Job) : Bool := claimable (r.claim 0 db) r.now.instant job

/-- the job that the next claim selects -/
def nextJob (r : DrainRequest) (db : Db) : Option Job := claimSelect (r.claim 0 db) r.now.instant db.queue.jobs

/-! ## What a pass writes to the queue -/

/-- only the job, its run and the steps of its run -/
structure Within (job : Job) (q q' : Jobs.Db) : Prop where
  jobs : Rows.WrittenAt Job.jobId job.jobId q.jobs q'.jobs
  runs : Rows.WrittenAt Run.runId job.runId q.runs q'.runs
  runSteps : ∃ steps : List RunStep, q'.runSteps = q.runSteps ++ steps ∧ ∀ s ∈ steps, s.runId = job.runId

variable {job : Job} {q q' q'' : Jobs.Db} {db db' db₁ : Db}

theorem Within.refl (q : Jobs.Db) : Within job q q :=
  ⟨.refl _, .refl _, [], (List.append_nil _).symm, fun _ h => absurd h List.not_mem_nil⟩

theorem Within.trans (h : Within job q q') (h' : Within job q' q'') : Within job q q'' := by
  obtain ⟨steps, hsteps, hrun⟩ := h.runSteps
  obtain ⟨steps', hsteps', hrun'⟩ := h'.runSteps
  refine ⟨h.jobs.trans h'.jobs, h.runs.trans h'.runs, steps ++ steps', ?_, fun s hs => ?_⟩
  · rw [hsteps', hsteps, List.append_assoc]
  · exact (List.mem_append.1 hs).elim (hrun s) (hrun' s)

theorem within_putRun {run : Run} (h : run.runId = job.runId) (q : Jobs.Db) : Within job q (q.putRun run) :=
  { Within.refl q with runs := Rows.writtenAt_put h _ }

theorem within_putJob {job' : Job} (h : job'.jobId = job.jobId) (q : Jobs.Db) : Within job q (q.putJob job') :=
  { Within.refl q with jobs := Rows.writtenAt_put h _ }

/-- the job is no longer available, and its run has ended -/
structure Settled (job : Job) (q q' : Jobs.Db) : Prop extends Within job q q' where
  done : ∀ j ∈ q'.jobs, j.jobId = job.jobId → j.status ≠ .available
  ended : ∀ run, q'.run? job.runId = some run → run.status.terminal = true

theorem completedRunStepExists_within (h : Within job q q') {runId : Uuid} (hrun : runId ≠ job.runId) (stepKey : String) :
    Jobs.completedRunStepExists q'.runSteps runId stepKey = Jobs.completedRunStepExists q.runSteps runId stepKey := by
  obtain ⟨steps, hsteps, hall⟩ := h.runSteps
  have hnone : Jobs.completedRunStepExists steps runId stepKey = false := by
    refine List.any_eq_false.2 fun s hs => ?_
    simp [hall s hs, hrun.symm]
  unfold Jobs.completedRunStepExists at hnone ⊢
  rw [hsteps, List.any_append, hnone, Bool.or_false]

theorem eligible_of_settled {r : DrainRequest} (h : Settled job db.queue db'.queue) {j : Job} (hj : j ∈ db'.queue.jobs) :
    eligible r db' j = true ↔
      j ∈ db.queue.jobs ∧ eligible r db j = true ∧ j.jobId ≠ job.jobId ∧ j.runId ≠ job.runId := by
  by_cases hid : j.jobId = job.jobId
  · have hdone := h.done j hj hid
    simp [eligible, claimable, hdone, hid]
  · rw [h.jobs.mem hid] at hj
    by_cases hrun : j.runId = job.runId
    · have hended : ∀ run, Rows.get? Run.runId j.runId db'.queue.runs = some run → run.status.terminal = true :=
        fun run hr => h.ended run (hrun ▸ hr)
      have hnot : eligible r db' j = false := by
        cases hget : Rows.get? Run.runId j.runId db'.queue.runs with
        | none => simp [eligible, claimable, DrainRequest.claim, hget]
        | some run =>
          have hterminal := hended run hget
          cases hs : run.status <;>
            simp [RunStatus.terminal, hs, eligible, claimable, DrainRequest.claim, hget] at hterminal ⊢
      simp [hnot, hrun]
    · have heq : eligible r db' j = eligible r db j := by
        unfold eligible claimable DrainRequest.claim
        rw [h.runs.get? hrun, completedRunStepExists_within h.toWithin hrun]
      simp [heq, hj, hid, hrun]

/-! ## The claim of a pass -/

theorem requireAwareUtc_instant {value : Datetime} {fieldName : String} {now : Instant}
    (h : Jobs.requireAwareUtc value fieldName = .ok now) : now = value.instant := by
  unfold Jobs.requireAwareUtc Checks.requireAwareUtc at h
  split_ifs at h
  exact (Except.ok.inj h).symm

variable {r : DrainRequest} {i : Uuid}

/-- a pass that claims nothing leaves the rows as they are -/
theorem claim_none (h : Returns (onQueue (Jobs.claimNextEligibleJob (r.claim i db))) db none db₁) :
    nextJob r db = none ∧ db₁ = db := by
  obtain ⟨q, hq, rfl⟩ := returns_zoom.1 h
  simp only [Jobs.claimNextEligibleJob, returns_bind, returns_lift, returns_read] at hq
  obtain ⟨now, _, ⟨hnow, rfl⟩, _, _, ⟨-, rfl⟩, _, _, ⟨-, rfl⟩, _, _, ⟨-, rfl⟩, selected, _, ⟨hselected, rfl⟩, hq⟩ := hq
  obtain rfl := requireAwareUtc_instant hnow
  cases selected with
  | none =>
    obtain ⟨-, rfl⟩ := returns_pure.1 hq
    exact ⟨hselected, rfl⟩
  | some job =>
    simp only [returns_bind, returns_pure] at hq
    obtain ⟨c, _, -, heq, -⟩ := hq
    cases heq

/-- what a claim leaves for the pass: the selected job, whose run is running now -/
structure ClaimLeaves (r : DrainRequest) (db db₁ : Db) (c : ClaimedJob) (job : Job) : Prop where
  next : nextJob r db = some job
  jobId : c.job.jobId = job.jobId
  runId : c.job.runId = job.runId
  within : Within job db.queue db₁.queue
  running : ∀ run, db₁.queue.run? job.runId = some run → run.status = .running
  owned : ∀ j ∈ db₁.queue.jobs, j.jobId = job.jobId → j.runId = job.runId

theorem startRun_within {q q' : Jobs.Db} {run : Run} (hrun : q.run? job.runId = some run)
    (hopen : run.status.terminal = false) {now : Instant} {b : Bool} (h : Returns (Jobs.startRun run now) q b q') :
    Within job q q' ∧ ∀ run', q'.run? job.runId = some run' → run'.status = .running := by
  obtain ⟨-, hid⟩ := Rows.mem_of_get? hrun
  unfold Jobs.startRun at h
  split_ifs at h with hqueued
  · simp only [returns_bind, returns_lift, returns_modify, returns_pure] at h
    obtain ⟨_, _, ⟨-, rfl⟩, _, _, rfl, -, rfl⟩ := h
    exact ⟨within_putRun (by exact hid) q, fun run' hrun' => by rw [Rows.get?_put (by exact hid) hrun']⟩
  · obtain ⟨-, rfl⟩ := returns_pure.1 h
    refine ⟨Within.refl q, fun run' hrun' => ?_⟩
    obtain rfl := Option.some.inj (hrun.symm.trans hrun')
    cases hs : run.status with
    | queued => exact absurd hs hqueued
    | running => rfl
    | succeeded => rw [hs] at hopen; cases hopen
    | failed => rw [hs] at hopen; cases hopen
    | cancelled => rw [hs] at hopen; cases hopen
    | policyBlocked => rw [hs] at hopen; cases hopen

theorem claim_some {c : ClaimedJob}
    (h : Returns (onQueue (Jobs.claimNextEligibleJob (r.claim i db))) db (some c) db₁) :
    ∃ job, ClaimLeaves r db db₁ c job := by
  obtain ⟨q, hq, rfl⟩ := returns_zoom.1 h
  simp only [Jobs.claimNextEligibleJob, returns_bind, returns_lift, returns_read] at hq
  obtain ⟨now, _, ⟨hnow, rfl⟩, _, _, ⟨-, rfl⟩, _, _, ⟨-, rfl⟩, _, _, ⟨-, rfl⟩, selected, _, ⟨hselected, rfl⟩, hq⟩ := hq
  obtain rfl := requireAwareUtc_instant hnow
  cases selected with
  | none => exact absurd (returns_pure.1 hq).1 (by simp)
  | some job =>
    simp only [returns_bind, returns_pure] at hq
    obtain ⟨claimed, _, hclaim, heq, rfl⟩ := hq
    obtain rfl := Option.some.inj heq
    simp only [Jobs.claimJob, returns_bind, returns_ensure, returns_read, returns_orRaise, returns_modify,
      returns_pure] at hclaim
    obtain ⟨_, _, ⟨-, rfl⟩, found, _, ⟨rfl, rfl⟩, run, _, ⟨hrun, rfl⟩, _, _, ⟨hopen, rfl⟩, completed, _, ⟨rfl, rfl⟩, _, _,
      ⟨-, rfl⟩, started, q₁, hstart, _, _, rfl, _, _, rfl, rfl, rfl⟩ := hclaim
    obtain ⟨hwithin, hrunning⟩ := startRun_within hrun hopen hstart
    let leased := Jobs.leasedJob (r.claim i db) r.now.instant job
    have hput : Within job q₁ (q₁.putJob leased) := within_putJob (show leased.jobId = job.jobId from rfl) q₁
    refine ⟨job, hselected, rfl, rfl, ⟨(hwithin.trans hput).jobs, (hwithin.trans hput).runs, (hwithin.trans hput).runSteps⟩,
      hrunning, fun j hj hid => ?_⟩
    obtain ⟨j', -, rfl⟩ := List.mem_map.1 hj
    split_ifs at hid ⊢ with hj'
    · rfl
    · exact absurd hid hj'

/-! ## The end of a pass -/

/-- a failure that is recorded ends the job, and its running run -/
theorem recordFailure_settles {job' : Job} {errorCode : String} {retryable : Bool} {attemptId : Uuid} {seen : Db} {u : Unit}
    (hid : job'.jobId = job.jobId) (hrun : ∀ run, db.queue.run? job.runId = some run → run.status = .running)
    (hjob : ∀ j ∈ db.queue.jobs, j.jobId = job.jobId → j.runId = job.runId)
    (h : Returns (recordFailure (r.claim attemptId seen) job' errorCode retryable) db u db') :
    Settled job db.queue db'.queue := by
  obtain ⟨q, hq, rfl⟩ := returns_zoom.1 h
  simp only [Jobs.recordJobFailure, returns_bind, returns_lift, returns_orRaise] at hq
  obtain ⟨now, _, ⟨-, rfl⟩, _, _, ⟨-, rfl⟩, _, _, ⟨-, rfl⟩, _, _, ⟨-, rfl⟩, deadline, _, ⟨-, rfl⟩, leased, q₁, hload, active, q₂,
    hactive, attempt, _, ⟨-, rfl⟩, hq⟩ := hq
  obtain ⟨rfl, hmem, hleased, -⟩ := Jobs.loadLeasedJob_returns hload
  obtain ⟨rfl, -⟩ := Jobs.loadActiveAttempt_returns hactive
  replace hleased := hleased.trans hid
  -- the worker names no time for the retry
  have hretry : ∀ allowed deadline', ¬Returns (Jobs.retryJob
      ⟨job'.jobId, r.leaseOwner, r.now, errorCode, retryable, defaultMaxAttempts, none, none⟩ allowed deadline' leased
      attempt) db.queue u q := by
    intro allowed deadline' hretry
    simp only [Jobs.retryJob, returns_bind, returns_lift] at hretry
    obtain ⟨_, _, ⟨hnext, -⟩, -⟩ := hretry
    cases hnext
  split_ifs at hq
  · exact absurd hq (hretry _ _)
  · simp only [Jobs.failJob, returns_bind, returns_modify, returns_read, returns_orRaise] at hq
    obtain ⟨_, _, rfl, _, _, rfl, found, _, ⟨rfl, rfl⟩, run, _, ⟨hfound, rfl⟩, hq⟩ := hq
    have hrunId : leased.runId = job.runId := hjob leased hmem hleased
    obtain ⟨-, hrunid⟩ := Rows.mem_of_get? hfound
    rw [hrunId] at hrunid
    have hrunning : run.status = .running := hrun run (hrunId ▸ hfound)
    rw [if_pos hrunning] at hq
    simp only [Jobs.transitionRunToFailed, hrunning, RunStatus.terminal, Bool.false_eq_true, if_false, returns_bind,
      returns_lift, returns_modify] at hq
    obtain ⟨_, _, ⟨-, rfl⟩, rfl⟩ := hq
    refine ⟨⟨Rows.writtenAt_put (by exact hleased) _, Rows.writtenAt_put (by exact hrunid) _, [], (List.append_nil _).symm, fun _ h => absurd h List.not_mem_nil⟩,
      fun j hj hid' => ?_, fun run' hrun' => by rw [Rows.get?_put (by exact hrunid) hrun']; rfl⟩
    obtain ⟨j', -, rfl⟩ := List.mem_map.1 hj
    split_ifs at hid' ⊢ with hj'
    · simp [Jobs.clearLeaseFields]
    · exact absurd (hid'.trans hleased.symm) hj'

/-- an analysis that returns has completed the job and ended the run -/
theorem commitOutputs_settles {s : Services} {c : Claimed} {now : Datetime} {rows : List RowPayload} {n : Nat}
    {limits : Except AnalyzerError Unit} {result : AnalysisResult} (hid : c.job.jobId = job.jobId)
    (hrun : c.run.runId = job.runId) (h : Returns (commitOutputs s c now rows n limits) db result db') :
    Settled job db.queue db'.queue := by
  simp only [commitOutputs, finishRun, addMatrixRows, onQueue, returns_bind, returns_lift, returns_read, returns_ensure,
    returns_modify, returns_zoom, returns_pure] at h
  obtain ⟨file, _, ⟨-, rfl⟩, _, _, ⟨_, _, ⟨-, rfl⟩, _, _, ⟨-, rfl⟩, rfl⟩, _, _, ⟨-, rfl⟩, _, _, ⟨q₁, hstep, rfl⟩, sha256, _,
    ⟨-, rfl⟩, _, _, ⟨q₂, htransition, rfl⟩, _, _, rfl, _, _, ⟨q₃, hcomplete, rfl⟩, _, _, ⟨-, rfl⟩, -, rfl⟩ := h
  simp only [Jobs.addRunStep, returns_bind, returns_read, returns_ensure, returns_modify] at hstep
  obtain ⟨_, _, ⟨-, rfl⟩, _, _, ⟨-, rfl⟩, _, _, ⟨-, rfl⟩, _, _, ⟨-, rfl⟩, rfl⟩ := hstep
  simp only [Jobs.transitionRun, returns_bind, returns_read, returns_orRaise, returns_lift, returns_modify] at htransition
  obtain ⟨_, _, ⟨-, rfl⟩, run, _, ⟨-, rfl⟩, _, _, ⟨-, rfl⟩, rfl⟩ := htransition
  simp only [Jobs.completeJob, returns_bind, returns_lift, returns_read, returns_ensure, returns_orRaise,
    returns_modify] at hcomplete
  obtain ⟨_, _, ⟨-, rfl⟩, _, _, ⟨-, rfl⟩, leased, q₄, hload, _, _, ⟨-, rfl⟩, _, _, ⟨-, rfl⟩, active, q₅, hactive, attempt, _,
    ⟨-, rfl⟩, _, _, rfl, rfl⟩ := hcomplete
  obtain ⟨rfl, -, hleased, -⟩ := Jobs.loadLeasedJob_returns hload
  obtain ⟨rfl, -⟩ := Jobs.loadActiveAttempt_returns hactive
  replace hleased := hleased.trans hid
  refine ⟨⟨Rows.writtenAt_put (by exact hleased) _, Rows.writtenAt_put (by exact hrun) _, [⟨c.run.runId, c.job.stepKey⟩],
    rfl, fun st hst => List.mem_singleton.1 hst ▸ hrun⟩, fun j hj hid' => ?_,
    fun run' hrun' => by rw [Rows.get?_put (by exact hrun) hrun']; rfl⟩
  obtain ⟨j', -, rfl⟩ := List.mem_map.1 hj
  split_ifs at hid' ⊢ with hj'
  · simp [Jobs.clearLeaseFields]
  · exact absurd (hid'.trans hleased.symm) hj'

/-- before a processing error, an analysis has written no more than a step of its run -/
def StepOnly (job : Job) (q q' : Jobs.Db) : Prop :=
  ∃ steps : List RunStep, q' = { q with runSteps := q.runSteps ++ steps } ∧ ∀ s ∈ steps, s.runId = job.runId

theorem StepOnly.refl (q : Jobs.Db) : StepOnly job q q :=
  ⟨[], by rw [List.append_nil], fun _ h => absurd h List.not_mem_nil⟩

theorem StepOnly.within (h : StepOnly job q q') : Within job q q' := by
  obtain ⟨steps, rfl, hsteps⟩ := h
  exact ⟨.refl _, .refl _, steps, rfl, hsteps⟩

theorem finishRun_processing {s : Services} {c : Claimed} {now : Datetime} {m n : Nat} {file : String}
    {e : ProcessingError} (h : Raises (finishRun s c now m n file) db (.processing e) db') : db' = db := by
  unfold finishRun at h
  rcases raises_bind.1 h with hmanifest | ⟨sha256, db₁, -, h⟩
  · exact (raises_lift.1 hmanifest).2.symm
  rcases raises_bind.1 h with htransition | ⟨_, db₂, -, h⟩
  · obtain ⟨_, _, -, hwrap, -⟩ := raises_zoom.1 htransition
    cases hwrap
  rcases raises_bind.1 h with hmodify | ⟨_, db₃, -, h⟩
  · exact (raises_modify.1 hmodify).elim
  rcases raises_bind.1 h with hcomplete | ⟨_, db₄, -, h⟩
  · obtain ⟨_, _, -, hwrap, -⟩ := raises_zoom.1 hcomplete
    cases hwrap
  rcases raises_bind.1 h with haudit | ⟨_, db₅, -, h⟩
  · obtain ⟨message, -, hwrap⟩ := Results.mapError_eq_error.1 (raises_lift.1 haudit).1
    cases hwrap
  · exact (raises_pure.1 h).elim

theorem commitOutputs_processing {s : Services} {c : Claimed} {now : Datetime} {rows : List RowPayload} {n : Nat}
    {e : ProcessingError} (hrun : c.run.runId = job.runId)
    (h : Raises (commitOutputs s c now rows n (.ok ())) db (.processing e) db') :
    StepOnly job db.queue db'.queue := by
  unfold commitOutputs at h
  rcases raises_bind.1 h with hfile | ⟨file, db₁, hfile, h⟩
  · obtain ⟨_, -, hwrap⟩ := Results.mapError_eq_error.1 (raises_lift.1 hfile).1
    cases hwrap
  obtain ⟨-, rfl⟩ := returns_lift.1 hfile
  rcases raises_bind.1 h with hrows | ⟨_, db₂, hrows, h⟩
  · simp [addMatrixRows, raises_bind] at hrows
  have hqueue : db₂.queue = db.queue := by
    simp only [addMatrixRows, returns_bind, returns_read, returns_ensure, returns_modify] at hrows
    obtain ⟨_, _, ⟨-, rfl⟩, _, _, ⟨-, rfl⟩, rfl⟩ := hrows
    rfl
  rcases raises_bind.1 h with hlimits | ⟨_, db₃, hlimits, h⟩
  · cases (raises_lift.1 hlimits).1
  obtain ⟨-, rfl⟩ := returns_lift.1 hlimits
  rcases raises_bind.1 h with hstep | ⟨_, db₄, hstep, h⟩
  · obtain ⟨_, _, -, hwrap, -⟩ := raises_zoom.1 hstep
    cases hwrap
  obtain ⟨q, hadd, rfl⟩ := returns_zoom.1 hstep
  simp only [Jobs.addRunStep, returns_bind, returns_read, returns_ensure, returns_modify] at hadd
  obtain ⟨_, _, ⟨-, rfl⟩, _, _, ⟨-, rfl⟩, _, _, ⟨-, rfl⟩, _, _, ⟨-, rfl⟩, rfl⟩ := hadd
  rw [finishRun_processing h, ← hqueue]
  exact ⟨[⟨c.run.runId, c.job.stepKey⟩], rfl, fun st hst => List.mem_singleton.1 hst ▸ hrun⟩

/-- without a client for the text model, no model-assisted analysis has a result -/
theorem modelAssistedResult_none {s : Services} {config : RuntimeConfig} {c : Claimed} {content : SealedPackageContent}
    {result : SufficiencyMatrixResult} : modelAssistedResult s config c content none ≠ .ok result := by
  intro h
  simp only [modelAssistedResult, executeSufficiencyMatrix, runSufficiencyMatrix, Results.bind_eq_ok] at h
  simp at h

theorem analyze_settles {s : Services} {config : RuntimeConfig} {c : Claimed} {now : Datetime} {result : AnalysisResult}
    (hid : c.job.jobId = job.jobId) (hrun : c.run.runId = job.runId)
    (h : Returns (analyze s config c now) db result db') : Settled job db.queue db'.queue := by
  unfold analyze at h
  split_ifs at h
  · simp only [processNextModelAssistedAnalysis, returns_bind, returns_lift] at h
    obtain ⟨_, _, -, _, _, -, _, _, ⟨hresult, -⟩, -⟩ := h
    exact absurd hresult modelAssistedResult_none
  · obtain ⟨rows, db₁, hrows, hcommit⟩ := returns_bind.1 h
    obtain ⟨-, rfl⟩ := returns_lift.1 hrows
    exact commitOutputs_settles hid hrun hcommit

theorem analyze_processing {s : Services} {config : RuntimeConfig} {c : Claimed} {now : Datetime} {e : ProcessingError}
    (hrun : c.run.runId = job.runId) (h : Raises (analyze s config c now) db (.processing e) db') :
    StepOnly job db.queue db'.queue := by
  unfold analyze at h
  split_ifs at h
  · rcases raises_bind.1 h with hread | ⟨found, db₁, hread, h⟩
    · exact (raises_read.1 hread).elim
    obtain ⟨-, rfl⟩ := returns_read.1 hread
    rcases raises_bind.1 h with hmissing | ⟨content, db₂, hfound, h⟩
    · rw [← (raises_orRaise.1 hmissing).2.2]
      exact .refl _
    obtain ⟨-, rfl⟩ := returns_orRaise.1 hfound
    rcases raises_bind.1 h with hresult | ⟨result, db₃, hresult, -⟩
    · rw [← (raises_lift.1 hresult).2]
      exact .refl _
    · exact absurd (returns_lift.1 hresult).1 modelAssistedResult_none
  · rcases raises_bind.1 h with hrows | ⟨rows, db₁, hrows, hcommit⟩
    · rw [← (raises_lift.1 hrows).2]
      exact .refl _
    · obtain ⟨-, rfl⟩ := returns_lift.1 hrows
      exact commitOutputs_processing hrun hcommit

/-! ## One pass -/

/-- a pass that claims a job but records a failure: the revision of its run is missing, or the analysis of the run raises a
processing error -/
def RecordsFailure (r : DrainRequest) (p : Pass) (db : Db) : Prop :=
  ∃ c db₁ run binding, Returns (onQueue (Jobs.claimNextEligibleJob (r.claim p.attemptId db))) db (some c) db₁ ∧
    db₁.queue.run? c.job.runId = some run ∧ db₁.binding? c.job.runId = some binding ∧
    (db₁.packageRevision? binding.packageRevisionId = none ∨
      ∃ revision e db₂, db₁.packageRevision? binding.packageRevisionId = some revision ∧
        Raises (analyze p.services r.config ⟨c.job, c.attempt, run, binding, revision⟩ r.now) db₁ (.processing e) db₂)

/-- how a pass that returns ends -/
inductive PassEnds (r : DrainRequest) (p : Pass) (db : Db) : Option AnalysisResult → Db → Prop
  | idle (hnext : nextJob r db = none) (hfail : ¬RecordsFailure r p db) : PassEnds r p db none db
  | failed {db' : Db} {job : Job} (hnext : nextJob r db = some job) (hfail : RecordsFailure r p db)
    (hsettled : Settled job db.queue db'.queue) : PassEnds r p db none db'
  | analysed {db' : Db} {job : Job} (result : AnalysisResult) (hnext : nextJob r db = some job) (hfail : ¬RecordsFailure r p db)
    (hsettled : Settled job db.queue db'.queue) : PassEnds r p db (some result) db'

theorem Within.settled (h : Within job q q') (h' : Settled job q' q'') : Settled job q q'' :=
  ⟨h.trans h'.toWithin, h'.done, h'.ended⟩

theorem StepOnly.owned (h : StepOnly job q q') (hjob : ∀ j ∈ q.jobs, j.jobId = job.jobId → j.runId = job.runId) :
    ∀ j ∈ q'.jobs, j.jobId = job.jobId → j.runId = job.runId := by
  obtain ⟨steps, rfl, -⟩ := h
  exact hjob

theorem StepOnly.running (h : StepOnly job q q')
    (hrun : ∀ run, q.run? job.runId = some run → run.status = .running) :
    ∀ run, q'.run? job.runId = some run → run.status = .running := by
  obtain ⟨steps, rfl, -⟩ := h
  exact hrun

theorem processClaimed_ends {p : Pass} {c : ClaimedJob} (hclaim : Returns
      (onQueue (Jobs.claimNextEligibleJob (r.claim p.attemptId db))) db (some c) db₁)
    (hleaves : ClaimLeaves r db db₁ c job) {x : Option AnalysisResult}
    (h : Returns (processClaimed p.services (some r.config) (r.claim p.attemptId db) c) db₁ x db') :
    PassEnds r p db x db' := by
  simp only [processClaimed, returns_bind, returns_read, returns_orRaise] at h
  obtain ⟨found, _, ⟨rfl, rfl⟩, row, _, ⟨hrow, rfl⟩, h⟩ := h
  obtain ⟨run, hrun, hmap⟩ := Option.bind_eq_some_iff.1 hrow
  obtain ⟨binding, hbinding, rfl⟩ := Option.map_eq_some_iff.1 hmap
  have hrunning : run.status = .running := hleaves.running run (hleaves.runId ▸ hrun)
  have hrunId : run.runId = job.runId := (Rows.mem_of_get? hrun).2.trans hleaves.runId
  rw [if_neg (by rw [hrunning]; decide)] at h
  simp only [returns_bind, returns_read] at h
  obtain ⟨revision, _, ⟨hrevision, rfl⟩, h⟩ := h
  cases revision with
  | none =>
    obtain ⟨_, db₂, hrecord, h⟩ := returns_bind.1 h
    obtain ⟨rfl, rfl⟩ := returns_pure.1 h
    exact .failed hleaves.next ⟨c, _, run, binding, hclaim, hrun, hbinding, Or.inl hrevision⟩
      (hleaves.within.settled (recordFailure_settles hleaves.jobId hleaves.running hleaves.owned hrecord))
  | some revision =>
    obtain ⟨config, _, hconfig, h⟩ := returns_bind.1 h
    obtain ⟨hsome, rfl⟩ := returns_orRaise.1 hconfig
    obtain rfl := Option.some.inj hsome
    rcases returns_handle.1 h with hanalysis | ⟨e, db₂, y, hraises, hy, h⟩
    · obtain ⟨result, db₃, hanalyze, hpure⟩ := returns_bind.1 hanalysis
      obtain ⟨rfl, rfl⟩ := returns_pure.1 hpure
      refine .analysed result hleaves.next ?_ (hleaves.within.settled (analyze_settles hleaves.jobId hrunId hanalyze))
      rintro ⟨c', db₄, run', binding', hclaim', hrun', hbinding', hfail⟩
      obtain ⟨hc, rfl⟩ := hclaim.unique hclaim'
      obtain rfl := Option.some.inj hc
      obtain rfl := Option.some.inj (hrun.symm.trans hrun')
      obtain rfl := Option.some.inj (hbinding.symm.trans hbinding')
      rcases hfail with hnone | ⟨revision', e, db₅, hsome, hraises⟩
      · rw [hrevision] at hnone
        cases hnone
      · obtain rfl := Option.some.inj (hrevision.symm.trans hsome)
        have hok : analyze p.services r.config ⟨c.job, c.attempt, run, binding, revision⟩ r.now _ = _ := hanalyze
        have herror : analyze p.services r.config ⟨c.job, c.attempt, run, binding, revision⟩ r.now _ = _ := hraises
        rw [hok] at herror
        cases herror
    · cases e with
      | processing e =>
        obtain rfl := Option.some.inj hy
        obtain ⟨_, db₃, hrecord, h⟩ := returns_bind.1 h
        obtain ⟨rfl, rfl⟩ := returns_pure.1 h
        have hanalyze : Raises (analyze p.services r.config ⟨c.job, c.attempt, run, binding, revision⟩ r.now) db₁
            (.processing e) db₂ := by
          rcases raises_bind.1 hraises with hraises | ⟨_, _, -, hpure⟩
          · exact hraises
          · exact (raises_pure.1 hpure).elim
        have hstep : StepOnly job db₁.queue db₂.queue := analyze_processing hrunId hanalyze
        exact .failed hleaves.next
          ⟨c, _, run, binding, hclaim, hrun, hbinding, Or.inr ⟨revision, e, db₂, hrevision, hanalyze⟩⟩
          ((hleaves.within.trans hstep.within).settled (recordFailure_settles hleaves.jobId (hstep.running hleaves.running)
            (hstep.owned hleaves.owned) hrecord))
      | job => cases hy
      | analysisProfile => cases hy
      | matrixCoverage => cases hy
      | artifactManifest => cases hy
      | valueError => cases hy
      | audit => cases hy
      | integrityError => cases hy
      | noResultFound => cases hy

theorem pass_cases {p : Pass} {x : Option AnalysisResult} (h : Returns (drainPass r p) db x db') :
    PassEnds r p db x db' := by
  obtain ⟨claimed, db₁, hclaim, h⟩ := returns_bind.1 (show Returns (processNextDeterministicAnalysisJob p.services
    (some r.config) (r.claim p.attemptId db)) db x db' from h)
  cases claimed with
  | none =>
    obtain ⟨hnext, rfl⟩ := claim_none hclaim
    obtain ⟨rfl, rfl⟩ := returns_pure.1 h
    refine .idle hnext ?_
    rintro ⟨c, db₂, run, binding, hclaim', -⟩
    cases (hclaim.unique hclaim').1
  | some c =>
    obtain ⟨job, hleaves⟩ := claim_some hclaim
    exact processClaimed_ends hclaim hleaves h

/-! ## The drain -/

variable {passes : Nat → Pass}

/-- the rows that a drain comes to, and the number of its next pass -/
inductive Visits (r : DrainRequest) (passes : Nat → Pass) : Nat → Db → Nat → Db → Prop
  | here (n : Nat) (db : Db) : Visits r passes n db n db
  | next {n m : Nat} {db db₁ db' : Db} {result : AnalysisResult}
    (hpass : Returns (drainPass r (passes n)) db (some result) db₁) (hrest : Visits r passes (n + 1) db₁ m db') :
    Visits r passes n db m db'

/-- a pass that records a failure finds no eligible job of another run -/
def FailsAlone (r : DrainRequest) (p : Pass) (db : Db) : Prop :=
  RecordsFailure r p db → ∀ job, nextJob r db = some job → ∀ other ∈ db.queue.jobs, eligible r db other = true →
    other.jobId ≠ job.jobId → other.runId = job.runId

theorem nextJob_none : nextJob r db = none ↔ ∀ job ∈ db.queue.jobs, eligible r db job = false := by
  unfold nextJob claimSelect
  rw [List.head?_eq_none_iff]
  constructor
  · intro h job hjob
    by_contra hne
    have hmem : job ∈ ((db.queue.jobs.filter (claimable (r.claim 0 db) r.now.instant)).insertionSort Jobs.claimOrder) := by
      rw [List.mem_insertionSort, List.mem_filter]
      exact ⟨hjob, by simpa [eligible] using hne⟩
    rw [h] at hmem
    cases hmem
  · intro h
    have hnil : db.queue.jobs.filter (claimable (r.claim 0 db) r.now.instant) = [] :=
      List.filter_eq_nil_iff.2 fun job hjob => by simpa [eligible] using h job hjob
    rw [hnil]
    rfl

theorem nextJob_some (h : nextJob r db = some job) : job ∈ db.queue.jobs ∧ eligible r db job = true :=
  Rows.head_selected h

def availableJobs (db : Db) : Nat := db.queue.jobs.countP fun job => job.status = .available

theorem Settled.availableJobs_lt (h : Settled job db.queue db'.queue) (hnext : nextJob r db = some job) :
    availableJobs db' < availableJobs db := by
  obtain ⟨hmem, heligible⟩ := nextJob_some hnext
  have hstatus : decide (job.status = .available) = true := by
    simp only [eligible, claimable, Bool.and_eq_true] at heligible
    exact heligible.1.1.1.1.1
  exact h.jobs.countP_lt (fun j hj hid => decide_eq_false (h.done j hj hid)) hmem rfl hstatus

/-- an eligible job after a pass that failed is one that the pass passed over -/
theorem failed_idle_iff {p : Pass} (hnext : nextJob r db = some job) (hfail : RecordsFailure r p db)
    (h : Settled job db.queue db'.queue) :
    (∀ j ∈ db'.queue.jobs, eligible r db' j = false) ↔ FailsAlone r p db := by
  constructor
  · intro hidle _ job' hnext' other hother heligible hid
    obtain rfl := Option.some.inj (hnext.symm.trans hnext')
    by_contra hrun
    have hother' : other ∈ db'.queue.jobs := (h.jobs.mem hid).2 hother
    have htrue := (eligible_of_settled h hother').2 ⟨hother, heligible, hid, hrun⟩
    rw [hidle other hother'] at htrue
    cases htrue
  · intro halone j hj
    by_contra htrue
    obtain ⟨hmem, heligible, hid, hrun⟩ := (eligible_of_settled h hj).1 (by simpa using htrue)
    exact hrun (halone hfail job hnext j hmem heligible hid)

/-- The drain stops after at most one pass more than there are available jobs. When it returns, no job is eligible exactly
if each of its passes that recorded a failure found no eligible job of another run. -/
theorem drain_stops (r : DrainRequest) (passes : Nat → Pass) :
    ∀ fuel n processed db, availableJobs db < fuel →
      ∃ out, drainDeterministicAnalysis r passes fuel n processed db = some out ∧
        ∀ results db', out = (.ok results, db') →
          ((∀ job ∈ db'.queue.jobs, eligible r db' job = false) ↔
            ∀ m db₁, Visits r passes n db m db₁ → FailsAlone r (passes m) db₁) := by
  intro fuel
  induction fuel with
  | zero => exact fun _ _ _ h => absurd h (Nat.not_lt_zero _)
  | succ fuel ih =>
    intro n processed db hfuel
    unfold drainDeterministicAnalysis
    rcases hpass : drainPass r (passes n) db with ⟨_ | x, db'⟩
    · exact ⟨_, rfl, fun results db₁ h => by cases h⟩
    cases hends : pass_cases (show Returns (drainPass r (passes n)) db x db' from hpass) with
    | idle hnext hfail =>
      refine ⟨_, rfl, fun results db₁ h => ?_⟩
      obtain ⟨-, rfl⟩ := Prod.mk.inj h
      refine ⟨fun _ m db₂ hvisits => ?_, fun _ => nextJob_none.1 hnext⟩
      cases hvisits with
      | here => exact fun hfail' => absurd hfail' hfail
      | next hpass' => cases hpass.symm.trans hpass'
    | failed hnext hfail hsettled =>
      refine ⟨_, rfl, fun results db₁ h => ?_⟩
      obtain ⟨-, rfl⟩ := Prod.mk.inj h
      rw [failed_idle_iff hnext hfail hsettled]
      refine ⟨fun halone m db₂ hvisits => ?_, fun h => h n db (.here n db)⟩
      cases hvisits with
      | here => exact halone
      | next hpass' => cases hpass.symm.trans hpass'
    | analysed result hnext hfail hsettled =>
      have hless := hsettled.availableJobs_lt hnext
      obtain ⟨out, hout, hiff⟩ := ih (n + 1) (processed ++ [result]) db' (by omega)
      refine ⟨out, hout, fun results db₁ h => (hiff results db₁ h).trans ⟨fun hall m db₂ hvisits => ?_, fun hall m db₂ hvisits => ?_⟩⟩
      · cases hvisits with
        | here => exact fun hfail' => absurd hfail' hfail
        | next hpass' hrest =>
          obtain ⟨-, rfl⟩ := Prod.mk.inj (hpass.symm.trans hpass')
          exact hall m db₂ hrest
      · exact hall m db₂ (.next hpass hvisits)

/-! ## Two runs -/

namespace Small

def request : DrainRequest where
  config := ⟨100, 8192, 1024, 30, .ok 4096, .ok "onprem_openai_compatible"⟩
  leaseOwner := defaultLeaseOwner
  now := ⟨10, true⟩

def profile : Profile where
  authorityManifestId := some "am"
  sha256 := "sha"
  items := [("AC-1", .nistControl)]
  statusPolicy := ⟨none, none, none⟩
  nonempty := List.cons_ne_nil _ _

def services : Services where
  loadRuntimeProfile _ := .ok profile
  writeRunOutputFile _ _ := .ok "rows"
  writeArtifactManifest _ _ _ := .ok "manifest"
  appendAuditEvent _ _ := .ok ()

def worker (n : Nat) : Pass := ⟨services, n⟩

def run (runId : Uuid) : Run := ⟨runId, .queued, none, none, 0, none, none⟩

def queued (jobId runId : Uuid) (availableAt : Instant) : Job :=
  ⟨jobId, runId, stepKey, true, .available, 0, availableAt, none, none, none, none⟩

/-- a run of the synthetic revision 1, with the digest of the profile that it was started with -/
def binding (runId : Uuid) (sha256 : String) : RunBinding := ⟨runId, 1, .deterministicOnly, "am", sha256, ["AC-1"], none⟩

def revision : PackageRevision :=
  ⟨1, .ready, some "fisma_agency_security", none, none, some "synthetic", some "public", none⟩

/-- two queued runs: the profile has changed since run `stale` was started -/
def tables (stale current : Uuid) : Db where
  queue := { runs := [run 1, run 2], jobs := [queued 1 1 1, queued 2 2 2] }
  bindings := [binding stale "old", binding current "sha"]
  packageRevisions := [revision]

end Small

/-- the run that succeeds comes first, and the failure is alone -/
theorem drain_stops_two : ∃ results db',
    drainDeterministicAnalysis Small.request Small.worker 3 0 [] (Small.tables 2 1) = some (.ok results, db') ∧
      results.length = 1 ∧ (∀ job ∈ db'.queue.jobs, eligible Small.request db' job = false) ∧
      ((∀ job ∈ db'.queue.jobs, eligible Small.request db' job = false) ↔
        ∀ m db₁, Visits Small.request Small.worker 0 (Small.tables 2 1) m db₁ →
          FailsAlone Small.request (Small.worker m) db₁) := by
  obtain ⟨out, hout, hiff⟩ := drain_stops Small.request Small.worker 3 0 [] (Small.tables 2 1) (by decide)
  have hlen : (drainDeterministicAnalysis Small.request Small.worker 3 0 [] (Small.tables 2 1)).map
      (fun o => o.1.toOption.map List.length) = some (some 1) := by decide
  have hidle : (drainDeterministicAnalysis Small.request Small.worker 3 0 [] (Small.tables 2 1)).map
      (fun o => o.2.queue.jobs.any (eligible Small.request o.2)) = some false := by decide
  rw [hout] at hlen hidle
  obtain ⟨_ | results, db'⟩ := out
  · cases hlen
  · refine ⟨results, db', hout, Option.some.inj (Option.some.inj hlen), ?_, hiff results db' rfl⟩
    intro job hjob
    simpa using List.any_eq_false.1 (Option.some.inj hidle) job hjob

/-- a run that fails first ends the drain, with the other still queued -/
theorem failed_run_ends_drain : ¬∀ (r : DrainRequest) (passes : Nat → Pass) (db : Db),
    (∀ n db₁, Visits r passes 0 db n db₁ → ∃ x db₂, Returns (drainPass r (passes n)) db₁ x db₂) →
    ∀ fuel results db', drainDeterministicAnalysis r passes fuel 0 [] db = some (.ok results, db') →
      ∀ job ∈ db'.queue.jobs, eligible r db' job = false := by
  intro h
  have hpass : (drainPass Small.request (Small.worker 0) (Small.tables 1 2)).1.toOption.map Option.isSome = some false := by
    decide
  have hleft : (drainPass Small.request (Small.worker 0) (Small.tables 1 2)).2.queue.jobs.any
      (eligible Small.request (drainPass Small.request (Small.worker 0) (Small.tables 1 2)).2) = true := by decide
  obtain ⟨x, db', hreturns⟩ : ∃ x db', drainPass Small.request (Small.worker 0) (Small.tables 1 2) = (.ok x, db') := by
    rcases hx : drainPass Small.request (Small.worker 0) (Small.tables 1 2) with ⟨_ | x, db'⟩
    · rw [hx] at hpass
      cases hpass
    · exact ⟨x, db', rfl⟩
  rw [hreturns] at hpass hleft
  obtain rfl : x = none := by
    cases x with
    | none => rfl
    | some result => cases hpass
  obtain ⟨job, hjob, heligible⟩ := List.any_eq_true.1 hleft
  have hdrain : drainDeterministicAnalysis Small.request Small.worker 1 0 [] (Small.tables 1 2) = some (.ok [], db') := by
    unfold drainDeterministicAnalysis
    rw [hreturns]
  have hfalse := h Small.request Small.worker (Small.tables 1 2) ?_ 1 [] db' hdrain job hjob
  · rw [hfalse] at heligible
    cases heligible
  · intro n db₁ hvisits
    cases hvisits with
    | here => exact ⟨none, db', hreturns⟩
    | next hpass' => cases hreturns.symm.trans hpass'

end AtoService.Analyzer
