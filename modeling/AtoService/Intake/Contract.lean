/-
The contract of the intake queue, in every run of its operations by any workers with one setting of `maxAttempts`.

The work and its attempts are read as a lease queue, `queue`; the holder of a lease is its fence token, with the owner and
the revision version that go with it. `Action` adds what the rest of the service does meanwhile, which is to write package
revisions. `step` keeps what an operation has written when it raises. No order of times is assumed.

- `heartbeat_returns`, `complete_returns`, `recordFailure_returns`, `mark_returns`, `claim_returns`, `recover_returns`: an
  operation that goes through moves each row as a lease queue allows.
- `raises_of_stale`: a call with a stale fence, an expired lease or a changed revision version raises.
- `unchanged_perform`: an operation that raises has written nothing.
- `intake_queue_contract`: the contract.
-/
import AtoService.Intake.Queue
import AtoService.Lib.Runs

namespace AtoService.Intake

open Session LeaseQueue Checks

/-! ## The queue of the intake tables -/

/-- who holds the lease of a row: its fence token, owner and revision version -/
abbrev Holder := Uuid × String × Int

def leaseHolder (work : IntakeWork) : Option Holder :=
  if work.leaseExpiresAt.isSome ∧ work.heartbeatAt.isSome then
    work.fenceToken.bind fun fence => work.leaseOwner.map fun owner => (fence, owner, work.expectedRevisionVersion)
  else none

def queue : Shape WorkKey Holder IntakeWork IntakeAttempt where
  rowKey := workKey
  status := IntakeWork.status
  attemptCount := IntakeWork.attemptCount
  holder := leaseHolder
  unheld work := work.leaseOwner.isNone && work.leaseExpiresAt.isNone && work.heartbeatAt.isNone && work.fenceToken.isNone
  owner a := (a.packageRevisionId, a.workPhase)
  number := IntakeAttempt.attemptNumber
  active a := a.status = .active
  attemptedBy a := (a.fenceToken, a.leaseOwner, a.expectedRevisionVersion)

def tables (db : Db) : Tables IntakeWork IntakeAttempt := ⟨db.intakeWork, db.intakeAttempts⟩

/-- available work has an attempt left -/
abbrev DbOk (M : Nat) (db : Db) : Prop := Inv queue M M (tables db)

abbrev Progress (M : Nat) (db db' : Db) : Prop := Advances queue M M (fun _ => True) (tables db) (tables db')

theorem leaseHolder_eq_some {work : IntakeWork} {fence : Uuid} {owner : String} {version : Int} :
    leaseHolder work = some (fence, owner, version) ↔ work.fenceToken = some fence ∧ work.leaseOwner = some owner ∧
      work.expectedRevisionVersion = version ∧ work.leaseExpiresAt.isSome ∧ work.heartbeatAt.isSome := by
  unfold leaseHolder
  split_ifs with hset
  · cases work.fenceToken <;> cases work.leaseOwner <;> simp [hset]
  · simp only [false_iff]
    exact fun h => hset h.2.2.2

theorem leaseHolder_isSome {work : IntakeWork} : (leaseHolder work).isSome ↔
    work.leaseOwner.isSome ∧ work.leaseExpiresAt.isSome ∧ work.heartbeatAt.isSome ∧ work.fenceToken.isSome := by
  unfold leaseHolder
  split_ifs with hset
  · cases work.fenceToken <;> cases work.leaseOwner <;> simp [hset]
  · simp only [Option.isSome_none, Bool.false_eq_true, false_iff]
    exact fun h => hset ⟨h.2.1, h.2.2.1⟩

theorem leaseHolder_setLeaseFields (work : IntakeWork) (leaseOwner : String) (fenceToken : Uuid) (now : Instant)
    (leaseSeconds : Int) : leaseHolder (setLeaseFields work leaseOwner fenceToken now leaseSeconds) =
      some (fenceToken, leaseOwner, work.expectedRevisionVersion) := rfl

theorem unheld_iff {work : IntakeWork} : queue.unheld work = true ↔
    work.leaseOwner = none ∧ work.leaseExpiresAt = none ∧ work.heartbeatAt = none ∧ work.fenceToken = none := by
  simp [queue, and_assoc]

variable {M : Nat} {db db' : Db}

/-! ## What the operations read -/

theorem requireWorkPhase_ok {s : String} {workPhase : IntakeWorkPhase} (h : requireWorkPhase s = .ok workPhase) :
    workPhase.value = s := by
  unfold requireWorkPhase at h
  split_ifs at h with h₁ h₂
  · rw [← Except.ok.inj h, h₁]
  · rw [← Except.ok.inj h, h₂]

theorem loadLeasedWork_returns {key : WorkKey} {leaseOwner : String} {fenceToken : Uuid} {now : Instant}
    {work : IntakeWork} (h : Returns (loadLeasedWork key leaseOwner fenceToken now) db work db') :
    db' = db ∧ work ∈ db.intakeWork ∧ workKey work = key ∧ validLease work leaseOwner fenceToken now := by
  simp only [loadLeasedWork, assertValidLease, returns_bind, returns_read, returns_orRaise, returns_ensure,
    returns_pure] at h
  obtain ⟨found, _, ⟨rfl, rfl⟩, work', _, ⟨hfound, rfl⟩, _, _, ⟨hvalid, rfl⟩, rfl, rfl⟩ := h
  obtain ⟨hmem, hkey⟩ := Rows.mem_of_get? hfound
  exact ⟨rfl, hmem, hkey, hvalid⟩

theorem readOnly_loadLeasedWork (key : WorkKey) (leaseOwner : String) (fenceToken : Uuid) (now : Instant) :
    ReadOnly (loadLeasedWork key leaseOwner fenceToken now) :=
  readOnly_bind (readOnly_read _) fun _ => readOnly_bind (readOnly_orRaise _ _) fun _ =>
    readOnly_bind (readOnly_ensure _ _) fun _ => readOnly_pure _

theorem active_filter (db : Db) (key : WorkKey) :
    (db.intakeAttempts.filter fun a => (a.packageRevisionId, a.workPhase) = key && a.status = .active) =
      (attemptsOf queue (tables db) key).filter queue.active := by
  rw [attemptsOf, List.filter_filter]
  exact List.filter_congr fun a _ => Bool.and_comm _ _

/-- the active attempt at a row, if there is one -/
theorem loadActiveAttempt_returns {key : WorkKey} {x : Option IntakeAttempt}
    (h : Returns (loadActiveAttemptForUpdate key) db x db') :
    db' = db ∧ (∀ a, x = some a → a ∈ attemptsOf queue (tables db) key ∧ queue.active a = true) ∧
      (x = none → ∀ a ∈ attemptsOf queue (tables db) key, queue.active a = false) := by
  simp only [loadActiveAttemptForUpdate, returns_bind, returns_read, returns_scalarOneOrNone] at h
  obtain ⟨as, _, ⟨rfl, rfl⟩, hlist, rfl⟩ := h
  rw [active_filter] at hlist
  refine ⟨rfl, fun a ha => ?_, fun hnone a ha => ?_⟩
  · rw [← List.mem_filter, hlist, ha]
    exact List.mem_singleton_self a
  · rw [hnone, Option.toList_none, List.filter_eq_nil_iff] at hlist
    simpa using hlist a ha

theorem readOnly_loadActiveAttempt (key : WorkKey) : ReadOnly (loadActiveAttemptForUpdate key) :=
  readOnly_bind (readOnly_read _) fun _ => readOnly_scalarOneOrNone _ _

theorem never_loadActiveAttempt (h : DbOk M db) {work : IntakeWork} (hwork : work ∈ db.intakeWork) :
    Never (loadActiveAttemptForUpdate (workKey work)) db := by
  intro e db' hraises
  simp only [loadActiveAttemptForUpdate, raises_bind, raises_read, returns_read, raises_scalarOneOrNone, false_or] at hraises
  obtain ⟨as, _, ⟨rfl, rfl⟩, hmany, -⟩ := hraises
  rw [active_filter] at hmany
  exact absurd (h.entries work hwork).active_le_one (Nat.not_le.2 hmany)

theorem loadLiveClaim_returns {c : Caller} {work : IntakeWork} {now : Instant} {operation : String}
    {x : PackageRevision × IntakeAttempt} (h : Returns (loadLiveClaim c work now operation) db x db') :
    db' = db ∧ db.packageRevision? c.packageRevisionId = some x.1 ∧
      x.1.revisionVersion = work.expectedRevisionVersion ∧
      x.2 ∈ attemptsOf queue (tables db) (workKey work) ∧ queue.active x.2 = true := by
  simp only [loadLiveClaim, assertIntakeClaimLive, assertValidLease, returns_bind, returns_read, returns_orRaise,
    returns_ensure, returns_pure] at h
  obtain ⟨found, _, ⟨rfl, rfl⟩, revision, _, ⟨hfound, rfl⟩, _, _, ⟨_, _, ⟨-, rfl⟩, hversion, rfl⟩, active, db₁, hactive,
    attempt, _, ⟨hsome, rfl⟩, rfl, rfl⟩ := h
  obtain ⟨rfl, ha, -⟩ := loadActiveAttempt_returns hactive
  exact ⟨rfl, hfound, hversion, ha attempt hsome⟩

theorem readOnly_loadLiveClaim (c : Caller) (work : IntakeWork) (now : Instant) (operation : String) :
    ReadOnly (loadLiveClaim c work now operation) :=
  readOnly_bind (readOnly_read _) fun _ => readOnly_bind (readOnly_orRaise _ _) fun _ =>
    readOnly_bind (readOnly_bind (readOnly_ensure _ _) fun _ => readOnly_ensure _ _) fun _ =>
    readOnly_bind (readOnly_loadActiveAttempt _) fun _ => readOnly_bind (readOnly_orRaise _ _) fun _ => readOnly_pure _

/-! ## What the operations write -/

/-- the holder of a lease that is accepted -/
theorem holder_eq (h : DbOk M db) {work : IntakeWork} (hwork : work ∈ db.intakeWork) {leaseOwner : String}
    {fenceToken : Uuid} {now : Instant} (hvalid : validLease work leaseOwner fenceToken now) :
    leaseHolder work = some (fenceToken, leaseOwner, work.expectedRevisionVersion) := by
  have hheld := leaseHolder_isSome.1 ((h.entries work hwork).held hvalid.1)
  exact leaseHolder_eq_some.2 ⟨hvalid.2.2.1, hvalid.2.1, rfl, hheld.2.1, hheld.2.2.1⟩

theorem heartbeat_returns (h : DbOk M db) {c : Caller} {leaseSeconds : Int} {u : Unit}
    (hr : Returns (heartbeatIntakeWork c leaseSeconds) db u db') : Progress M db db' := by
  simp only [heartbeatIntakeWork, returns_bind, returns_lift, returns_modify] at hr
  obtain ⟨now, _, ⟨-, rfl⟩, workPhase, _, ⟨-, rfl⟩, _, _, ⟨-, rfl⟩, _, _, ⟨-, rfl⟩, work, db₁, hload, rfl⟩ := hr
  obtain ⟨rfl, hwork, -, hvalid⟩ := loadLeasedWork_returns hload
  refine advances_extend h hwork rfl hvalid.1 hvalid.1 rfl ?_
  exact (leaseHolder_setLeaseFields work _ _ _ _).trans (holder_eq h hwork hvalid).symm

theorem complete_returns (h : DbOk M db) {c : Caller} {u : Unit} (hr : Returns (completeIntakeWork c) db u db') :
    Progress M db db' := by
  simp only [completeIntakeWork, returns_bind, returns_lift, returns_modify] at hr
  obtain ⟨now, _, ⟨-, rfl⟩, workPhase, _, ⟨-, rfl⟩, _, _, ⟨-, rfl⟩, work, db₁, hload, claim, db₂, hclaim, _, _, rfl, rfl⟩ := hr
  obtain ⟨rfl, hwork, -, hvalid⟩ := loadLeasedWork_returns hload
  obtain ⟨rfl, -, -, ha, hactive⟩ := loadLiveClaim_returns hclaim
  exact advances_settle h hwork rfl hvalid.1 (fun hs => by cases hs) rfl rfl (fun hs => by cases hs) ha hactive rfl rfl rfl

theorem recordFailure_returns {maxAttempts : Int} (h : DbOk maxAttempts.toNat db) {c : Caller} {f : Failure} {u : Unit}
    (hr : Returns (recordIntakeWorkFailure maxAttempts c f) db u db') : Progress maxAttempts.toNat db db' := by
  simp only [recordIntakeWorkFailure, returns_bind, returns_lift] at hr
  obtain ⟨now, _, ⟨-, rfl⟩, workPhase, _, ⟨-, rfl⟩, _, _, ⟨-, rfl⟩, _, _, ⟨-, rfl⟩, _, _, ⟨-, rfl⟩, work, db₁, hload, claim,
    db₂, hclaim, hr⟩ := hr
  obtain ⟨rfl, hwork, -, hvalid⟩ := loadLeasedWork_returns hload
  obtain ⟨rfl, -, -, ha, hactive⟩ := loadLiveClaim_returns hclaim
  split_ifs at hr with hretry
  · simp only [returns_bind, returns_lift, returns_modify] at hr
    obtain ⟨next, _, ⟨-, rfl⟩, _, _, rfl, rfl⟩ := hr
    refine advances_settle h hwork rfl hvalid.1 (fun hs => by cases hs) rfl rfl (fun _ _ => ?_) ha hactive rfl rfl rfl
    show work.attemptCount < maxAttempts.toNat
    omega
  · simp only [returns_bind, returns_modify] at hr
    obtain ⟨_, _, rfl, rfl⟩ := hr
    exact advances_settle h hwork rfl hvalid.1 (fun hs => by cases hs) rfl rfl (fun hs => by cases hs) ha hactive rfl rfl rfl

/-- the end of a lease, whether or not an attempt is active -/
theorem progress_endAttempt (h : DbOk M db) {work w : IntakeWork} (hwork : work ∈ db.intakeWork)
    (hleased : work.status = .leased) (hkey : workKey w = workKey work) (hended : w.status ≠ .leased)
    (hunheld : queue.unheld w = true) (hcount : w.attemptCount = work.attemptCount)
    (hspare : w.status = .available → 1 ≤ M → work.attemptCount < M) {attempt : Option IntakeAttempt} {db₁ db₂ : Db}
    (hload : Returns (loadActiveAttemptForUpdate (workKey work)) db attempt db₁) {now : Instant} {errorCode : String}
    {retryable : Bool} {u : Unit} (hend : Returns (endAttempt attempt now errorCode retryable) db₁ u db₂) :
    Progress M db (db₂.putWork w) ∧ db₂.intakeWork = db.intakeWork := by
  obtain ⟨rfl, hattempt, hnone⟩ := loadActiveAttempt_returns hload
  cases attempt with
  | none =>
    obtain ⟨-, rfl⟩ := returns_pure.1 hend
    exact ⟨advances_abandon h hwork hkey hleased hended hunheld hcount hspare (hnone rfl), rfl⟩
  | some a =>
    obtain rfl := returns_modify.1 hend
    obtain ⟨ha, hactive⟩ := hattempt a rfl
    exact ⟨advances_settle h hwork hkey hleased hended hunheld hcount hspare ha hactive rfl rfl rfl, rfl⟩

theorem mark_returns (h : DbOk M db) {c : Caller} {b : Bool}
    (hr : Returns (markIntakeWorkReconciliationRequired c) db b db') : Progress M db db' := by
  simp only [markIntakeWorkReconciliationRequired, returns_bind, returns_lift, returns_read] at hr
  obtain ⟨now, _, ⟨-, rfl⟩, workPhase, _, ⟨-, rfl⟩, _, _, ⟨-, rfl⟩, found, _, ⟨hfound, rfl⟩, hr⟩ := hr
  cases found with
  | none =>
    obtain ⟨-, rfl⟩ := returns_pure.1 hr
    exact advances_refl h
  | some work =>
    obtain ⟨hwork, hkey⟩ := Rows.mem_of_get? hfound
    dsimp only at hr
    split_ifs at hr with hvalid
    · simp only [returns_bind, returns_modify, returns_pure] at hr
      obtain ⟨attempt, db₁, hload, _, db₂, hend, _, _, rfl, -, rfl⟩ := hr
      rw [← hkey] at hload
      exact (progress_endAttempt h hwork hvalid.1
        (w := clearLeaseFields { work with
          status := .reconciliationRequired, lastErrorCode := some errorIntakeReconciliationRequired })
        rfl (fun hs => by cases hs) rfl rfl (fun hs => by cases hs) hload hend).1
    · obtain ⟨-, rfl⟩ := returns_pure.1 hr
      exact advances_refl h

/-! ## Claims -/

theorem claim_returns {maxAttempts : Int} (h : DbOk maxAttempts.toNat db) {r : ClaimRequest}
    {x : Option ClaimedIntakeWork} (hr : Returns (claimNextEligibleIntakeWork maxAttempts r) db x db') :
    Progress maxAttempts.toNat db db' := by
  simp only [claimNextEligibleIntakeWork, returns_bind, returns_lift, returns_read] at hr
  obtain ⟨now, _, ⟨-, rfl⟩, workPhase, _, ⟨-, rfl⟩, _, _, ⟨-, rfl⟩, _, _, ⟨-, rfl⟩, _, _, ⟨-, rfl⟩, origins, _, ⟨-, rfl⟩,
    selected, _, ⟨hselected, rfl⟩, hr⟩ := hr
  cases selected with
  | none =>
    obtain ⟨-, rfl⟩ := returns_pure.1 hr
    exact advances_refl h
  | some work =>
    obtain ⟨hwork, hclaimable⟩ := Rows.head_selected hselected
    simp only [claimable, Bool.and_eq_true, decide_eq_true_eq] at hclaimable
    simp only [claimWork, returns_bind, returns_ensure, returns_read, returns_orRaise, returns_modify, returns_pure] at hr
    obtain ⟨claimed, _, ⟨_, _, ⟨hspare, rfl⟩, found, _, ⟨rfl, rfl⟩, revision, _, ⟨-, rfl⟩, _, _, ⟨-, rfl⟩, _, _, rfl, _, _,
      rfl, -, rfl⟩, -, rfl⟩ := hr
    have hlt : work.attemptCount < maxAttempts.toNat := by omega
    exact advances_claim h hwork rfl trivial hclaimable.1.1.1.1.2 rfl hlt rfl rfl rfl rfl
      (leaseHolder_setLeaseFields _ _ _ _ _)

/-! ## Recovery -/

theorem recoveredWork_spec (maxAttempts : Int) (now : Instant) (work : IntakeWork) (attempt : Option IntakeAttempt)
    (revision : Option PackageRevision) {w : IntakeWork} (hw : recoveredWork maxAttempts now work attempt revision = w) :
    workKey w = workKey work ∧ w.status ≠ .leased ∧ queue.unheld w = true ∧ w.attemptCount = work.attemptCount ∧
      (w.status = .available → (work.attemptCount : Int) < maxAttempts) := by
  unfold recoveredWork at hw
  dsimp only at hw
  split at hw
  · split_ifs at hw with hstatus hcount
    · subst hw
      exact ⟨rfl, by simp, rfl, rfl, by simp⟩
    · subst hw
      exact ⟨rfl, by simp, rfl, rfl, by simp⟩
    · subst hw
      exact ⟨rfl, by simp, rfl, rfl, fun _ => not_le.1 hcount⟩
  · subst hw
    exact ⟨rfl, by simp, rfl, rfl, by simp⟩

theorem recoverSingle_returns {maxAttempts : Int} (h : DbOk maxAttempts.toNat db) {now : Instant} {work w : IntakeWork}
    (hwork : work ∈ db.intakeWork) (hleased : work.status = .leased)
    (hr : Returns (recoverSingleExpiredIntakeWork maxAttempts now work) db w db') :
    Progress maxAttempts.toNat db db' ∧ db'.intakeWork = Rows.put workKey w db.intakeWork ∧ workKey w = workKey work ∧
      w.status ≠ .leased := by
  simp only [recoverSingleExpiredIntakeWork, returns_bind, returns_ensure, returns_read, returns_modify, returns_pure] at hr
  obtain ⟨_, _, ⟨-, rfl⟩, attempt, db₁, hload, _, db₂, hend, revision, _, ⟨-, rfl⟩, _, _, rfl, hw, rfl⟩ := hr
  obtain ⟨hkey, hended, hunheld, hcount, hspare⟩ := recoveredWork_spec maxAttempts now work attempt revision hw
  rw [hw]
  obtain ⟨hp, hrows⟩ := progress_endAttempt h hwork hleased hkey hended hunheld hcount
    (fun hs _ => by have := hspare hs; omega) hload hend
  exact ⟨hp, congrArg (Rows.put workKey w) hrows, hkey, hended⟩

/-- several operations, one after another -/
abbrev Chain (M : Nat) : Db → Db → Prop := Relation.ReflTransGen (Progress M)

theorem chain_ok (h : DbOk M db) (hc : Chain M db db') : DbOk M db' := by
  induction hc with
  | refl => exact h
  | tail _ hp ih => exact inv_advances ih hp

theorem chain_final (hc : Chain M db db') : Final queue (tables db) (tables db') := by
  induction hc with
  | refl => exact Final.refl _
  | tail _ hp ih => exact ih.trans (final_advances hp)

/-- the other rows of a batch are as they were selected -/
theorem mem_of_batch {work w : IntakeWork} (hkey : workKey w = workKey work) {rows : List IntakeWork}
    (hnot : workKey work ∉ rows.map workKey) {x : IntakeWork} (hx : x ∈ rows) (hmem : x ∈ db.intakeWork) :
    x ∈ Rows.put workKey w db.intakeWork := by
  refine Rows.mem_put_of_ne hmem fun heq => hnot ?_
  rw [← hkey, ← heq]
  exact List.mem_map_of_mem hx

theorem recoverRows_returns {maxAttempts : Int} {now : Instant} {rows : List IntakeWork}
    (hkeys : (rows.map workKey).Nodup) (h : DbOk maxAttempts.toNat db)
    (hrows : ∀ work ∈ rows, work ∈ db.intakeWork ∧ work.status = .leased) {keys : List WorkKey}
    (hr : Returns (recoverRows maxAttempts now rows) db keys db') : Chain maxAttempts.toNat db db' := by
  induction rows generalizing db keys with
  | nil =>
    obtain ⟨-, rfl⟩ := returns_pure.1 hr
    exact .refl
  | cons work rows ih =>
    simp only [recoverRows, returns_bind, returns_ensure, returns_pure] at hr
    obtain ⟨w, db₁, hone, _, _, ⟨-, rfl⟩, rest, _, hrest, -, rfl⟩ := hr
    rw [List.map_cons, List.nodup_cons] at hkeys
    obtain ⟨hwork, hleased⟩ := hrows work List.mem_cons_self
    obtain ⟨hp, hput, hkey, -⟩ := recoverSingle_returns h hwork hleased hone
    refine Relation.ReflTransGen.head hp (ih hkeys.2 (inv_advances h hp) (fun x hx => ?_) hrest)
    obtain ⟨hmem, hl⟩ := hrows x (List.mem_cons_of_mem _ hx)
    exact ⟨hput ▸ mem_of_batch hkey hkeys.1 hx hmem, hl⟩

theorem recoverable_spec {r : RecoverRequest} {now : Instant} {work : IntakeWork} (h : recoverable r now work = true) :
    work.status = .leased ∧ leaseIsExpired work.leaseExpiresAt now = true := by
  simp only [recoverable, Bool.and_eq_true, decide_eq_true_eq] at h
  refine ⟨h.1.1, ?_⟩
  have hexpired := h.1.2
  cases he : work.leaseExpiresAt with
  | none => rfl
  | some e =>
    rw [he] at hexpired
    exact hexpired

theorem recover_returns {maxAttempts : Int} (h : DbOk maxAttempts.toNat db) {r : RecoverRequest} {keys : List WorkKey}
    (hr : Returns (recoverExpiredIntakeLeases maxAttempts r) db keys db') : Chain maxAttempts.toNat db db' := by
  simp only [recoverExpiredIntakeLeases, returns_bind, returns_lift, returns_read] at hr
  obtain ⟨now, _, ⟨-, rfl⟩, _, _, ⟨-, rfl⟩, _, _, ⟨-, rfl⟩, rows, _, ⟨rfl, rfl⟩, hr⟩ := hr
  refine recoverRows_returns (Rows.nodup_selected h.keys _ _ _) h (fun work hwork => ?_) hr
  obtain ⟨hmem, hrec⟩ := Rows.mem_selected hwork
  exact ⟨hmem, (recoverable_spec hrec).1⟩

/-! ## Operations that raise -/

theorem unchanged_heartbeat (c : Caller) (leaseSeconds : Int) (db : Db) :
    Unchanged (heartbeatIntakeWork c leaseSeconds) db := by
  refine unchanged_bind (readOnly_lift _) fun now _ => unchanged_bind (readOnly_lift _) fun workPhase _ =>
    unchanged_bind (readOnly_lift _) fun _ _ => unchanged_bind (readOnly_lift _) fun _ _ =>
    unchanged_bind (readOnly_loadLeasedWork _ _ _ _) fun work _ => ?_
  exact (never_modify _ _).unchanged

theorem unchanged_complete (c : Caller) (db : Db) : Unchanged (completeIntakeWork c) db := by
  refine unchanged_bind (readOnly_lift _) fun now _ => unchanged_bind (readOnly_lift _) fun workPhase _ =>
    unchanged_bind (readOnly_lift _) fun _ _ => unchanged_bind (readOnly_loadLeasedWork _ _ _ _) fun work _ =>
    unchanged_bind (readOnly_loadLiveClaim _ _ _ _) fun claim _ => ?_
  exact (never_bind (never_modify _ _) fun _ _ _ => never_modify _ _).unchanged

theorem unchanged_recordFailure (maxAttempts : Int) (c : Caller) (f : Failure) (db : Db) :
    Unchanged (recordIntakeWorkFailure maxAttempts c f) db := by
  refine unchanged_bind (readOnly_lift _) fun now _ => unchanged_bind (readOnly_lift _) fun workPhase _ =>
    unchanged_bind (readOnly_lift _) fun _ _ => unchanged_bind (readOnly_lift _) fun _ _ =>
    unchanged_bind (readOnly_lift _) fun _ _ => unchanged_bind (readOnly_loadLeasedWork _ _ _ _) fun work _ =>
    unchanged_bind (readOnly_loadLiveClaim _ _ _ _) fun claim _ => ?_
  split_ifs
  · refine unchanged_bind (readOnly_lift _) fun next _ => ?_
    exact (never_bind (never_modify _ _) fun _ _ _ => never_modify _ _).unchanged
  · exact (never_bind (never_modify _ _) fun _ _ _ => never_modify _ _).unchanged

theorem never_endAttempt (attempt : Option IntakeAttempt) (now : Instant) (errorCode : String) (retryable : Bool)
    (db : Db) : Never (endAttempt attempt now errorCode retryable) db := by
  cases attempt with
  | none => exact never_pure _ _
  | some a => exact never_modify _ _

theorem unchanged_mark (c : Caller) (db : Db) : Unchanged (markIntakeWorkReconciliationRequired c) db := by
  refine unchanged_bind (readOnly_lift _) fun now _ => unchanged_bind (readOnly_lift _) fun workPhase _ =>
    unchanged_bind (readOnly_lift _) fun _ _ => unchanged_bind (readOnly_read _) fun found _ => ?_
  cases found with
  | none => exact (never_pure _ _).unchanged
  | some work =>
    dsimp only
    split_ifs
    · refine unchanged_bind (readOnly_loadActiveAttempt _) fun attempt _ => ?_
      exact (never_bind (never_endAttempt _ _ _ _ _) fun _ _ _ => never_bind (never_modify _ _) fun _ _ _ =>
        never_pure _ _).unchanged
    · exact (never_pure _ _).unchanged

theorem unchanged_claim (maxAttempts : Int) (r : ClaimRequest) (db : Db) :
    Unchanged (claimNextEligibleIntakeWork maxAttempts r) db := by
  refine unchanged_bind (readOnly_lift _) fun now _ => unchanged_bind (readOnly_lift _) fun workPhase _ =>
    unchanged_bind (readOnly_lift _) fun _ _ => unchanged_bind (readOnly_lift _) fun _ _ =>
    unchanged_bind (readOnly_lift _) fun _ _ => unchanged_bind (readOnly_lift _) fun origins _ =>
    unchanged_bind (readOnly_read _) fun selected _ => ?_
  cases selected with
  | none => exact (never_pure _ _).unchanged
  | some work =>
    have hclaim : Unchanged (claimWork maxAttempts r now work) db := by
      refine unchanged_bind (readOnly_ensure _ _) fun _ _ => unchanged_bind (readOnly_read _) fun found _ =>
        unchanged_bind (readOnly_orRaise _ _) fun revision _ => unchanged_bind (readOnly_ensure _ _) fun _ _ => ?_
      exact (never_bind (never_modify _ _) fun _ _ _ => never_bind (never_modify _ _) fun _ _ _ =>
        never_pure _ _).unchanged
    intro e db' hraises
    rcases raises_bind.1 hraises with hraises | ⟨claimed, db₁, -, hraises⟩
    · exact hclaim e db' hraises
    · exact absurd hraises (never_pure _ _ e db')

theorem never_recoverRows {maxAttempts : Int} {now : Instant} {rows : List IntakeWork}
    (hkeys : (rows.map workKey).Nodup) (h : DbOk maxAttempts.toNat db)
    (hrows : ∀ work ∈ rows, work ∈ db.intakeWork ∧ work.status = .leased ∧
      leaseIsExpired work.leaseExpiresAt now = true) : Never (recoverRows maxAttempts now rows) db := by
  induction rows generalizing db with
  | nil => exact never_pure _ _
  | cons work rows ih =>
    rw [List.map_cons, List.nodup_cons] at hkeys
    obtain ⟨hwork, hleased, hexpired⟩ := hrows work List.mem_cons_self
    have hone : Never (recoverSingleExpiredIntakeWork maxAttempts now work) db := by
      refine never_bind (never_ensure hexpired _ _) fun _ db₁ h₁ => ?_
      obtain ⟨-, rfl⟩ := returns_ensure.1 h₁
      exact never_bind (never_loadActiveAttempt h hwork) fun _ _ _ => never_bind (never_endAttempt _ _ _ _ _) fun _ _ _ =>
        never_bind (never_read _ _) fun _ _ _ => never_bind (never_modify _ _) fun _ _ _ => never_pure _ _
    refine never_bind hone fun w db₁ h₁ => ?_
    obtain ⟨hp, hput, hkey, hended⟩ := recoverSingle_returns h hwork hleased h₁
    refine never_bind (never_ensure hended _ _) fun _ db₂ h₂ => ?_
    obtain ⟨-, rfl⟩ := returns_ensure.1 h₂
    refine never_bind (ih hkeys.2 (inv_advances h hp) fun x hx => ?_) fun _ _ _ => never_pure _ _
    obtain ⟨hmem, hrest⟩ := hrows x (List.mem_cons_of_mem _ hx)
    exact ⟨hput ▸ mem_of_batch hkey hkeys.1 hx hmem, hrest⟩

theorem unchanged_recover {maxAttempts : Int} (h : DbOk maxAttempts.toNat db) (r : RecoverRequest) :
    Unchanged (recoverExpiredIntakeLeases maxAttempts r) db := by
  refine unchanged_bind (readOnly_lift _) fun now _ => unchanged_bind (readOnly_lift _) fun _ _ =>
    unchanged_bind (readOnly_lift _) fun _ _ => unchanged_bind (readOnly_read _) fun rows hselected => ?_
  obtain ⟨rfl, -⟩ := returns_read.1 hselected
  refine (never_recoverRows (Rows.nodup_selected h.keys _ _ _) h fun work hwork => ?_).unchanged
  obtain ⟨hmem, hrec⟩ := Rows.mem_selected hwork
  exact ⟨hmem, recoverable_spec hrec⟩

/-! ## Stale claims -/

/-- the row that a caller names -/
def Caller.Names (c : Caller) (work : IntakeWork) : Prop :=
  work.packageRevisionId = c.packageRevisionId ∧ work.workPhase.value = c.workPhase

/-- the caller no longer holds its claim -/
inductive Stale (db : Db) (c : Caller) : Prop
  | fence (h : ∀ work ∈ db.intakeWork, c.Names work → work.fenceToken ≠ some c.fenceToken)
  | expired (h : ∀ work ∈ db.intakeWork, c.Names work → ∀ e ∈ work.leaseExpiresAt, e ≤ c.now.instant)
  | version (h : ∀ work ∈ db.intakeWork, c.Names work → ∀ revision ∈ db.packageRevisions,
      revision.packageRevisionId = work.packageRevisionId → revision.revisionVersion ≠ work.expectedRevisionVersion)

/-- what a call that goes through has checked -/
theorem not_stale {c : Caller} {now : Instant} (hnow : requireAwareUtc c.now "now" = .ok now) {workPhase : IntakeWorkPhase}
    (hphase : requireWorkPhase c.workPhase = .ok workPhase) {work : IntakeWork} {db₁ : Db}
    (hload : Returns (loadLeasedWork (c.packageRevisionId, workPhase) c.leaseOwner c.fenceToken now) db work db₁)
    {operation : String} {claim : PackageRevision × IntakeAttempt} {db₂ : Db}
    (hclaim : Returns (loadLiveClaim c work now operation) db₁ claim db₂) : ¬Stale db c := by
  obtain ⟨rfl, hwork, hkey, hvalid⟩ := loadLeasedWork_returns hload
  obtain ⟨-, hfound, hversion, -⟩ := loadLiveClaim_returns hclaim
  have hid : work.packageRevisionId = c.packageRevisionId := congrArg Prod.fst hkey
  have hnames : c.Names work := ⟨hid, (congrArg (IntakeWorkPhase.value ∘ Prod.snd) hkey).trans (requireWorkPhase_ok hphase)⟩
  have hinstant : c.now.instant = now := by
    unfold requireAwareUtc Checks.requireAwareUtc at hnow
    split_ifs at hnow
    exact Except.ok.inj hnow
  rintro (h | h | h)
  · exact h work hwork hnames hvalid.2.2.1
  · obtain ⟨-, -, -, hexpiry⟩ := hvalid
    have hall : leaseIsExpired work.leaseExpiresAt now = true := by
      cases he : work.leaseExpiresAt with
      | none => rfl
      | some e => exact decide_eq_true (hinstant ▸ h work hwork hnames e he)
    rw [hexpiry] at hall
    cases hall
  · obtain ⟨hmem, hrevision⟩ := Rows.mem_of_get? hfound
    exact h work hwork hnames claim.1 hmem (hrevision.trans hid.symm) hversion

theorem raises_of_not_returns {α : Type} {x : Session Db IntakeError α} (hu : Unchanged x db)
    (h : ∀ a db', ¬Returns x db a db') : ∃ e, Raises x db e db := by
  rcases returns_or_raises x db with ⟨a, db', hr⟩ | ⟨e, db', hr⟩
  · exact absurd hr (h a db')
  · have heq := hu e db' hr
    rw [heq] at hr
    exact ⟨e, hr⟩

/-- **A stale claim** neither completes nor fails its work: the call raises and changes nothing. -/
theorem raises_of_stale {c : Caller} (h : Stale db c) (maxAttempts : Int) :
    (∃ e, Raises (completeIntakeWork c) db e db) ∧
      ∀ f, ∃ e, Raises (recordIntakeWorkFailure maxAttempts c f) db e db := by
  refine ⟨raises_of_not_returns (unchanged_complete c db) fun u db' hr => ?_,
    fun f => raises_of_not_returns (unchanged_recordFailure maxAttempts c f db) fun u db' hr => ?_⟩
  · simp only [completeIntakeWork, returns_bind, returns_lift] at hr
    obtain ⟨now, _, ⟨hnow, rfl⟩, workPhase, _, ⟨hphase, rfl⟩, _, _, ⟨-, rfl⟩, work, db₁, hload, claim, db₂, hclaim, -⟩ := hr
    exact not_stale hnow hphase hload hclaim h
  · simp only [recordIntakeWorkFailure, returns_bind, returns_lift] at hr
    obtain ⟨now, _, ⟨hnow, rfl⟩, workPhase, _, ⟨hphase, rfl⟩, _, _, ⟨-, rfl⟩, _, _, ⟨-, rfl⟩, _, _, ⟨-, rfl⟩, work, db₁, hload,
      claim, db₂, hclaim, -⟩ := hr
    exact not_stale hnow hphase hload hclaim h

/-! ## Runs of the queue -/

inductive Action where
  | bootstrapMalwareScan (r : BootstrapRequest)
  | bootstrapDeterministicExtract (r : BootstrapRequest)
  | claim (r : ClaimRequest)
  | heartbeat (c : Caller) (leaseSeconds : Int)
  | complete (c : Caller)
  | recordFailure (c : Caller) (f : Failure)
  | markReconciliationRequired (c : Caller)
  | recover (r : RecoverRequest)
  | writePackageRevision (revision : PackageRevision)
deriving DecidableEq, Repr

def perform (maxAttempts : Int) : Action → Session Db IntakeError Unit
  | .bootstrapMalwareScan r => bootstrapMalwareScanWork r >>= fun _ => pure ()
  | .bootstrapDeterministicExtract r => bootstrapDeterministicExtractWork r >>= fun _ => pure ()
  | .claim r => claimNextEligibleIntakeWork maxAttempts r >>= fun _ => pure ()
  | .heartbeat c leaseSeconds => heartbeatIntakeWork c leaseSeconds
  | .complete c => completeIntakeWork c
  | .recordFailure c f => recordIntakeWorkFailure maxAttempts c f
  | .markReconciliationRequired c => markIntakeWorkReconciliationRequired c >>= fun _ => pure ()
  | .recover r => recoverExpiredIntakeLeases maxAttempts r >>= fun _ => pure ()
  | .writePackageRevision revision => writePackageRevision revision

/-- an operation, with what it has written when it raises -/
def step (maxAttempts : Int) (db : Db) (a : Action) : Db := (perform maxAttempts a db).2

/-- the tables after a run from empty ones -/
def reached (maxAttempts : Int) (as : List Action) : Db := Runs.run (step maxAttempts) {} as

theorem bootstrapWork_returns {workPhase : IntakeWorkPhase} {r : BootstrapRequest} {w : IntakeWork}
    (hr : Returns (bootstrapWork workPhase r) db w db') : ∃ now, (r.packageRevisionId, workPhase) ∉ db.intakeWork.map workKey ∧
      db' = { db with intakeWork := db.intakeWork ++ [newWork r workPhase now] } := by
  simp only [bootstrapWork, returns_bind, returns_lift, returns_read, returns_ensure, returns_modify, returns_pure] at hr
  obtain ⟨now, _, ⟨-, rfl⟩, _, _, ⟨-, rfl⟩, _, _, ⟨-, rfl⟩, _, _, ⟨-, rfl⟩, _, _, ⟨rfl, rfl⟩, _, _, ⟨hnew, rfl⟩, _, _, rfl, -,
    rfl⟩ := hr
  exact ⟨now, hnew, rfl⟩

theorem unchanged_bootstrapWork (workPhase : IntakeWorkPhase) (r : BootstrapRequest) (db : Db) :
    Unchanged (bootstrapWork workPhase r) db :=
  unchanged_bind (readOnly_lift _) fun _ _ => unchanged_bind (readOnly_lift _) fun _ _ =>
    unchanged_bind (readOnly_read _) fun _ _ => unchanged_bind (readOnly_ensure _ _) fun _ _ =>
    unchanged_bind (readOnly_read _) fun _ _ => unchanged_bind (readOnly_ensure _ _) fun _ _ =>
    (never_bind (never_modify _ _) fun _ _ _ => never_pure _ _).unchanged

/-- a result that is dropped -/
theorem unchanged_discard {α : Type} {x : Session Db IntakeError α} (hx : Unchanged x db) :
    Unchanged (x >>= fun _ => pure ()) db := by
  intro e db' hraises
  rcases raises_bind.1 hraises with hraises | ⟨_, _, -, hraises⟩
  · exact hx e db' hraises
  · exact absurd hraises (never_pure _ _ e db')

/-- **An operation that raises** has written nothing. -/
theorem unchanged_perform {maxAttempts : Int} (h : DbOk maxAttempts.toNat db) (a : Action) :
    Unchanged (perform maxAttempts a) db := by
  cases a with
  | bootstrapMalwareScan r => exact unchanged_discard (unchanged_bootstrapWork _ r db)
  | bootstrapDeterministicExtract r => exact unchanged_discard (unchanged_bootstrapWork _ r db)
  | claim r => exact unchanged_discard (unchanged_claim maxAttempts r db)
  | heartbeat c leaseSeconds => exact unchanged_heartbeat c leaseSeconds db
  | complete c => exact unchanged_complete c db
  | recordFailure c f => exact unchanged_recordFailure maxAttempts c f db
  | markReconciliationRequired c => exact unchanged_discard (unchanged_mark c db)
  | recover r => exact unchanged_discard (unchanged_recover h r)
  | writePackageRevision revision => exact (never_modify _ _).unchanged

/-- **One operation** keeps the invariant, and the rows in a terminal status. -/
theorem step_keeps {maxAttempts : Int} (h : DbOk maxAttempts.toNat db) (a : Action) :
    DbOk maxAttempts.toNat (step maxAttempts db a) ∧ Final queue (tables db) (tables (step maxAttempts db a)) := by
  rcases returns_or_raises (perform maxAttempts a) db with ⟨u, db', hr⟩ | ⟨e, db', hr⟩
  · have hstep : step maxAttempts db a = db' := congrArg Prod.snd hr
    rw [hstep]
    have hprogress (hp : Progress maxAttempts.toNat db db') :
        DbOk maxAttempts.toNat db' ∧ Final queue (tables db) (tables db') := ⟨inv_advances h hp, final_advances hp⟩
    have hbootstrap {workPhase : IntakeWorkPhase} {r : BootstrapRequest} {w : IntakeWork}
        (hb : Returns (bootstrapWork workPhase r) db w db') :
        DbOk maxAttempts.toNat db' ∧ Final queue (tables db) (tables db') := by
      obtain ⟨now, hnew, rfl⟩ := bootstrapWork_returns hb
      exact ⟨inv_enqueue h hnew rfl rfl rfl, Final.enqueue _ _⟩
    cases a with
    | bootstrapMalwareScan r =>
      obtain ⟨w, _, hb, hpure⟩ := returns_bind.1 hr
      obtain ⟨-, rfl⟩ := returns_pure.1 hpure
      exact hbootstrap hb
    | bootstrapDeterministicExtract r =>
      obtain ⟨w, _, hb, hpure⟩ := returns_bind.1 hr
      obtain ⟨-, rfl⟩ := returns_pure.1 hpure
      exact hbootstrap hb
    | claim r =>
      obtain ⟨x, _, hclaim, hpure⟩ := returns_bind.1 hr
      obtain ⟨-, rfl⟩ := returns_pure.1 hpure
      exact hprogress (claim_returns h hclaim)
    | heartbeat c leaseSeconds => exact hprogress (heartbeat_returns h hr)
    | complete c => exact hprogress (complete_returns h hr)
    | recordFailure c f => exact hprogress (recordFailure_returns h hr)
    | markReconciliationRequired c =>
      obtain ⟨b, _, hmark, hpure⟩ := returns_bind.1 hr
      obtain ⟨-, rfl⟩ := returns_pure.1 hpure
      exact hprogress (mark_returns h hmark)
    | recover r =>
      obtain ⟨keys, _, hrecover, hpure⟩ := returns_bind.1 hr
      obtain ⟨-, rfl⟩ := returns_pure.1 hpure
      have hc := recover_returns h hrecover
      exact ⟨chain_ok h hc, chain_final hc⟩
    | writePackageRevision revision =>
      obtain rfl := returns_modify.1 hr
      split_ifs
      · exact ⟨h, Final.refl _⟩
      · exact ⟨h, Final.refl _⟩
  · have hstep : step maxAttempts db a = db' := congrArg Prod.snd hr
    rw [hstep, unchanged_perform h a e db' hr]
    exact ⟨h, Final.refl _⟩

theorem run_keeps {maxAttempts : Int} (h : DbOk maxAttempts.toNat db) (l : List Action) :
    DbOk maxAttempts.toNat (Runs.run (step maxAttempts) db l) ∧
      Final queue (tables db) (tables (Runs.run (step maxAttempts) db l)) := by
  induction l generalizing db with
  | nil => exact ⟨h, Final.refl _⟩
  | cons a l ih =>
    obtain ⟨hok, hfinal⟩ := step_keeps h a
    obtain ⟨hok', hfinal'⟩ := ih hok
    exact ⟨hok', hfinal.trans hfinal'⟩

/-! ## The contract -/

/-- what holds of the tables at any time -/
structure Contract (maxAttempts : Int) (db : Db) : Prop where
  leased : ∀ work ∈ db.intakeWork, work.status = .leased ↔
    work.leaseOwner.isSome ∧ work.leaseExpiresAt.isSome ∧ work.heartbeatAt.isSome ∧ work.fenceToken.isSome
  unheld : ∀ work ∈ db.intakeWork, work.status ≠ .leased →
    work.leaseOwner = none ∧ work.leaseExpiresAt = none ∧ work.heartbeatAt = none ∧ work.fenceToken = none
  numbered : ∀ work ∈ db.intakeWork,
    (db.intakeAttempts.filter fun a => (a.packageRevisionId, a.workPhase) = workKey work).map IntakeAttempt.attemptNumber =
      List.range' 1 work.attemptCount
  bounded : ∀ work ∈ db.intakeWork, work.attemptCount ≤ maxAttempts.toNat
  /-- a budget below one is refused by every claim -/
  spare : 1 ≤ maxAttempts → ∀ work ∈ db.intakeWork, work.status = .available → (work.attemptCount : Int) < maxAttempts
  active : ∀ a ∈ db.intakeAttempts, a.status = .active →
    ∃ work ∈ db.intakeWork, workKey work = (a.packageRevisionId, a.workPhase) ∧ work.status = .leased ∧
      work.fenceToken = some a.fenceToken ∧ work.leaseOwner = some a.leaseOwner ∧
      work.expectedRevisionVersion = a.expectedRevisionVersion
  single : ∀ a ∈ db.intakeAttempts, ∀ a' ∈ db.intakeAttempts, a.status = .active → a'.status = .active →
    (a.packageRevisionId, a.workPhase) = (a'.packageRevisionId, a'.workPhase) → a = a'

theorem contract_of_ok {maxAttempts : Int} (h : DbOk maxAttempts.toNat db) : Contract maxAttempts db where
  leased work hwork := by
    refine ⟨fun hl => leaseHolder_isSome.1 ((h.entries work hwork).held hl), fun hset => ?_⟩
    by_contra hne
    have hunheld := unheld_iff.1 ((h.entries work hwork).unheld hne)
    rw [hunheld.1] at hset
    cases hset.1
  unheld work hwork hne := unheld_iff.1 ((h.entries work hwork).unheld hne)
  numbered work hwork := (h.entries work hwork).numbered
  bounded work hwork := (h.entries work hwork).bounded
  spare hpos work hwork havailable := by
    have hlt := (h.entries work hwork).spare havailable (by omega)
    have hlt' : work.attemptCount < maxAttempts.toNat := hlt
    omega
  active a ha hactive := by
    obtain ⟨work, hwork, hkey⟩ := List.mem_map.1 (h.owned a ha)
    have hmem : a ∈ attemptsOf queue (tables db) (queue.rowKey work) := (mem_attemptsOf queue).2 ⟨ha, hkey.symm⟩
    obtain ⟨hl, hholder⟩ := (h.entries work hwork).active a hmem (decide_eq_true hactive)
    obtain ⟨hfence, howner, hversion, -, -⟩ := leaseHolder_eq_some.1 hholder
    exact ⟨work, hwork, hkey, hl, hfence, howner, hversion⟩
  single a ha a' ha' hactive hactive' heq := by
    obtain ⟨work, hwork, hkey⟩ := List.mem_map.1 (h.owned a ha)
    exact (h.entries work hwork).single a ((mem_attemptsOf queue).2 ⟨ha, hkey.symm⟩) a'
      ((mem_attemptsOf queue).2 ⟨ha', heq.symm.trans hkey.symm⟩) (decide_eq_true hactive) (decide_eq_true hactive')

/-- **The intake queue** after every sequence of operations: the joint invariant of work and attempts, that work in a
terminal status never changes, that a stale claim can neither complete nor fail its work, and that an operation that
raises has written nothing. -/
theorem intake_queue_contract (maxAttempts : Int) (as bs : List Action) :
    Contract maxAttempts (reached maxAttempts as) ∧
      Final queue (tables (reached maxAttempts as)) (tables (reached maxAttempts (as ++ bs))) ∧
      (∀ c, Stale (reached maxAttempts as) c →
        (∃ e, Raises (completeIntakeWork c) (reached maxAttempts as) e (reached maxAttempts as)) ∧
        ∀ f, ∃ e, Raises (recordIntakeWorkFailure maxAttempts c f) (reached maxAttempts as) e (reached maxAttempts as)) ∧
      ∀ a, Unchanged (perform maxAttempts a) (reached maxAttempts as) := by
  have hok : DbOk maxAttempts.toNat (reached maxAttempts as) := (run_keeps (inv_empty _ _) as).1
  refine ⟨contract_of_ok hok, ?_, fun c hstale => raises_of_stale hstale maxAttempts, unchanged_perform hok⟩
  unfold reached at hok ⊢
  rw [Runs.run_append]
  exact (run_keeps hok bs).2

end AtoService.Intake
