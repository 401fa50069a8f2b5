/-
Fence tokens of intake work: which row holds one, and what an operation of the queue does with them.

`Holds db key fence` says that the work of `key` is leased under `fence`, and `Closed db key` that it has ended for good. An
operation gives a fence token to a row only by a claim, which draws it; `QueueStep` puts this beside what the contract of
the queue says of an operation. So a worker whose lease was lost never holds the work again.
-/
import AtoService.Intake.Contract

namespace AtoService.Intake

open Session LeaseQueue Checks

variable {M : Nat} {db db' db'' : Db} {drawn : Option Uuid}

def Holds (db : Db) (key : WorkKey) (fence : Uuid) : Prop :=
  ∃ work ∈ db.intakeWork, workKey work = key ∧ work.fenceToken = some fence

def Closed (db : Db) (key : WorkKey) : Prop :=
  ∃ work ∈ db.intakeWork, workKey work = key ∧ work.status.terminal = true

/-- a fence token in a row was there before, or is the one drawn -/
def FencesFrom (drawn : Option Uuid) (db db' : Db) : Prop :=
  ∀ key fence, Holds db' key fence → drawn = some fence ∨ Holds db key fence

/-- work under a fence token is leased -/
theorem leased_of_fence (h : DbOk M db) {work : IntakeWork} (hwork : work ∈ db.intakeWork) {fence : Uuid}
    (hfence : work.fenceToken = some fence) : work.status = .leased := by
  by_contra hne
  have hunheld := (unheld_iff.1 ((h.entries work hwork).unheld hne)).2.2.2
  rw [hfence] at hunheld
  cases hunheld

/-- work has one holder -/
theorem Holds.unique (h : DbOk M db) {key : WorkKey} {fence fence' : Uuid} (hf : Holds db key fence)
    (hf' : Holds db key fence') : fence = fence' := by
  obtain ⟨work, hwork, hkey, hfence⟩ := hf
  obtain ⟨work', hwork', hkey', hfence'⟩ := hf'
  rw [Rows.eq_of_mem h.keys hwork' hwork (hkey'.trans hkey.symm), hfence] at hfence'
  exact Option.some.inj hfence'

theorem Closed.not_holds (h : DbOk M db) {key : WorkKey} (hc : Closed db key) (fence : Uuid) : ¬Holds db key fence := by
  rintro ⟨work, hwork, hkey, hfence⟩
  obtain ⟨work', hwork', hkey', hterminal⟩ := hc
  rw [Rows.eq_of_mem h.keys hwork' hwork (hkey'.trans hkey.symm), leased_of_fence h hwork hfence] at hterminal
  cases hterminal

/-! ## What an operation writes -/

theorem FencesFrom.refl (drawn : Option Uuid) (db : Db) : FencesFrom drawn db db := fun _ _ h => Or.inr h

/-- a row is written with the fence token that it had, with none, or with the one drawn -/
theorem fencesFrom_put {work w : IntakeWork} (hwork : work ∈ db.intakeWork)
    (hrows : db'.intakeWork = Rows.put workKey w db.intakeWork) (hkey : workKey w = workKey work)
    (hfence : ∀ fence, w.fenceToken = some fence → drawn = some fence ∨ work.fenceToken = some fence) :
    FencesFrom drawn db db' := by
  rintro key fence ⟨x, hx, hxkey, hxfence⟩
  rw [hrows] at hx
  rcases (Rows.mem_put (hkey ▸ List.mem_map_of_mem hwork)).1 hx with rfl | ⟨hx, -⟩
  · rcases hfence fence hxfence with hdrawn | hheld
    · exact Or.inl hdrawn
    · exact Or.inr ⟨work, hwork, hkey.symm.trans hxkey, hheld⟩
  · exact Or.inr ⟨x, hx, hxkey, hxfence⟩

/-- a row is written without a fence token -/
theorem fencesFrom_clear {work w : IntakeWork} (hwork : work ∈ db.intakeWork)
    (hrows : db'.intakeWork = Rows.put workKey w db.intakeWork) (hkey : workKey w = workKey work)
    (hcleared : w.fenceToken = none) : FencesFrom drawn db db' := by
  refine fencesFrom_put hwork hrows hkey fun fence hfence => ?_
  rw [hcleared] at hfence
  cases hfence

/-- a row is written with a terminal status -/
theorem closed_put {work w : IntakeWork} (hwork : work ∈ db.intakeWork)
    (hrows : db'.intakeWork = Rows.put workKey w db.intakeWork) (hkey : workKey w = workKey work)
    (hterminal : w.status.terminal = true) : Closed db' (workKey work) := by
  refine ⟨w, ?_, hkey, hterminal⟩
  rw [hrows]
  exact (Rows.mem_put (hkey ▸ List.mem_map_of_mem hwork)).2 (Or.inl rfl)

theorem heartbeat_fences {c : Caller} {leaseSeconds : Int} {u : Unit}
    (hr : Returns (heartbeatIntakeWork c leaseSeconds) db u db') : FencesFrom drawn db db' := by
  simp only [heartbeatIntakeWork, returns_bind, returns_lift, returns_modify] at hr
  obtain ⟨now, _, ⟨-, rfl⟩, workPhase, _, ⟨-, rfl⟩, _, _, ⟨-, rfl⟩, _, _, ⟨-, rfl⟩, work, db₁, hload, rfl⟩ := hr
  obtain ⟨rfl, hwork, -, hvalid⟩ := loadLeasedWork_returns hload
  refine fencesFrom_put hwork rfl rfl fun fence hfence => ?_
  exact Or.inr (hvalid.2.2.1.trans hfence)

theorem complete_fences {c : Caller} {u : Unit} (hr : Returns (completeIntakeWork c) db u db') :
    FencesFrom drawn db db' ∧
      ∀ workPhase, requireWorkPhase c.workPhase = .ok workPhase → Closed db' (c.packageRevisionId, workPhase) := by
  simp only [completeIntakeWork, returns_bind, returns_lift, returns_modify] at hr
  obtain ⟨now, _, ⟨-, rfl⟩, phase, _, ⟨hphase, rfl⟩, _, _, ⟨-, rfl⟩, work, db₁, hload, claim, db₂, hclaim, _, _, rfl, rfl⟩ := hr
  obtain ⟨rfl, hwork, hkey, -⟩ := loadLeasedWork_returns hload
  obtain ⟨rfl, -⟩ := loadLiveClaim_returns hclaim
  refine ⟨fencesFrom_clear hwork rfl rfl rfl, fun workPhase hsame => ?_⟩
  obtain rfl := Except.ok.inj (hphase.symm.trans hsame)
  rw [← hkey]
  exact closed_put hwork rfl rfl rfl

theorem recordFailure_fences {maxAttempts : Int} {c : Caller} {f : Failure} {u : Unit}
    (hr : Returns (recordIntakeWorkFailure maxAttempts c f) db u db') : FencesFrom drawn db db' := by
  simp only [recordIntakeWorkFailure, returns_bind, returns_lift] at hr
  obtain ⟨now, _, ⟨-, rfl⟩, workPhase, _, ⟨-, rfl⟩, _, _, ⟨-, rfl⟩, _, _, ⟨-, rfl⟩, _, _, ⟨-, rfl⟩, work, db₁, hload, claim,
    db₂, hclaim, hr⟩ := hr
  obtain ⟨rfl, hwork, -, -⟩ := loadLeasedWork_returns hload
  obtain ⟨rfl, -⟩ := loadLiveClaim_returns hclaim
  split_ifs at hr with hretry
  · simp only [returns_bind, returns_lift, returns_modify] at hr
    obtain ⟨next, _, ⟨-, rfl⟩, _, _, rfl, rfl⟩ := hr
    exact fencesFrom_clear hwork rfl rfl rfl
  · simp only [returns_bind, returns_modify] at hr
    obtain ⟨_, _, rfl, rfl⟩ := hr
    exact fencesFrom_clear hwork rfl rfl rfl

/-- the end of an attempt writes no work -/
theorem endAttempt_work {attempt : Option IntakeAttempt} {now : Instant} {errorCode : String} {retryable : Bool} {u : Unit}
    (hr : Returns (endAttempt attempt now errorCode retryable) db u db') : db'.intakeWork = db.intakeWork := by
  cases attempt with
  | none =>
    obtain ⟨-, rfl⟩ := returns_pure.1 hr
    rfl
  | some a =>
    obtain rfl := returns_modify.1 hr
    rfl

theorem mark_fences {c : Caller} {b : Bool} (hr : Returns (markIntakeWorkReconciliationRequired c) db b db') :
    FencesFrom drawn db db' ∧ (b = true →
      ∀ workPhase, requireWorkPhase c.workPhase = .ok workPhase → Closed db' (c.packageRevisionId, workPhase)) := by
  simp only [markIntakeWorkReconciliationRequired, returns_bind, returns_lift, returns_read] at hr
  obtain ⟨now, _, ⟨-, rfl⟩, phase, _, ⟨hphase, rfl⟩, _, _, ⟨-, rfl⟩, found, _, ⟨hfound, rfl⟩, hr⟩ := hr
  cases found with
  | none =>
    obtain ⟨rfl, rfl⟩ := returns_pure.1 hr
    exact ⟨FencesFrom.refl _ _, fun hb => by cases hb⟩
  | some work =>
    obtain ⟨hwork, hkey⟩ := Rows.mem_of_get? hfound
    dsimp only at hr
    split_ifs at hr with hvalid
    · simp only [returns_bind, returns_modify, returns_pure] at hr
      obtain ⟨attempt, db₁, hload, _, db₂, hend, _, _, rfl, -, rfl⟩ := hr
      obtain ⟨rfl, -, -⟩ := loadActiveAttempt_returns hload
      have hrows := endAttempt_work hend
      refine ⟨fencesFrom_clear hwork (congrArg (Rows.put workKey _) hrows) rfl rfl, fun _ workPhase hsame => ?_⟩
      obtain rfl := Except.ok.inj (hphase.symm.trans hsame)
      rw [← hkey]
      exact closed_put hwork (congrArg (Rows.put workKey _) hrows) rfl rfl
    · obtain ⟨rfl, rfl⟩ := returns_pure.1 hr
      exact ⟨FencesFrom.refl _ _, fun hb => by cases hb⟩

/-- a claim gives its fence token to the work that it takes -/
theorem claim_fences {maxAttempts : Int} {r : ClaimRequest} {x : Option ClaimedIntakeWork}
    (hr : Returns (claimNextEligibleIntakeWork maxAttempts r) db x db') :
    FencesFrom (some r.fenceToken) db db' ∧ ∀ claimed, x = some claimed → claimed.fenceToken = r.fenceToken := by
  simp only [claimNextEligibleIntakeWork, returns_bind, returns_lift, returns_read] at hr
  obtain ⟨now, _, ⟨-, rfl⟩, workPhase, _, ⟨-, rfl⟩, _, _, ⟨-, rfl⟩, _, _, ⟨-, rfl⟩, _, _, ⟨-, rfl⟩, origins, _, ⟨-, rfl⟩,
    selected, _, ⟨hselected, rfl⟩, hr⟩ := hr
  cases selected with
  | none =>
    obtain ⟨rfl, rfl⟩ := returns_pure.1 hr
    exact ⟨FencesFrom.refl _ _, fun _ h => by cases h⟩
  | some work =>
    obtain ⟨hwork, -⟩ := Rows.head_selected hselected
    simp only [claimWork, returns_bind, returns_ensure, returns_read, returns_orRaise, returns_modify, returns_pure] at hr
    obtain ⟨claimed, _, ⟨_, _, ⟨-, rfl⟩, found, _, ⟨rfl, rfl⟩, revision, _, ⟨-, rfl⟩, _, _, ⟨-, rfl⟩, _, _, rfl, _, _, rfl,
      rfl, rfl⟩, rfl, rfl⟩ := hr
    refine ⟨fencesFrom_put hwork rfl rfl fun fence hfence => Or.inl hfence, fun c hc => ?_⟩
    rw [← Option.some.inj hc]

theorem recoverRows_fences {maxAttempts : Int} {now : Instant} {rows : List IntakeWork}
    (hkeys : (rows.map workKey).Nodup) (h : DbOk maxAttempts.toNat db)
    (hrows : ∀ work ∈ rows, work ∈ db.intakeWork ∧ work.status = .leased) {keys : List WorkKey}
    (hr : Returns (recoverRows maxAttempts now rows) db keys db') : FencesFrom drawn db db' := by
  induction rows generalizing db keys with
  | nil =>
    obtain ⟨-, rfl⟩ := returns_pure.1 hr
    exact FencesFrom.refl _ _
  | cons work rows ih =>
    simp only [recoverRows, returns_bind, returns_ensure, returns_pure] at hr
    obtain ⟨w, db₁, hone, _, _, ⟨-, rfl⟩, rest, _, hrest, -, rfl⟩ := hr
    rw [List.map_cons, List.nodup_cons] at hkeys
    obtain ⟨hwork, hleased⟩ := hrows work List.mem_cons_self
    obtain ⟨hp, hput, hkey, hended⟩ := recoverSingle_returns h hwork hleased hone
    have hok := inv_advances h hp
    have hmem : w ∈ db₁.intakeWork := by
      rw [hput]
      exact (Rows.mem_put (hkey ▸ List.mem_map_of_mem hwork)).2 (Or.inl rfl)
    have hcleared := (unheld_iff.1 ((hok.entries w hmem).unheld hended)).2.2.2
    have hrest' := ih hkeys.2 hok (fun x hx => ?_) hrest
    · intro key fence hheld
      rcases hrest' key fence hheld with hdrawn | hheld
      · exact Or.inl hdrawn
      · exact fencesFrom_clear hwork hput hkey hcleared key fence hheld
    · obtain ⟨hmem, hl⟩ := hrows x (List.mem_cons_of_mem _ hx)
      exact ⟨hput ▸ mem_of_batch hkey hkeys.1 hx hmem, hl⟩

theorem recover_fences {maxAttempts : Int} (h : DbOk maxAttempts.toNat db) {r : RecoverRequest} {keys : List WorkKey}
    (hr : Returns (recoverExpiredIntakeLeases maxAttempts r) db keys db') : FencesFrom drawn db db' := by
  simp only [recoverExpiredIntakeLeases, returns_bind, returns_lift, returns_read] at hr
  obtain ⟨now, _, ⟨-, rfl⟩, _, _, ⟨-, rfl⟩, _, _, ⟨-, rfl⟩, rows, _, ⟨rfl, rfl⟩, hr⟩ := hr
  refine recoverRows_fences (Rows.nodup_selected h.keys _ _ _) h (fun work hwork => ?_) hr
  obtain ⟨hmem, hrec⟩ := Rows.mem_selected hwork
  exact ⟨hmem, (recoverable_spec hrec).1⟩

theorem bootstrap_fences {workPhase : IntakeWorkPhase} {r : BootstrapRequest} {w : IntakeWork}
    (hr : Returns (bootstrapWork workPhase r) db w db') : FencesFrom drawn db db' := by
  obtain ⟨now, -, rfl⟩ := bootstrapWork_returns hr
  rintro key fence ⟨work, hwork, hkey, hfence⟩
  rcases List.mem_append.1 hwork with hwork | hwork
  · exact Or.inr ⟨work, hwork, hkey, hfence⟩
  · rw [List.mem_singleton.1 hwork] at hfence
    cases hfence

/-! ## Steps of the queue -/

/-- an operation with a drawn fence token -/
def drawing (fenceToken : Uuid) : Action → Action
  | .claim r => .claim { r with fenceToken }
  | a => a

/-- what one operation does to the queue -/
structure QueueStep (M : Nat) (drawn : Option Uuid) (db db' : Db) : Prop where
  ok : DbOk M db'
  final : Final queue (tables db) (tables db')
  fences : FencesFrom drawn db db'

theorem QueueStep.refl (h : DbOk M db) (drawn : Option Uuid) : QueueStep M drawn db db :=
  ⟨h, Final.refl _, FencesFrom.refl _ _⟩

theorem QueueStep.closed (h : QueueStep M drawn db db') {key : WorkKey} (hc : Closed db key) : Closed db' key := by
  obtain ⟨work, hwork, hkey, hterminal⟩ := hc
  exact ⟨work, (h.final work hwork hterminal).1, hkey, hterminal⟩

theorem QueueStep.holds (h : QueueStep M drawn db db') {key : WorkKey} {fence : Uuid} (hne : drawn ≠ some fence)
    (hf : Holds db' key fence) : Holds db key fence :=
  (h.fences key fence hf).resolve_left hne

theorem QueueStep.undrawn (h : QueueStep M none db db') (drawn : Option Uuid) : QueueStep M drawn db db' :=
  ⟨h.ok, h.final, fun key fence hf => Or.inr (h.holds (fun hdrawn => by cases hdrawn) hf)⟩

theorem QueueStep.trans (h : QueueStep M drawn db db') (h' : QueueStep M drawn db' db'') : QueueStep M drawn db db'' where
  ok := h'.ok
  final := h.final.trans h'.final
  fences key fence hf := (h'.fences key fence hf).elim Or.inl (h.fences key fence)

theorem QueueStep.of_progress (h : DbOk M db) (hp : Progress M db db') (hfences : FencesFrom drawn db db') :
    QueueStep M drawn db db' := ⟨inv_advances h hp, final_advances hp, hfences⟩

/-- the rows of the queue are not those of the revisions -/
theorem write_returns (h : DbOk M db) {revision : PackageRevision} {u : Unit}
    (hr : Returns (writePackageRevision revision) db u db') : QueueStep M drawn db db' := by
  obtain rfl := returns_modify.1 hr
  split_ifs
  · exact ⟨h, Final.refl _, FencesFrom.refl _ _⟩
  · exact ⟨h, Final.refl _, FencesFrom.refl _ _⟩

theorem perform_fences {maxAttempts : Int} (h : DbOk maxAttempts.toNat db) {fenceToken : Uuid} {a : Action} {u : Unit}
    (hr : Returns (perform maxAttempts (drawing fenceToken a)) db u db') : FencesFrom (some fenceToken) db db' := by
  cases a with
  | bootstrapMalwareScan r =>
    obtain ⟨w, _, hb, hpure⟩ := returns_bind.1 hr
    obtain ⟨-, rfl⟩ := returns_pure.1 hpure
    exact bootstrap_fences hb
  | bootstrapDeterministicExtract r =>
    obtain ⟨w, _, hb, hpure⟩ := returns_bind.1 hr
    obtain ⟨-, rfl⟩ := returns_pure.1 hpure
    exact bootstrap_fences hb
  | claim r =>
    obtain ⟨x, _, hclaim, hpure⟩ := returns_bind.1 hr
    obtain ⟨-, rfl⟩ := returns_pure.1 hpure
    exact (claim_fences hclaim).1
  | heartbeat c leaseSeconds => exact heartbeat_fences hr
  | complete c => exact (complete_fences hr).1
  | recordFailure c f => exact recordFailure_fences hr
  | markReconciliationRequired c =>
    obtain ⟨b, _, hmark, hpure⟩ := returns_bind.1 hr
    obtain ⟨-, rfl⟩ := returns_pure.1 hpure
    exact (mark_fences hmark).1
  | recover r =>
    obtain ⟨keys, _, hrecover, hpure⟩ := returns_bind.1 hr
    obtain ⟨-, rfl⟩ := returns_pure.1 hpure
    exact recover_fences h hrecover
  | writePackageRevision revision =>
    exact (write_returns h hr).fences

/-- **Every operation** is a step of the queue, with the fence token drawn for it. -/
theorem queueStep {maxAttempts : Int} (h : DbOk maxAttempts.toNat db) (fenceToken : Uuid) (a : Action) :
    QueueStep maxAttempts.toNat (some fenceToken) db (step maxAttempts db (drawing fenceToken a)) := by
  obtain ⟨hok, hfinal⟩ := step_keeps h (drawing fenceToken a)
  refine ⟨hok, hfinal, ?_⟩
  rcases returns_or_raises (perform maxAttempts (drawing fenceToken a)) db with ⟨u, db', hr⟩ | ⟨e, db', hr⟩
  · rw [show step maxAttempts db (drawing fenceToken a) = db' from congrArg Prod.snd hr]
    exact perform_fences h hr
  · rw [show step maxAttempts db (drawing fenceToken a) = db' from congrArg Prod.snd hr,
      unchanged_perform h (drawing fenceToken a) e db' hr]
    exact FencesFrom.refl _ _

end AtoService.Intake
