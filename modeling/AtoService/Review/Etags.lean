/-
ETags of a review revision under concurrent requests.

`System` is the committed tables with the requests in progress and a record: the `If-Match` of every update that
succeeded, and every observation of the revision. An observation is the response of a submission, or a `view`: the
response of a repeated creation, which reads the revision's row and then the dispositions. A request reads the two in
steps of its own, so the steps of requests interleave.

- `serial`: no other request commits between the reads of a request and its commit, and a submission is committed at a
  version under which no observation was made.
- `Inv`, `inv_step`: what holds of every state of such a run. `submitted_final`: its dispositions stay.
- `etags_sound`: updates with one `If-Match` do not both succeed, observations with one ETag agree, a submitted revision
  has no pending disposition and its dispositions do not change.
Witness `etags_unsound`: two updates that read the same version both succeed; a submission leaves the version as it was;
an update that read the draft changes a disposition of the submitted revision.
-/
import AtoService.Lib.Runs
import AtoService.Review.Revisions

namespace AtoService.Review

open AtoService.Results AtoService.JsonText
open AtoService.Rows (written_held)

/-! ## Requests in steps -/

inductive Request where
  | update (r : UpdateRequest)
  | submit (r : SubmitRequest)
  | view
deriving DecidableEq, Repr

/-- a request in progress: what it has read, and how many requests had committed when it read the revision -/
structure Transaction where
  request : Request
  revision : ReviewRevision
  dispositions : Option (List Disposition)
  readAt : Nat
deriving DecidableEq, Repr

structure System where
  db : Db
  transactions : List (Option Transaction) := []
  commits : Nat := 0
  updates : List (Option String) := []
  observations : List Observation
deriving DecidableEq, Repr

/-- after the creation of the revision, whose response is the first observation -/
def System.init (db : Db) : System where
  db := db
  observations := [⟨etagText db.revision.version, db.revision.status, db.dispositions⟩]

inductive Action where
  /-- a request reads the row of the revision -/
  | start (request : Request)
  | readDispositions (i : Nat)
  | commit (i : Nat)
deriving DecidableEq, Repr

def System.transaction? (s : System) (i : Nat) : Option Transaction := s.transactions[i]?.join

def System.setTransaction (s : System) (i : Nat) (t : Option Transaction) : System :=
  { s with transactions := s.transactions.set i t }

/-- the dispositions are read: a view is answered, another request goes on -/
def readDispositions (s : System) (i : Nat) (t : Transaction) : System :=
  match t.request with
  | .view =>
    match reviewMutationResult ⟨t.revision, s.db.dispositions⟩ with
    | .error _ => s.setTransaction i none
    | .ok shown => { s.setTransaction i none with observations := s.observations ++ [shown] }
  | _ => s.setTransaction i (some { t with dispositions := some (t.dispositions.getD s.db.dispositions) })

/-- the checks and writes of a request that has read what it needs -/
def finish (s : System) (held : Held) : Request → System
  | .update r =>
    match updateDisposition s.db held r with
    | .error _ => s
    | .ok (_, db) => { s with db, commits := s.commits + 1, updates := s.updates ++ [r.ifMatch] }
  | .submit r =>
    match submitReviewRevision s.db held r with
    | .error _ => s
    | .ok (shown, db) => { s with db, commits := s.commits + 1, observations := s.observations ++ [shown] }
  | .view => s

def step (s : System) : Action → System
  | .start request => { s with transactions := s.transactions ++ [some ⟨request, s.db.revision, none, s.commits⟩] }
  | .readDispositions i =>
    match s.transaction? i with
    | none => s
    | some t => readDispositions s i t
  | .commit i =>
    match s.transaction? i with
    | none => s
    | some t =>
      match t.dispositions with
      | none => s
      | some ds => finish (s.setTransaction i none) ⟨t.revision, ds⟩ t.request

/-! ## The condition -/

/-- a request that would commit was not overtaken, and a submission does not relabel what was observed -/
def serialCommit (s : System) (t : Transaction) (ds : List Disposition) : Bool :=
  match t.request with
  | .update r => !(updateDisposition s.db ⟨t.revision, ds⟩ r).isOk || t.readAt = s.commits
  | .submit r => !(submitReviewRevision s.db ⟨t.revision, ds⟩ r).isOk ||
      (t.readAt = s.commits && s.observations.all fun o => o.etag ≠ etagText s.db.revision.version)
  | .view => true

def serial (s : System) : Action → Bool
  | .start _ => true
  | .readDispositions i => (s.transaction? i).all fun t => t.request ≠ .view || t.readAt = s.commits
  | .commit i => (s.transaction? i).all fun t => t.dispositions.all fun ds => serialCommit s t ds

/-! ## ETags and columns -/

theorem etagText_injective {v w : Nat} (h : etagText v = etagText w) : v = w := by
  have hchars : digits v ++ ['"'] = digits w ++ ['"'] := by
    simpa using String.ofList_inj.1 h
  have hdigits : digits v = digits w := List.append_cancel_right hchars
  rw [← natOf_digits v, hdigits, natOf_digits]

theorem reviewMutationResult_ok {held : Held} {o : Observation} (h : reviewMutationResult held = .ok o) :
    o = ⟨etagText held.revision.version, held.revision.status, held.dispositions⟩ := by
  simp only [reviewMutationResult, formatPackageRevisionEtag, bind_eq_ok, ensure_eq_ok, pure_eq_ok] at h
  obtain ⟨_, ⟨_, -, _, -, rfl⟩, rfl⟩ := h
  rfl

theorem assertIfMatch_ok {ifMatch : Option String} {version : Nat} {u : Unit}
    (h : assertIfMatch ifMatch version = .ok u) :
    ∃ header, ifMatch = some header ∧ parsePackageRevisionEtag header = .ok version := by
  simp only [assertIfMatch, bind_eq_ok, orRaise_eq_ok] at h
  obtain ⟨header, rfl, h⟩ := h
  refine ⟨header, rfl, ?_⟩
  cases hparse : parsePackageRevisionEtag header with
  | error e =>
    rw [hparse] at h
    cases h
  | ok version' =>
    rw [hparse] at h
    rw [ensure_eq_ok.1 h]

/-- what an update of the current rows commits -/
structure Updates (db : Db) (r : UpdateRequest) (db' : Db) : Prop where
  draft : db.revision.status = .draft
  ifMatch : ∃ header, r.ifMatch = some header ∧ parsePackageRevisionEtag header = .ok db.revision.version
  version : db'.revision.version = db.revision.version + 1
  status : db'.revision.status = .draft

theorem routeDispositionSideEffects_revision (db : Db) (r : UpdateRequest) (d : Disposition) (row : MatrixRow) :
    (routeDispositionSideEffects db r d row).2.2.revision = db.revision := by
  unfold routeDispositionSideEffects
  dsimp only
  split_ifs <;> rfl

theorem updateDisposition_current {db : Db} {ds : List Disposition} {r : UpdateRequest} {response : DispositionResponse}
    {db' : Db} (h : updateDisposition db ⟨db.revision, ds⟩ r = .ok (response, db')) : Updates db r db' := by
  simp only [updateDisposition, bind_eq_ok, ensure_eq_ok, pure_eq_ok, orRaise_eq_ok, Prod.mk.injEq] at h
  obtain ⟨_, ⟨hsubmitted, hsuperseded⟩, _, -, _, hmatch, decision, -, d, -, row, -, _, -, _, -, etag, -, -, rfl⟩ := h
  have hdraft : db.revision.status = .draft := by
    cases hs : db.revision.status with
    | draft => rfl
    | submitted => exact absurd hs hsubmitted
    | superseded => exact absurd hs hsuperseded
  refine ⟨hdraft, assertIfMatch_ok hmatch, ?_, ?_⟩
  · rw [routeDispositionSideEffects_revision]
    exact written_held _ _
  · rw [routeDispositionSideEffects_revision]
    exact (written_held _ _).trans hdraft

/-- what a submission of the current rows shows and commits -/
theorem submitReviewRevision_current {db : Db} {ds : List Disposition} {r : SubmitRequest} {shown : Observation}
    {db' : Db} (h : submitReviewRevision db ⟨db.revision, ds⟩ r = .ok (shown, db')) :
    db.revision.status = .draft ∧ (∀ d ∈ ds, d.decision ≠ .pending) ∧
      shown = ⟨etagText db.revision.version, .submitted, ds⟩ ∧
      db' = { db with revision := { db.revision with status := .submitted } } := by
  simp only [submitReviewRevision, bind_eq_ok, ensure_eq_ok, pure_eq_ok, Prod.mk.injEq] at h
  obtain ⟨_, -, _, -, _, hresolved, _, hdraft, o, ho, rfl, rfl⟩ := h
  refine ⟨hdraft, hresolved, reviewMutationResult_ok ho, ?_⟩
  rw [writeRevision, written_held, written_held]

/-! ## The invariant -/

/-- an observation is of a version so far, and of the rows as they are if it is of the current one -/
def Shows (db : Db) (o : Observation) : Prop :=
  ∃ v ≤ db.revision.version, o.etag = etagText v ∧
    (v = db.revision.version → o.status = db.revision.status ∧ o.dispositions = db.dispositions)

structure Inv (s : System) : Prop where
  readAt : ∀ i t, s.transaction? i = some t → t.readAt ≤ s.commits
  /-- a request that was not overtaken holds the rows as they are -/
  current : ∀ i t, s.transaction? i = some t → t.readAt = s.commits →
    t.revision = s.db.revision ∧ ∀ ds ∈ t.dispositions, ds = s.db.dispositions
  matched : ∀ ifMatch ∈ s.updates, ∃ header v, ifMatch = some header ∧ parsePackageRevisionEtag header = .ok v ∧
    v < s.db.revision.version
  updates : s.updates.Nodup
  shown : ∀ o ∈ s.observations, Shows s.db o
  agree : ∀ o ∈ s.observations, ∀ o' ∈ s.observations, o.etag = o'.etag →
    o.status = o'.status ∧ o.dispositions = o'.dispositions
  resolved : s.db.revision.status = .submitted → ∀ d ∈ s.db.dispositions, d.decision ≠ .pending

theorem shows_current (db : Db) : Shows db ⟨etagText db.revision.version, db.revision.status, db.dispositions⟩ :=
  ⟨db.revision.version, le_rfl, rfl, fun _ => ⟨rfl, rfl⟩⟩

/-- an observation under the current ETag is of the current rows -/
theorem Shows.of_etag {db : Db} {o : Observation} (h : Shows db o) (heq : o.etag = etagText db.revision.version) :
    o.status = db.revision.status ∧ o.dispositions = db.dispositions := by
  obtain ⟨v, -, hetag, hcurrent⟩ := h
  exact hcurrent (etagText_injective (hetag.symm.trans heq))

section Steps

variable {s : System}

theorem transaction?_setTransaction (s : System) (i : Nat) (t : Option Transaction) (j : Nat) (t' : Transaction) :
    (s.setTransaction i t).transaction? j = some t' → (j = i ∧ t = some t') ∨ (j ≠ i ∧ s.transaction? j = some t') := by
  intro h
  simp only [System.transaction?, System.setTransaction, List.getElem?_set] at h ⊢
  by_cases hij : i = j
  · left
    subst hij
    rw [if_pos rfl] at h
    split_ifs at h
    · exact ⟨rfl, by simpa using h⟩
    · simp at h
  · right
    rw [if_neg hij] at h
    exact ⟨Ne.symm hij, h⟩

/-- the tables and the record stay when a request goes on or ends -/
theorem inv_setTransaction (h : Inv s) (i : Nat) (t : Option Transaction)
    (ht : ∀ t' ∈ t, t'.readAt ≤ s.commits ∧ (t'.readAt = s.commits →
      t'.revision = s.db.revision ∧ ∀ ds ∈ t'.dispositions, ds = s.db.dispositions)) :
    Inv (s.setTransaction i t) := by
  refine ⟨fun j t' hj => ?_, fun j t' hj => ?_, h.matched, h.updates, h.shown, h.agree, h.resolved⟩
  · rcases transaction?_setTransaction s i t j t' hj with ⟨-, heq⟩ | ⟨-, hold⟩
    · exact (ht t' heq).1
    · exact h.readAt j t' hold
  · rcases transaction?_setTransaction s i t j t' hj with ⟨-, heq⟩ | ⟨-, hold⟩
    · exact (ht t' heq).2
    · exact h.current j t' hold

theorem inv_end (h : Inv s) (i : Nat) : Inv (s.setTransaction i none) :=
  inv_setTransaction h i none fun _ ht => absurd ht (Option.not_mem_none _)

/-- one more observation, of the current rows -/
theorem agree_append {os : List Observation} {o : Observation}
    (h : ∀ o ∈ os, ∀ o' ∈ os, o.etag = o'.etag → o.status = o'.status ∧ o.dispositions = o'.dispositions)
    (hnew : ∀ o' ∈ os, o'.etag = o.etag → o'.status = o.status ∧ o'.dispositions = o.dispositions) :
    ∀ o₁ ∈ os ++ [o], ∀ o₂ ∈ os ++ [o], o₁.etag = o₂.etag →
      o₁.status = o₂.status ∧ o₁.dispositions = o₂.dispositions := by
  intro o₁ h₁ o₂ h₂ heq
  rcases List.mem_append.1 h₁ with h₁ | h₁ <;> rcases List.mem_append.1 h₂ with h₂ | h₂
  · exact h o₁ h₁ o₂ h₂ heq
  · rw [List.mem_singleton.1 h₂] at heq ⊢
    exact hnew o₁ h₁ heq
  · rw [List.mem_singleton.1 h₁] at heq ⊢
    obtain ⟨hstatus, hds⟩ := hnew o₂ h₂ heq.symm
    exact ⟨hstatus.symm, hds.symm⟩
  · rw [List.mem_singleton.1 h₁, List.mem_singleton.1 h₂]
    exact ⟨rfl, rfl⟩

theorem inv_start (h : Inv s) (request : Request) : Inv (step s (.start request)) := by
  have hold : ∀ j t, (step s (.start request)).transaction? j = some t →
      s.transaction? j = some t ∨ t = ⟨request, s.db.revision, none, s.commits⟩ := by
    intro j t hj
    simp only [System.transaction?, step, List.getElem?_append] at hj ⊢
    split_ifs at hj with hlt
    · exact Or.inl hj
    · right
      cases hk : j - s.transactions.length with
      | zero => simpa [hk, eq_comm] using hj
      | succ k => simp [hk] at hj
  refine ⟨fun j t hj => ?_, fun j t hj hat => ?_, h.matched, h.updates, h.shown, h.agree, h.resolved⟩
  · rcases hold j t hj with hj | rfl
    · exact h.readAt j t hj
    · exact le_rfl
  · rcases hold j t hj with hj | rfl
    · exact h.current j t hj hat
    · exact ⟨rfl, fun _ hds => absurd hds (Option.not_mem_none _)⟩

theorem inv_readDispositions (h : Inv s) {i : Nat} (hserial : serial s (.readDispositions i) = true) :
    Inv (step s (.readDispositions i)) := by
  unfold step
  dsimp only
  unfold serial at hserial
  dsimp only at hserial
  cases ht : s.transaction? i with
  | none => exact h
  | some t =>
    rw [ht, Option.all_some] at hserial
    have hgoes : Inv (s.setTransaction i
        (some { t with dispositions := some (t.dispositions.getD s.db.dispositions) })) := by
      refine inv_setTransaction h i _ fun t' ht' => ?_
      obtain rfl := Option.some.inj ht'
      refine ⟨h.readAt i t ht, fun hat => ⟨(h.current i t ht hat).1, fun ds hds => ?_⟩⟩
      rw [← Option.some.inj hds]
      cases hread : t.dispositions with
      | none => rfl
      | some ds' => exact (h.current i t ht hat).2 ds' hread
    dsimp only
    unfold readDispositions
    cases hrequest : t.request with
    | view =>
      dsimp only
      have hat : t.readAt = s.commits := by simpa [hrequest] using hserial
      obtain ⟨hrevision, -⟩ := h.current i t ht hat
      cases hshown : reviewMutationResult ⟨t.revision, s.db.dispositions⟩ with
      | error e => exact inv_end h i
      | ok o =>
        obtain rfl := reviewMutationResult_ok hshown
        rw [hrevision]
        have hend := inv_end h i
        refine ⟨hend.readAt, hend.current, h.matched, h.updates, fun o ho => ?_, ?_, h.resolved⟩
        · rcases List.mem_append.1 ho with ho | ho
          · exact h.shown o ho
          · rw [List.mem_singleton.1 ho]
            exact shows_current s.db
        · exact agree_append h.agree fun o ho heq => (h.shown o ho).of_etag heq
    | update r =>
      rw [hrequest] at hgoes
      exact hgoes
    | submit r =>
      rw [hrequest] at hgoes
      exact hgoes

/-- **An update that was not overtaken** moves the revision to its next version. -/
theorem inv_update (h : Inv s) {r : UpdateRequest} {response : DispositionResponse} {db : Db}
    (hok : updateDisposition s.db ⟨s.db.revision, s.db.dispositions⟩ r = .ok (response, db)) :
    Inv { s with db, commits := s.commits + 1, updates := s.updates ++ [r.ifMatch] } := by
  obtain ⟨-, ⟨header, hheader, hparse⟩, hversion, hstatus⟩ := updateDisposition_current hok
  refine ⟨fun i t ht => ?_, fun i t ht hat => ?_, fun m hm => ?_, ?_, fun o ho => ?_, h.agree, fun hsubmitted => ?_⟩
  · exact (h.readAt i t ht).trans (Nat.le_succ _)
  · exact absurd hat (Nat.lt_succ_of_le (h.readAt i t ht)).ne
  · rw [hversion]
    rcases List.mem_append.1 hm with hm | hm
    · obtain ⟨header', v, heq, hv, hlt⟩ := h.matched m hm
      exact ⟨header', v, heq, hv, Nat.lt_succ_of_lt hlt⟩
    · rw [List.mem_singleton.1 hm]
      exact ⟨header, _, hheader, hparse, Nat.lt_succ_self _⟩
  · -- the headers of earlier updates name earlier versions
    rw [List.nodup_append]
    refine ⟨h.updates, List.nodup_singleton _, fun m hm m' hm' heq => ?_⟩
    obtain ⟨header', v, heq', hv, hlt⟩ := h.matched m hm
    rw [heq, List.mem_singleton.1 hm', hheader] at heq'
    rw [← Option.some.inj heq', hparse] at hv
    exact absurd (Except.ok.inj hv) hlt.ne'
  · obtain ⟨v, hle, hetag, -⟩ := h.shown o ho
    rw [Shows, hversion]
    exact ⟨v, hle.trans (Nat.le_succ _), hetag, fun heq => absurd heq (Nat.lt_succ_of_le hle).ne⟩
  · rw [hstatus] at hsubmitted
    cases hsubmitted

/-- **A submission that was not overtaken**, at a version under which nothing was observed. -/
theorem inv_submit (h : Inv s) {r : SubmitRequest} {shown : Observation} {db : Db}
    (hok : submitReviewRevision s.db ⟨s.db.revision, s.db.dispositions⟩ r = .ok (shown, db))
    (hfresh : ∀ o ∈ s.observations, o.etag ≠ etagText s.db.revision.version) :
    Inv { s with db, commits := s.commits + 1, observations := s.observations ++ [shown] } := by
  obtain ⟨-, hresolved, rfl, rfl⟩ := submitReviewRevision_current hok
  refine ⟨fun i t ht => ?_, fun i t ht hat => ?_, h.matched, h.updates, fun o ho => ?_, ?_, fun _ => hresolved⟩
  · exact (h.readAt i t ht).trans (Nat.le_succ _)
  · exact absurd hat (Nat.lt_succ_of_le (h.readAt i t ht)).ne
  · rcases List.mem_append.1 ho with ho | ho
    · obtain ⟨v, hle, hetag, -⟩ := h.shown o ho
      exact ⟨v, hle, hetag, fun heq => absurd (heq ▸ hetag) (hfresh o ho)⟩
    · rw [List.mem_singleton.1 ho]
      exact ⟨_, le_rfl, rfl, fun _ => ⟨rfl, rfl⟩⟩
  · exact agree_append h.agree fun o ho heq => absurd heq (hfresh o ho)

/-- what a step that is taken at `commit` does, under the condition -/
theorem step_commit (h : Inv s) {i : Nat} (hserial : serial s (.commit i) = true) :
    step s (.commit i) = s ∨ step s (.commit i) = s.setTransaction i none ∨
    (∃ r response db, updateDisposition s.db ⟨s.db.revision, s.db.dispositions⟩ r = .ok (response, db) ∧
      step s (.commit i) = { s.setTransaction i none with
        db, commits := s.commits + 1, updates := s.updates ++ [r.ifMatch] }) ∨
    ∃ r shown db, submitReviewRevision s.db ⟨s.db.revision, s.db.dispositions⟩ r = .ok (shown, db) ∧
      (∀ o ∈ s.observations, o.etag ≠ etagText s.db.revision.version) ∧
      step s (.commit i) = { s.setTransaction i none with
        db, commits := s.commits + 1, observations := s.observations ++ [shown] } := by
  unfold serial at hserial
  dsimp only at hserial
  unfold step
  dsimp only
  cases ht : s.transaction? i with
  | none => exact Or.inl rfl
  | some t =>
    rw [ht, Option.all_some] at hserial
    dsimp only
    cases hds : t.dispositions with
    | none => exact Or.inl rfl
    | some ds =>
      right
      rw [hds, Option.all_some] at hserial
      dsimp only
      unfold serialCommit at hserial
      unfold finish
      cases hrequest : t.request with
      | view => exact Or.inl rfl
      | update r =>
        rw [hrequest] at hserial
        dsimp only at hserial ⊢
        cases hok : updateDisposition s.db ⟨t.revision, ds⟩ r with
        | error e =>
          left
          dsimp only [System.setTransaction]
          rw [hok]
        | ok p =>
          right
          left
          have hat : t.readAt = s.commits := by simpa [hok, Except.isOk, Except.toBool] using hserial
          obtain ⟨hrevision, hcurrent⟩ := h.current i t ht hat
          rw [hrevision, hcurrent ds hds] at hok
          refine ⟨r, p.1, p.2, hok, ?_⟩
          rw [hrevision, hcurrent ds hds]
          dsimp only [System.setTransaction]
          rw [hok]
      | submit r =>
        rw [hrequest] at hserial
        dsimp only at hserial ⊢
        cases hok : submitReviewRevision s.db ⟨t.revision, ds⟩ r with
        | error e =>
          left
          dsimp only [System.setTransaction]
          rw [hok]
        | ok p =>
          right
          right
          have hserial : t.readAt = s.commits ∧ ∀ o ∈ s.observations, o.etag ≠ etagText s.db.revision.version := by
            simpa [hok, Except.isOk, Except.toBool] using hserial
          obtain ⟨hrevision, hcurrent⟩ := h.current i t ht hserial.1
          rw [hrevision, hcurrent ds hds] at hok
          refine ⟨r, p.1, p.2, hok, hserial.2, ?_⟩
          rw [hrevision, hcurrent ds hds]
          dsimp only [System.setTransaction]
          rw [hok]

theorem inv_step (h : Inv s) {a : Action} (ha : serial s a = true) : Inv (step s a) := by
  cases a with
  | start request => exact inv_start h request
  | readDispositions i => exact inv_readDispositions h ha
  | commit i =>
    have hend := inv_end h i
    rcases step_commit h ha with heq | heq | ⟨r, response, db, hok, heq⟩ | ⟨r, shown, db, hok, hfresh, heq⟩
    · rw [heq]
      exact h
    · rw [heq]
      exact hend
    · rw [heq]
      exact inv_update hend hok
    · rw [heq]
      exact inv_submit hend hok hfresh

/-- **A submitted revision is final**: no step of such a run changes it. -/
theorem submitted_final (h : Inv s) {a : Action} (ha : serial s a = true) (hs : s.db.revision.status = .submitted) :
    (step s a).db = s.db := by
  cases a with
  | start request => rfl
  | readDispositions i =>
    unfold step
    dsimp only
    cases s.transaction? i with
    | none => rfl
    | some t =>
      dsimp only
      unfold readDispositions
      cases t.request with
      | view =>
        dsimp only
        cases reviewMutationResult ⟨t.revision, s.db.dispositions⟩ <;> rfl
      | update r => rfl
      | submit r => rfl
  | commit i =>
    rcases step_commit h ha with heq | heq | ⟨r, response, db, hok, -⟩ | ⟨r, shown, db, hok, -, -⟩
    · rw [heq]
    · rw [heq]
      rfl
    · have hdraft := (updateDisposition_current hok).draft
      rw [hs] at hdraft
      cases hdraft
    · have hdraft := (submitReviewRevision_current hok).1
      rw [hs] at hdraft
      cases hdraft

end Steps

/-! ## Runs -/

/-- the state after the actions that follow the creation of a revision -/
def runFrom (db : Db) (as : List Action) : System := Runs.run step (System.init db) as

theorem inv_init (reviewRevisionId runId : Uuid) (rows : List (MatrixRow × Uuid)) (actorId : String) (now : Instant) :
    Inv (System.init (createReviewRevision reviewRevisionId runId rows actorId now)) where
  readAt i t h := by simp [System.init, System.transaction?] at h
  current i t h := by simp [System.init, System.transaction?] at h
  matched _ h := absurd h List.not_mem_nil
  updates := List.nodup_nil
  shown o h := by
    rw [List.mem_singleton.1 h]
    exact shows_current _
  agree o h o' h' _ := by
    rw [List.mem_singleton.1 h, List.mem_singleton.1 h']
    exact ⟨rfl, rfl⟩
  resolved h := by cases h

/-- what the ETags of a revision promise -/
structure Sound (s : System) : Prop where
  updates : s.updates.Nodup
  agree : ∀ o ∈ s.observations, ∀ o' ∈ s.observations, o.etag = o'.etag →
    o.status = o'.status ∧ o.dispositions = o'.dispositions
  resolved : s.db.revision.status = .submitted → ∀ d ∈ s.db.dispositions, d.decision ≠ .pending

/-- **ETags are sound** in every run whose steps meet the condition: for the state that is reached, and for the
dispositions of a revision that was submitted on the way. -/
theorem etags_sound (reviewRevisionId runId : Uuid) (rows : List (MatrixRow × Uuid)) (actorId : String) (now : Instant)
    (as bs : List Action) (h : Runs.Along step (fun s a => serial s a = true)
      (System.init (createReviewRevision reviewRevisionId runId rows actorId now)) (as ++ bs)) :
    Sound (runFrom (createReviewRevision reviewRevisionId runId rows actorId now) (as ++ bs)) ∧
    ((runFrom (createReviewRevision reviewRevisionId runId rows actorId now) as).db.revision.status = .submitted →
      (runFrom (createReviewRevision reviewRevisionId runId rows actorId now) (as ++ bs)).db.dispositions =
        (runFrom (createReviewRevision reviewRevisionId runId rows actorId now) as).db.dispositions) := by
  have hinit := inv_init reviewRevisionId runId rows actorId now
  obtain ⟨has, hbs⟩ := Runs.along_append.1 h
  have hmid := Runs.run_inv_along (P := Inv) (fun s a hs ha => inv_step hs ha) hinit has
  unfold runFrom
  rw [Runs.run_append]
  have hlast := Runs.run_inv_along (P := Inv) (fun s a hs ha => inv_step hs ha) hmid hbs
  refine ⟨⟨hlast.updates, hlast.agree, hlast.resolved⟩, fun hsubmitted => ?_⟩
  have hfinal := Runs.run_inv_along (P := fun s => Inv s ∧ s.db = (Runs.run step (System.init
      (createReviewRevision reviewRevisionId runId rows actorId now)) as).db)
    (fun s a hs ha => ⟨inv_step hs.1 ha, (submitted_final hs.1 ha (by rw [hs.2, hsubmitted])).trans hs.2⟩)
    ⟨hmid, rfl⟩ hbs
  rw [hfinal.2]

namespace Samples

def rows : List (MatrixRow × Uuid) := [(⟨3, "AC-2", .nistControl, .supported, "Accounts are managed."⟩, 4)]

/-- a revision of a run with one matrix row -/
def revision : Db := createReviewRevision 1 2 rows "reviewer" 0

def update (decision ifMatch : String) : Request :=
  .update ⟨3, decision, none, none, some ifMatch, "reviewer", true, 1, 5⟩

def submit (ifMatch : String) : Request := .submit ⟨some ifMatch, true⟩

/-- a request whose steps follow one another; it is the `i`-th -/
def alone (i : Nat) (request : Request) : List Action := [.start request, .readDispositions i, .commit i]

/-- two requests that both read before the first of them commits; they are the `i`-th and the next -/
def overtaken (i : Nat) (first second : Request) : List Action :=
  [.start first, .start second, .readDispositions i, .readDispositions (i + 1), .commit i]

/-- an update of the first version -/
def accepted : List Action := alone 0 (update "accepted" "\"v1\"")

end Samples

open Samples in
theorem etags_sound_small :
    Sound (runFrom revision (accepted ++ alone 1 (submit "\"v2\"") ++ alone 2 .view)) ∧
    ((runFrom revision (accepted ++ alone 1 (submit "\"v2\""))).db.revision.status = .submitted →
      (runFrom revision (accepted ++ alone 1 (submit "\"v2\"") ++ alone 2 .view)).db.dispositions =
        (runFrom revision (accepted ++ alone 1 (submit "\"v2\""))).db.dispositions) :=
  etags_sound 1 2 rows "reviewer" 0 (accepted ++ alone 1 (submit "\"v2\"")) (alone 2 .view) (by decide)

open Samples in
/-- **ETags do not see other requests.** Two overlapping updates with one `If-Match` both succeed. A draft and its
submission are observed under one ETag. An update that overlaps a submission changes a disposition after it. -/
theorem etags_unsound :
    ¬(runFrom revision (overtaken 0 (update "accepted" "\"v1\"") (update "rejected" "\"v1\"") ++
      [.commit 1])).updates.Nodup ∧
    (∃ o ∈ (runFrom revision (accepted ++ alone 1 .view ++ alone 2 (submit "\"v2\""))).observations,
      ∃ o' ∈ (runFrom revision (accepted ++ alone 1 .view ++ alone 2 (submit "\"v2\""))).observations,
      o.etag = o'.etag ∧ o.status ≠ o'.status) ∧
    ((runFrom revision (accepted ++ overtaken 1 (submit "\"v2\"") (update "rejected" "\"v2\""))).db.revision.status =
        .submitted ∧
      (runFrom revision (accepted ++ overtaken 1 (submit "\"v2\"") (update "rejected" "\"v2\"") ++
          [.commit 2])).db.dispositions ≠
        (runFrom revision (accepted ++ overtaken 1 (submit "\"v2\"") (update "rejected" "\"v2\""))).db.dispositions) := by
  decide

end AtoService.Review
