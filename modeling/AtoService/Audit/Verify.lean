/-
Verification of the audit chain: `audit_chain_verify.py`.

`verifyAuditChainEvents` goes over the events once and stops at the first that sorts before its predecessor, does not name
its predecessor's digest, or does not carry its own digest; the filters and the checkpoints of the report do not take part
in that. `passes_iff` says what passing means: events in order, linked from the genesis value (`HashChain.Linked`), each
with its own digest.
-/
import AtoService.Lib.HashChain
import AtoService.Audit.Event

namespace AtoService.Audit

/-! ## The report -/

inductive AuditChainFailureReason where
  | chainBreak | hmacMismatch | orderingViolation | wrongKey
deriving DecidableEq, Repr

structure AuditChainCheckpoint where
  eventIndex : Nat
  auditEventId : String
  eventHash : String
deriving DecidableEq, Repr

structure AuditChainVerifyOptions where
  checkpointInterval : Int := 1000
  batchSize : Int := 100
  objectType : Option String := none
  objectIdPrefix : Option String := none

structure AuditChainVerificationReport where
  passed : Bool
  verifiedEvents : Nat
  totalEvents : Nat
  genesisHash : String := genesisPreviousEventHash
  headHash : Option String
  checkpoints : List AuditChainCheckpoint
  failureReason : Option AuditChainFailureReason := none
  failureEventIndex : Option Nat := none
  failureAuditEventId : Option String := none
  verificationScope : String := "global"
  matchingEvents : Nat
  detail : String
deriving DecidableEq, Repr

def maxCheckpoints : Nat := 100

/-! ## The loop -/

def matchesFilter (options : AuditChainVerifyOptions) (e : AuditEvent) : Bool :=
  options.objectType.all (· = e.objectType) &&
    options.objectIdPrefix.all fun p => (Py.chars p).isPrefixOf (Py.chars e.objectId)

def orderingViolation (previous : Option AuditEvent) (current : AuditEvent) : Bool :=
  match previous with
  | none => false
  | some previous =>
    current.occurredAt < previous.occurredAt ||
      (current.occurredAt = previous.occurredAt && current.auditEventId < previous.auditEventId)

def appendCheckpoint (checkpoints : List AuditChainCheckpoint) (eventIndex : Nat) (e : AuditEvent) :
    List AuditChainCheckpoint :=
  if maxCheckpoints ≤ checkpoints.length then checkpoints
  else checkpoints ++ [⟨eventIndex, e.auditEventId.str, e.eventHash⟩]

/-- `n % interval` compared with zero; a remainder by zero raises -/
def dividedBy (interval : Int) (n : Nat) : Except AuditError Bool :=
  if interval = 0 then .error .zeroDivision else .ok ((n : Int) % interval = 0)

/-- the variables of the loop -/
structure Progress where
  checkpoints : List AuditChainCheckpoint := []
  expectedPrevious : String := genesisPreviousEventHash
  matchingEvents : Nat := 0
  previousEvent : Option AuditEvent := none
  headHash : Option String := none

/-- the report of a failure at `index` -/
def Progress.failure (p : Progress) (index total : Nat) (e : AuditEvent) (reason : AuditChainFailureReason)
    (detail : String) : AuditChainVerificationReport where
  passed := false
  verifiedEvents := index
  totalEvents := total
  headHash := p.headHash
  checkpoints := p.checkpoints
  failureReason := some reason
  failureEventIndex := some index
  failureAuditEventId := some e.auditEventId.str
  matchingEvents := p.matchingEvents
  detail := detail

/-- the report of an event that does not carry its own digest -/
def Progress.mismatch (p : Progress) (index total : Nat) (e : AuditEvent) : AuditChainVerificationReport :=
  if index = 0 then
    p.failure index total e .wrongKey "HMAC mismatch at genesis event; audit key may be incorrect"
  else p.failure index total e .hmacMismatch ("HMAC mismatch at event index " ++ toString index)

section

variable (hmacKey : List Nat) (options : AuditChainVerifyOptions)

/-- `index == 0 or (index + 1) % interval == 0` -/
def checkpointDue (index : Nat) : Except AuditError Bool :=
  if index = 0 then .ok true else dividedBy options.checkpointInterval (index + 1)

/-- `len(events) > 1 and (len(events) - 1) % interval != 0` -/
def lastCheckpointDue (total : Nat) : Except AuditError Bool :=
  if 1 < total then (!·) <$> dividedBy options.checkpointInterval (total - 1) else .ok false

/-- what the loop does after an event has passed its checks -/
def Progress.advance (p : Progress) (index : Nat) (e : AuditEvent) : Except AuditError Progress := do
  let matchingEvents := if matchesFilter options e then p.matchingEvents + 1 else p.matchingEvents
  let due ← checkpointDue options index
  return {
    checkpoints := if due then appendCheckpoint p.checkpoints index e else p.checkpoints
    expectedPrevious := e.eventHash
    matchingEvents := matchingEvents
    previousEvent := some e
    headHash := some e.eventHash }

/-- the report after the loop, for the last event -/
def Progress.finish (p : Progress) (total : Nat) : Except AuditError AuditChainVerificationReport := do
  let due ← lastCheckpointDue options total
  return {
    passed := true
    verifiedEvents := total
    totalEvents := total
    headHash := p.headHash
    checkpoints :=
      match p.previousEvent with
      | some e => if due then appendCheckpoint p.checkpoints (total - 1) e else p.checkpoints
      | none => p.checkpoints
    matchingEvents := p.matchingEvents
    detail := "chain intact" }

/-- the loop from the event at `index` on -/
def verifyFrom (total index : Nat) (p : Progress) : List AuditEvent → Except AuditError AuditChainVerificationReport
  | [] => p.finish options total
  | e :: es =>
    if orderingViolation p.previousEvent e then
      .ok (p.failure index total e .orderingViolation ("ordering violation at event index " ++ toString index))
    else if e.previousEventHash ≠ p.expectedPrevious then
      .ok (p.failure index total e .chainBreak ("chain break at event index " ++ toString index))
    else do
      let intact ← verifyAuditEventHash hmacKey e
      if !intact then .ok (p.mismatch index total e)
      else do
        let p ← p.advance options index e
        verifyFrom total (index + 1) p es

end

/-- `verify_audit_chain_events(events, hmac_key=…, options=…)` -/
def verifyAuditChainEvents (hmacKey : List Nat) (options : Option AuditChainVerifyOptions) (events : List AuditEvent) :
    Except AuditError AuditChainVerificationReport :=
  let resolved := options.getD {}
  if events.isEmpty then
    .ok {
      passed := true
      verifiedEvents := 0
      totalEvents := 0
      headHash := none
      checkpoints := []
      matchingEvents := 0
      detail := "no audit events present" }
  else verifyFrom hmacKey resolved events.length 0 {} events

/-- the chain passes verification -/
def Passes (hmacKey : List Nat) (options : Option AuditChainVerifyOptions) (events : List AuditEvent) : Prop :=
  ∃ report, verifyAuditChainEvents hmacKey options events = .ok report ∧ report.passed = true

/-! ## What passing means -/

/-- the links of the chain -/
abbrev Linked (g : String) (events : List AuditEvent) : Prop :=
  HashChain.Linked (fun e : AuditEvent => e.previousEventHash) AuditEvent.eventHash g events

/-- the event carries its own digest -/
def Intact (hmacKey : List Nat) (e : AuditEvent) : Prop :=
  isSha256 e.eventHash = true ∧ minAuditHmacKeyBytes ≤ hmacKey.length ∧ digest hmacKey e.toAuditFields = some e.eventHash

theorem bind_eq_ok {α β : Type} {x : Except AuditError α} {f : α → Except AuditError β} {b : β} :
    (x >>= f) = .ok b ↔ ∃ a, x = .ok a ∧ f a = .ok b := by
  cases x <;> simp [bind, Except.bind]

theorem requireAuditHmacKey_ok {hmacKey k : List Nat} :
    requireAuditHmacKey (some hmacKey) = .ok k ↔ minAuditHmacKeyBytes ≤ hmacKey.length ∧ k = hmacKey := by
  simp only [requireAuditHmacKey]
  by_cases hlen : hmacKey.length < minAuditHmacKeyBytes
  · rw [if_pos hlen]
    constructor
    · intro h
      cases h
    · rintro ⟨h, -⟩
      omega
  · rw [if_neg hlen, Except.ok.injEq]
    constructor
    · rintro rfl
      exact ⟨by omega, rfl⟩
    · rintro ⟨-, rfl⟩
      rfl

theorem computeAuditEventHash_ok {hmacKey : List Nat} {f : AuditFields} {h : String} :
    computeAuditEventHash hmacKey f = .ok h ↔ minAuditHmacKeyBytes ≤ hmacKey.length ∧ digest hmacKey f = some h := by
  rw [computeAuditEventHash, bind_eq_ok]
  constructor
  · rintro ⟨k, hk, hh⟩
    obtain ⟨hlen, rfl⟩ := requireAuditHmacKey_ok.1 hk
    cases hd : digest k f with
    | none =>
      rw [hd] at hh
      cases hh
    | some eventHash =>
      rw [hd] at hh
      exact ⟨hlen, congrArg some (Except.ok.inj hh)⟩
  · rintro ⟨hlen, hh⟩
    refine ⟨hmacKey, requireAuditHmacKey_ok.2 ⟨hlen, rfl⟩, ?_⟩
    rw [hh]

theorem verifyAuditEventHash_true {hmacKey : List Nat} {e : AuditEvent} :
    verifyAuditEventHash hmacKey e = .ok true ↔ Intact hmacKey e := by
  unfold verifyAuditEventHash Intact
  by_cases hs : isSha256 e.eventHash = true
  · rw [hs, Bool.not_true, if_neg (by decide), bind_eq_ok]
    constructor
    · rintro ⟨h, hcompute, hsame⟩
      obtain ⟨hlen, hdigest⟩ := computeAuditEventHash_ok.1 hcompute
      obtain rfl : h = e.eventHash := of_decide_eq_true (Except.ok.inj hsame)
      exact ⟨rfl, hlen, hdigest⟩
    · rintro ⟨-, hlen, hdigest⟩
      refine ⟨_, computeAuditEventHash_ok.2 ⟨hlen, hdigest⟩, ?_⟩
      simp [pure, Except.pure]
  · simp [hs]

theorem sortKey_not_lt {a b : AuditEvent} : orderingViolation (some a) b = false ↔ a.sortKey ≤ b.sortKey := by
  rw [AuditFields.sortKey, AuditFields.sortKey, Prod.Lex.toLex_le_toLex, orderingViolation, Bool.or_eq_false_iff]
  simp only [decide_eq_false_iff_not, Bool.and_eq_false_imp, decide_eq_true_eq, not_lt]
  constructor
  · rintro ⟨hle, htie⟩
    rcases hle.lt_or_eq with hlt | heq
    · exact Or.inl hlt
    · exact Or.inr ⟨heq, htie heq.symm⟩
  · rintro (hlt | ⟨heq, hle⟩)
    · exact ⟨hlt.le, fun heq => absurd heq hlt.ne'⟩
    · exact ⟨heq.le, fun _ => hle⟩

/-- the events are in order, after `previous` -/
def InOrder (previous : Option AuditEvent) (events : List AuditEvent) : Prop :=
  events.Pairwise (fun a b => a.sortKey ≤ b.sortKey) ∧ ∀ p ∈ previous, ∀ e ∈ events, p.sortKey ≤ e.sortKey

theorem inOrder_cons {previous : Option AuditEvent} {e : AuditEvent} {es : List AuditEvent} :
    InOrder previous (e :: es) ↔ orderingViolation previous e = false ∧ InOrder (some e) es := by
  have hprevious : orderingViolation previous e = false ↔ ∀ p ∈ previous, p.sortKey ≤ e.sortKey := by
    cases previous with
    | none => simp [orderingViolation]
    | some p => simp [sortKey_not_lt]
  rw [hprevious, InOrder, InOrder, List.pairwise_cons]
  constructor
  · rintro ⟨⟨hhead, htail⟩, hp⟩
    refine ⟨fun p hp' => hp p hp' e List.mem_cons_self, htail, ?_⟩
    rintro p ⟨⟩
    exact hhead
  · rintro ⟨hp, htail, hhead⟩
    refine ⟨⟨hhead e rfl, htail⟩, fun p hp' d hd => ?_⟩
    rcases List.mem_cons.1 hd with rfl | hd
    · exact hp p hp'
    · exact (hp p hp').trans (hhead e rfl d hd)

section

variable {hmacKey : List Nat} {options : AuditChainVerifyOptions}

theorem dividedBy_ok {interval : Int} (h : interval ≠ 0) (n : Nat) :
    dividedBy interval n = .ok (decide ((n : Int) % interval = 0)) := if_neg h

/-- after an event that has passed, the loop knows it -/
theorem advance_ok {p : Progress} {index : Nat} {e : AuditEvent} {p' : Progress}
    (h : p.advance options index e = .ok p') : p'.previousEvent = some e ∧ p'.expectedPrevious = e.eventHash := by
  unfold Progress.advance at h
  obtain ⟨due, -, hp⟩ := bind_eq_ok.1 h
  cases hp
  exact ⟨rfl, rfl⟩

theorem exists_advance (hinterval : options.checkpointInterval ≠ 0) (p : Progress) (index : Nat) (e : AuditEvent) :
    ∃ p', p.advance options index e = .ok p' := by
  have hdue : ∃ due, checkpointDue options index = .ok due := by
    unfold checkpointDue
    split_ifs
    · exact ⟨true, rfl⟩
    · exact ⟨_, dividedBy_ok hinterval _⟩
  obtain ⟨due, hdue⟩ := hdue
  exact ⟨_, bind_eq_ok.2 ⟨due, hdue, rfl⟩⟩

theorem exists_finish (hinterval : options.checkpointInterval ≠ 0) (p : Progress) (total : Nat) :
    ∃ r, p.finish options total = .ok r ∧ r.passed = true := by
  have hdue : ∃ due, lastCheckpointDue options total = .ok due := by
    unfold lastCheckpointDue
    split_ifs
    · rw [dividedBy_ok hinterval]
      exact ⟨_, rfl⟩
    · exact ⟨false, rfl⟩
  obtain ⟨due, hdue⟩ := hdue
  exact ⟨_, bind_eq_ok.2 ⟨due, hdue, rfl⟩, rfl⟩

theorem mismatch_passed {p : Progress} {index total : Nat} {e : AuditEvent} {r : AuditChainVerificationReport}
    (h : .ok (p.mismatch index total e) = (.ok r : Except AuditError _)) : r.passed = false := by
  cases h
  unfold Progress.mismatch
  split_ifs <;> rfl

theorem verifyFrom_passes (total : Nat) {index : Nat} {p : Progress} {events : List AuditEvent}
    {r : AuditChainVerificationReport} (h : verifyFrom hmacKey options total index p events = .ok r)
    (hr : r.passed = true) : InOrder p.previousEvent events ∧ Linked p.expectedPrevious events ∧
      ∀ e ∈ events, Intact hmacKey e := by
  induction events generalizing index p with
  | nil => exact ⟨⟨List.Pairwise.nil, by simp⟩, trivial, by simp⟩
  | cons e es ih =>
    unfold verifyFrom at h
    by_cases hviolation : orderingViolation p.previousEvent e = true
    · rw [if_pos hviolation] at h
      cases h
      cases hr
    by_cases hlink : e.previousEventHash ≠ p.expectedPrevious
    · rw [if_neg hviolation, if_pos hlink] at h
      cases h
      cases hr
    · rw [if_neg hviolation, if_neg hlink] at h
      obtain ⟨intact, hintact, h⟩ := bind_eq_ok.1 h
      cases intact with
      | false =>
        rw [Bool.not_false, if_pos rfl] at h
        rw [mismatch_passed h] at hr
        cases hr
      | true =>
        rw [Bool.not_true, if_neg (by decide)] at h
        obtain ⟨p', hadvance, h⟩ := bind_eq_ok.1 h
        obtain ⟨hprevious, hexpected⟩ := advance_ok hadvance
        obtain ⟨horder, hlinked, hall⟩ := ih h
        rw [hprevious] at horder
        rw [hexpected] at hlinked
        refine ⟨inOrder_cons.2 ⟨by simpa using hviolation, horder⟩, ⟨not_not.1 hlink, hlinked⟩, ?_⟩
        intro d hd
        rcases List.mem_cons.1 hd with rfl | hd
        · exact verifyAuditEventHash_true.1 hintact
        · exact hall d hd

theorem passes_verifyFrom (hinterval : options.checkpointInterval ≠ 0) (total : Nat) {index : Nat} {p : Progress}
    {events : List AuditEvent} (horder : InOrder p.previousEvent events) (hlinked : Linked p.expectedPrevious events)
    (hall : ∀ e ∈ events, Intact hmacKey e) :
    ∃ r, verifyFrom hmacKey options total index p events = .ok r ∧ r.passed = true := by
  induction events generalizing index p with
  | nil => exact exists_finish hinterval p total
  | cons e es ih =>
    obtain ⟨hviolation, horder⟩ := inOrder_cons.1 horder
    obtain ⟨hlink, hlinked⟩ := hlinked
    obtain ⟨p', hadvance⟩ := exists_advance hinterval p index e
    obtain ⟨hprevious, hexpected⟩ := advance_ok hadvance
    have hintact := verifyAuditEventHash_true.2 (hall e List.mem_cons_self)
    have hnext : ∃ r, verifyFrom hmacKey options total (index + 1) p' es = .ok r ∧ r.passed = true := by
      apply ih
      · rwa [hprevious]
      · rwa [hexpected]
      · intro d hd
        exact hall d (List.mem_cons_of_mem _ hd)
    obtain ⟨r, hr, hpassed⟩ := hnext
    refine ⟨r, ?_, hpassed⟩
    unfold verifyFrom
    rw [hviolation, if_neg (by decide), if_neg (not_not.2 hlink), hintact]
    show (p.advance options index e >>= fun p => verifyFrom hmacKey options total (index + 1) p es) = _
    rw [hadvance]
    exact hr

end

/-- what a chain that passes is like, whatever the options -/
theorem passes_chain {hmacKey : List Nat} {options : Option AuditChainVerifyOptions} {events : List AuditEvent}
    (h : Passes hmacKey options events) : events.Pairwise (fun a b => a.sortKey ≤ b.sortKey) ∧
      Linked genesisPreviousEventHash events ∧ ∀ e ∈ events, Intact hmacKey e := by
  obtain ⟨r, hr, hpassed⟩ := h
  cases events with
  | nil => exact ⟨List.Pairwise.nil, trivial, by simp⟩
  | cons e es =>
    obtain ⟨horder, hlinked, hall⟩ := verifyFrom_passes _ hr hpassed
    exact ⟨horder.1, hlinked, hall⟩

/-- **Passing verification** is being in order, linked, and intact. -/
theorem passes_iff {hmacKey : List Nat} {options : Option AuditChainVerifyOptions} {events : List AuditEvent}
    (hinterval : (options.getD {}).checkpointInterval ≠ 0) : Passes hmacKey options events ↔
      events.Pairwise (fun a b => a.sortKey ≤ b.sortKey) ∧ Linked genesisPreviousEventHash events ∧
        ∀ e ∈ events, Intact hmacKey e := by
  refine ⟨passes_chain, ?_⟩
  rintro ⟨horder, hlinked, hall⟩
  cases events with
  | nil => exact ⟨_, rfl, rfl⟩
  | cons e es => exact passes_verifyFrom hinterval _ ⟨horder, by simp⟩ hlinked hall

end AtoService.Audit
