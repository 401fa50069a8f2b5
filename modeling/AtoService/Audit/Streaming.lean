/-
Verification of the persisted chain in batches, and the checkpoints of a report: `audit_chain_verify.py`.

`verifyAuditChainSession` reads the table by keyset pages and verifies as it reads, so a report of a failure does not
know how many events there are. `streaming_agrees`: in everything else its report is that of `verifyAuditChainEvents` on
the ordered table, whatever the size of a batch. The identifiers of a table are distinct, as its primary key asks.

`checkpoints_cover_iff`: the checkpoints of a chain of `n` events go from its first event to its last, one interval
apart at most, unless `n` or `n - 1` is a multiple of the interval. The loop takes the event at `index` when the
interval divides `index + 1`, but the head is added after it when the interval does not divide `n - 1`: where it
divides `n` the head stands there twice (`head_repeated`), and where it divides `n - 1` the head is left out.
-/
import AtoService.Lib.KeysetPages
import AtoService.Lib.Results
import AtoService.Audit.Chain

namespace AtoService.Audit

open Results (ok_of_map_eq_ok)

/-! ## Reading in batches -/

/-- `_iter_audit_events(session, batch_size=…)`. Every query but the last gives an event, so one more than there are
events is enough; the database refuses a negative limit at the first. -/
def iterAuditEvents (batchSize : Int) (table : List AuditEvent) : Except AuditError (List AuditEvent) :=
  if batchSize < 0 then .error (.database "LIMIT must not be negative")
  else .ok (Keyset.readPages (fun e : AuditEvent => e.sortKey) batchSize.toNat table (table.length + 1) none)

/-- the report of an empty table -/
def noEventsReport : AuditChainVerificationReport where
  passed := true
  verifiedEvents := 0
  totalEvents := 0
  headHash := none
  checkpoints := []
  matchingEvents := 0
  detail := "no audit events present"

section

variable (hmacKey : List Nat) (options : AuditChainVerifyOptions)

/-- the loop of `verify_audit_chain_session` from the event at `index` on; a failure counts the events seen so far -/
def streamFrom (index : Nat) (p : Progress) : List AuditEvent → Except AuditError AuditChainVerificationReport
  | [] => if index = 0 then .ok noEventsReport else p.finish options index
  | e :: es =>
    if orderingViolation p.previousEvent e then
      .ok (p.failure index (index + 1) e .orderingViolation ("ordering violation at event index " ++ toString index))
    else if e.previousEventHash ≠ p.expectedPrevious then
      .ok (p.failure index (index + 1) e .chainBreak ("chain break at event index " ++ toString index))
    else do
      let intact ← verifyAuditEventHash hmacKey e
      if !intact then .ok (p.mismatch index (index + 1) e)
      else do
        let p ← p.advance options index e
        streamFrom (index + 1) p es

end

/-- `verify_audit_chain_session(session, hmac_key=…, options=…)` -/
def verifyAuditChainSession (hmacKey : List Nat) (options : Option AuditChainVerifyOptions) (table : List AuditEvent) :
    Except AuditError AuditChainVerificationReport := do
  let resolved := options.getD {}
  let events ← iterAuditEvents resolved.batchSize table
  streamFrom hmacKey resolved 0 {} events

/-! ## Both verifiers agree -/

/-- a report without the number of events that were there -/
def AuditChainVerificationReport.sansTotal (r : AuditChainVerificationReport) : AuditChainVerificationReport :=
  { r with totalEvents := 0 }

section

variable {hmacKey : List Nat} {options : AuditChainVerifyOptions}

theorem failure_sansTotal (p : Progress) (index total total' : Nat) (e : AuditEvent) (reason : AuditChainFailureReason)
    (detail : String) : (p.failure index total e reason detail).sansTotal =
      (p.failure index total' e reason detail).sansTotal := rfl

theorem mismatch_sansTotal (p : Progress) (index total total' : Nat) (e : AuditEvent) :
    (p.mismatch index total e).sansTotal = (p.mismatch index total' e).sansTotal := by
  unfold Progress.mismatch
  split_ifs <;> rfl

theorem streamFrom_eq {total index : Nat} {p : Progress} {events : List AuditEvent}
    (htotal : total = index + events.length) (hsome : total ≠ 0) :
    AuditChainVerificationReport.sansTotal <$> streamFrom hmacKey options index p events =
      AuditChainVerificationReport.sansTotal <$> verifyFrom hmacKey options total index p events := by
  induction events generalizing index p with
  | nil =>
    obtain rfl : total = index := htotal
    rw [streamFrom, if_neg hsome, verifyFrom]
  | cons e es ih =>
    unfold streamFrom verifyFrom
    by_cases hviolation : orderingViolation p.previousEvent e = true
    · rw [if_pos hviolation, if_pos hviolation]
      exact congrArg Except.ok (failure_sansTotal ..)
    by_cases hlink : e.previousEventHash ≠ p.expectedPrevious
    · rw [if_neg hviolation, if_neg hviolation, if_pos hlink, if_pos hlink]
      exact congrArg Except.ok (failure_sansTotal ..)
    rw [if_neg hviolation, if_neg hviolation, if_neg hlink, if_neg hlink, map_bind, map_bind]
    congr 1
    funext intact
    cases intact with
    | false => exact congrArg Except.ok (mismatch_sansTotal ..)
    | true =>
      show _ <$> (p.advance options index e >>= _) = _ <$> (p.advance options index e >>= _)
      rw [map_bind, map_bind]
      congr 1
      funext p'
      apply ih
      rw [htotal, List.length_cons]
      omega

end

/-- the primary key of the table -/
def UniqueIds (table : List AuditEvent) : Prop := (table.map fun e => e.auditEventId).Nodup

theorem sortKeys_nodup {table : List AuditEvent} (h : UniqueIds table) : (table.map fun e => e.sortKey).Nodup := by
  rw [UniqueIds, List.Nodup, List.pairwise_map] at h
  rw [List.Nodup, List.pairwise_map]
  refine h.imp fun hne hsame => hne ?_
  exact congrArg (fun k => (ofLex k).2) hsame

theorem iterAuditEvents_eq {batchSize : Int} {table : List AuditEvent}
    (hkeys : UniqueIds table) (hbatch : 1 ≤ batchSize) :
    iterAuditEvents batchSize table = .ok (orderedEvents table) := by
  have hlimit : 0 < batchSize.toNat := by omega
  rw [iterAuditEvents, if_neg (by omega), Keyset.readPages_eq (sortKeys_nodup hkeys) hlimit (Nat.lt_succ_self _)]
  rfl

/-- the verifier of the persisted chain streams the ordered table -/
theorem session_streams (hmacKey : List Nat) (options : Option AuditChainVerifyOptions) {table : List AuditEvent}
    (hkeys : UniqueIds table) (hbatch : 1 ≤ (options.getD {}).batchSize) :
    verifyAuditChainSession hmacKey options table =
      streamFrom hmacKey (options.getD {}) 0 {} (orderedEvents table) := by
  have hread := iterAuditEvents_eq hkeys hbatch
  rw [verifyAuditChainSession, hread]
  rfl

/-- streaming from the first event on -/
theorem stream_eq (hmacKey : List Nat) (options : Option AuditChainVerifyOptions) (events : List AuditEvent) :
    AuditChainVerificationReport.sansTotal <$> streamFrom hmacKey (options.getD {}) 0 {} events =
      AuditChainVerificationReport.sansTotal <$> verifyAuditChainEvents hmacKey options events := by
  rw [verifyAuditChainEvents]
  cases events with
  | nil => rfl
  | cons e es =>
    rw [List.isEmpty_cons, if_neg (by decide)]
    exact streamFrom_eq (Nat.zero_add _).symm (by simp)

/-- **Reading in batches changes nothing.** The verifier of the persisted chain and the verifier of the ordered table
raise the same errors and return the same report, but for the number of events that a failure leaves unread. -/
theorem streaming_agrees (hmacKey : List Nat) (options : Option AuditChainVerifyOptions) {table : List AuditEvent}
    (hkeys : UniqueIds table) (hbatch : 1 ≤ (options.getD {}).batchSize) :
    AuditChainVerificationReport.sansTotal <$> verifyAuditChainSession hmacKey options table =
      AuditChainVerificationReport.sansTotal <$> verifyAuditChainEvents hmacKey options (orderedEvents table) := by
  rw [session_streams hmacKey options hkeys hbatch]
  exact stream_eq hmacKey options (orderedEvents table)

namespace Small

theorem pair_uniqueIds : UniqueIds pair := by
  have hne : Workspace.Uuid.ofNat 1 ≠ Workspace.Uuid.ofNat 2 := by decide
  exact List.nodup_cons.2 ⟨by simpa [second, event, signed, call, AppendCall.fields] using hne, List.nodup_singleton _⟩

end Small

theorem streaming_agrees_small : AuditChainVerificationReport.sansTotal <$>
    verifyAuditChainSession Small.hmacKey (some { batchSize := 1 }) Small.pair =
      AuditChainVerificationReport.sansTotal <$>
        verifyAuditChainEvents Small.hmacKey (some { batchSize := 1 }) (orderedEvents Small.pair) :=
  streaming_agrees Small.hmacKey (some { batchSize := 1 }) Small.pair_uniqueIds (by decide)

/-! ## The places that the loop marks -/

def indicesOf (checkpoints : List AuditChainCheckpoint) : List Nat := checkpoints.map AuditChainCheckpoint.eventIndex

/-- the places among the first `n` events -/
def dueIndices (interval : Int) (n : Nat) : List Nat :=
  (List.range n).filter fun i => i = 0 ∨ ((i + 1 : Nat) : Int) % interval = 0

/-- the places of a chain of `n` events that passes, were there no maximum -/
def markedIndices (interval : Int) (n : Nat) : List Nat :=
  dueIndices interval n ++ if 1 < n ∧ ((n - 1 : Nat) : Int) % interval ≠ 0 then [n - 1] else []

theorem dueIndices_succ (interval : Int) (n : Nat) : dueIndices interval (n + 1) =
    dueIndices interval n ++ if n = 0 ∨ ((n + 1 : Nat) : Int) % interval = 0 then [n] else [] := by
  rw [dueIndices, List.range_succ, List.filter_append, ← dueIndices]
  by_cases hdue : n = 0 ∨ ((n + 1 : Nat) : Int) % interval = 0
  · rw [if_pos hdue, List.filter_cons_of_pos (p := fun i => decide (i = 0 ∨ ((i + 1 : Nat) : Int) % interval = 0))
      (decide_eq_true hdue), List.filter_nil]
  · rw [if_neg hdue, List.filter_cons_of_neg (p := fun i => decide (i = 0 ∨ ((i + 1 : Nat) : Int) % interval = 0))
      (by simpa using hdue), List.filter_nil]

theorem indicesOf_append {checkpoints : List AuditChainCheckpoint} {places : List Nat}
    (h : indicesOf checkpoints = places.take maxCheckpoints) (index : Nat) (e : AuditEvent) :
    indicesOf (appendCheckpoint checkpoints index e) = (places ++ [index]).take maxCheckpoints := by
  have hlength : checkpoints.length = min maxCheckpoints places.length := by
    rw [← List.length_take, ← h, indicesOf, List.length_map]
  unfold appendCheckpoint
  split_ifs with hfull
  · rw [h, List.take_append_of_le_length (by omega)]
  · have hplaces : places.length < maxCheckpoints := by omega
    have hroom : (places ++ [index]).length ≤ maxCheckpoints := by
      rw [List.length_append, List.length_singleton]
      omega
    rw [List.take_of_length_le hplaces.le] at h
    rw [List.take_of_length_le hroom, indicesOf, List.map_append, ← indicesOf, h]
    rfl

section

variable {hmacKey : List Nat} {options : AuditChainVerifyOptions}

theorem advance_indices (hinterval : options.checkpointInterval ≠ 0) {p p' : Progress} {index : Nat} {e : AuditEvent}
    (h : p.advance options index e = .ok p')
    (hp : indicesOf p.checkpoints = (dueIndices options.checkpointInterval index).take maxCheckpoints) :
    indicesOf p'.checkpoints = (dueIndices options.checkpointInterval (index + 1)).take maxCheckpoints := by
  have hdue : checkpointDue options index =
      .ok (decide (index = 0 ∨ ((index + 1 : Nat) : Int) % options.checkpointInterval = 0)) := by
    unfold checkpointDue
    by_cases hindex : index = 0
    · rw [if_pos hindex]
      simp [hindex]
    · rw [if_neg hindex, dividedBy_ok hinterval]
      simp [hindex]
  rw [Progress.advance, hdue] at h
  cases h
  show indicesOf (if _ then _ else _) = _
  rw [dueIndices_succ]
  by_cases hmark : index = 0 ∨ ((index + 1 : Nat) : Int) % options.checkpointInterval = 0
  · rw [if_pos (decide_eq_true hmark), if_pos hmark]
    exact indicesOf_append hp index e
  · rw [if_neg (by simpa using hmark), if_neg hmark, List.append_nil]
    exact hp

theorem finish_indices (hinterval : options.checkpointInterval ≠ 0) {p : Progress} {total : Nat}
    {r : AuditChainVerificationReport} (h : p.finish options total = .ok r)
    (hp : indicesOf p.checkpoints = (dueIndices options.checkpointInterval total).take maxCheckpoints)
    (hprevious : total ≠ 0 → p.previousEvent ≠ none) :
    indicesOf r.checkpoints = (markedIndices options.checkpointInterval total).take maxCheckpoints := by
  have hdue : lastCheckpointDue options total =
      .ok (decide (1 < total ∧ ((total - 1 : Nat) : Int) % options.checkpointInterval ≠ 0)) := by
    unfold lastCheckpointDue
    by_cases htotal : 1 < total
    · rw [if_pos htotal, dividedBy_ok hinterval]
      simp [htotal, Functor.map, Except.map]
    · rw [if_neg htotal]
      simp [htotal]
  rw [Progress.finish, hdue] at h
  cases h
  rw [markedIndices]
  by_cases hlast : 1 < total ∧ ((total - 1 : Nat) : Int) % options.checkpointInterval ≠ 0
  · obtain ⟨e, he⟩ := Option.ne_none_iff_exists'.1 (hprevious (by omega))
    rw [if_pos hlast]
    simp only [he, if_pos (decide_eq_true hlast)]
    exact indicesOf_append hp (total - 1) e
  · rw [if_neg hlast, List.append_nil, ← hp]
    simp only [decide_eq_false hlast]
    split <;> rfl

/-- the loop marks what is due, up to the maximum -/
theorem verifyFrom_indices (hinterval : options.checkpointInterval ≠ 0) {total index : Nat} {p : Progress}
    {events : List AuditEvent} {r : AuditChainVerificationReport}
    (h : verifyFrom hmacKey options total index p events = .ok r) (hr : r.passed = true)
    (htotal : total = index + events.length)
    (hp : indicesOf p.checkpoints = (dueIndices options.checkpointInterval index).take maxCheckpoints)
    (hprevious : index ≠ 0 → p.previousEvent ≠ none) :
    indicesOf r.checkpoints = (markedIndices options.checkpointInterval total).take maxCheckpoints := by
  induction events generalizing index p with
  | nil =>
    obtain rfl : total = index := htotal
    exact finish_indices hinterval h hp hprevious
  | cons e es ih =>
    unfold verifyFrom at h
    by_cases hviolation : orderingViolation p.previousEvent e = true
    · rw [if_pos hviolation] at h
      cases h
      cases hr
    by_cases hlink : e.previousEventHash ≠ p.expectedPrevious
    · rw [if_neg hviolation, if_pos hlink] at h
      cases h
      cases hr
    rw [if_neg hviolation, if_neg hlink] at h
    obtain ⟨intact, -, h⟩ := bind_eq_ok.1 h
    cases intact with
    | false =>
      rw [Bool.not_false, if_pos rfl] at h
      rw [mismatch_passed h] at hr
      cases hr
    | true =>
      rw [Bool.not_true, if_neg (by decide)] at h
      obtain ⟨p', hadvance, h⟩ := bind_eq_ok.1 h
      refine ih h ?_ (advance_indices hinterval hadvance hp) ?_
      · rw [htotal, List.length_cons]
        omega
      · rw [(advance_ok hadvance).1]
        simp

end

/-! ## What the places cover -/

/-- from the first event to the last, by at most one interval at a time -/
structure Covers (interval : Int) (n : Nat) (indices : List Nat) : Prop where
  first : indices.head? = some 0
  increasing : indices.Pairwise (· < ·)
  spaced : indices.IsChain fun a b : Nat => (b : Int) ≤ a + interval
  last : indices.getLast? = some (n - 1)

/-- the interval divides neither the number of events nor the place of the head -/
def OffBeat (interval : Int) (n : Nat) : Prop :=
  n = 1 ∨ interval = 1 ∨ ¬interval ∣ (n : Int) ∧ ¬interval ∣ ((n - 1 : Nat) : Int)

section

variable {k n : Nat}

theorem mem_dueIndices {i : Nat} : i ∈ dueIndices k n ↔ i < n ∧ (i = 0 ∨ k ∣ i + 1) := by
  rw [dueIndices, List.mem_filter, List.mem_range, decide_eq_true_iff, ← Int.dvd_iff_emod_eq_zero,
    Int.natCast_dvd_natCast]

theorem head_dueIndices (hn : 0 < n) : (dueIndices k n).head? = some 0 := by
  obtain ⟨m, rfl⟩ := Nat.exists_eq_succ_of_ne_zero hn.ne'
  rw [dueIndices, Nat.succ_eq_add_one, List.range_succ_eq_map, List.filter_cons_of_pos (by simp)]
  rfl

theorem dueIndices_increasing (n : Nat) : (dueIndices k n).Pairwise (· < ·) := List.pairwise_lt_range.filter _

/-- the last place is less than one interval back -/
theorem dueIndices_spaced (hk : 0 < k) (hn : 0 < n) :
    (dueIndices k n).IsChain (fun a b => b ≤ a + k) ∧
      ∃ l, (dueIndices k n).getLast? = some l ∧ l < n ∧ (l = 0 ∧ n < k ∨ k ∣ l + 1 ∧ n ≤ l + k) := by
  induction n with
  | zero => omega
  | succ n ih =>
    rcases n.eq_zero_or_pos with rfl | hpos
    · refine ⟨by simp [dueIndices], 0, by simp [dueIndices], Nat.one_pos, ?_⟩
      rcases Nat.lt_or_ge 1 k with hmore | hone
      · exact Or.inl ⟨rfl, hmore⟩
      · obtain rfl : k = 1 := by omega
        exact Or.inr ⟨one_dvd _, by omega⟩
    obtain ⟨hchain, l, hlast, hl, hstate⟩ := ih hpos
    rw [dueIndices_succ]
    simp only [← Int.dvd_iff_emod_eq_zero, Int.natCast_dvd_natCast]
    by_cases hdue : k ∣ n + 1
    · rw [if_pos (Or.inr hdue)]
      refine ⟨?_, n, by simp, Nat.lt_succ_self n, Or.inr ⟨hdue, by omega⟩⟩
      rw [List.isChain_append]
      refine ⟨hchain, List.isChain_singleton n, fun a ha b hb => ?_⟩
      obtain rfl : l = a := Option.some.inj (hlast.symm.trans ha)
      obtain rfl : n = b := Option.some.inj hb
      rcases hstate with ⟨hzero, hlt⟩ | ⟨-, hle⟩ <;> omega
    · rw [if_neg (by omega), List.append_nil]
      refine ⟨hchain, l, hlast, by omega, ?_⟩
      rcases hstate with ⟨hzero, hlt⟩ | ⟨hdvd, hle⟩
      · refine Or.inl ⟨hzero, lt_of_le_of_ne (by omega) ?_⟩
        rintro rfl
        exact hdue dvd_rfl
      · refine Or.inr ⟨hdvd, ?_⟩
        by_contra hfar
        have hnext : n + 1 = l + 1 + k := by omega
        exact hdue (hnext ▸ hdvd.add dvd_rfl)

/-- a place that the loop marks is the head's only where the interval divides the number of events -/
theorem last_eq_head_iff {l : Nat} (hl : l < n) (hstate : l = 0 ∧ n < k ∨ k ∣ l + 1 ∧ n ≤ l + k) :
    l = n - 1 ↔ n = 1 ∨ k ∣ n := by
  constructor
  · intro hlast
    have hn : n = l + 1 := by omega
    rcases hstate with ⟨rfl, -⟩ | ⟨hdvd, -⟩
    · exact Or.inl hn
    · exact Or.inr (hn ▸ hdvd)
  · rintro (rfl | hdvd)
    · omega
    rcases hstate with ⟨-, hlt⟩ | ⟨hdvd', hle⟩
    · have hge := Nat.le_of_dvd (by omega) hdvd
      omega
    · have hrest : k ∣ n - (l + 1) := Nat.dvd_sub hdvd hdvd'
      have hzero : n - (l + 1) = 0 := by
        by_contra hpos
        have hge := Nat.le_of_dvd (Nat.pos_of_ne_zero hpos) hrest
        omega
      omega

theorem markedIndices_eq (k n : Nat) :
    markedIndices k n = dueIndices k n ++ if 1 < n ∧ ¬k ∣ n - 1 then [n - 1] else [] := by
  rw [markedIndices]
  simp only [ne_eq, ← Int.dvd_iff_emod_eq_zero, Int.natCast_dvd_natCast]

theorem offBeat_iff : OffBeat k n ↔ n = 1 ∨ k = 1 ∨ ¬k ∣ n ∧ ¬k ∣ n - 1 := by
  rw [OffBeat, Int.natCast_dvd_natCast, Int.natCast_dvd_natCast, Nat.cast_eq_one]

theorem covers_markedIndices (hk : 0 < k) (hn : 0 < n) : Covers k n (markedIndices k n) ↔ OffBeat k n := by
  obtain ⟨hchain, l, hlast, hl, hstate⟩ := dueIndices_spaced hk hn
  have hhead := last_eq_head_iff hl hstate
  rw [markedIndices_eq, offBeat_iff]
  by_cases hfinal : 1 < n ∧ ¬k ∣ n - 1
  · rw [if_pos hfinal]
    constructor
    · intro h
      refine Or.inr (Or.inr ⟨fun hdvd => ?_, hfinal.2⟩)
      have hmarked : n - 1 ∈ dueIndices k n :=
        mem_dueIndices.2 ⟨by omega, Or.inr (by rwa [Nat.sub_add_cancel hn])⟩
      have hlt := (List.pairwise_append.1 h.increasing).2.2 _ hmarked _ (List.mem_singleton_self _)
      omega
    · rintro (rfl | rfl | ⟨hn', -⟩)
      · omega
      · exact absurd (one_dvd _) hfinal.2
      refine ⟨?_, ?_, ?_, by simp⟩
      · rw [List.head?_append, head_dueIndices hn]
        rfl
      · refine List.pairwise_append.2 ⟨dueIndices_increasing n, List.pairwise_singleton _ _, fun a ha b hb => ?_⟩
        obtain ⟨hlt, hdue⟩ := mem_dueIndices.1 ha
        rw [List.mem_singleton.1 hb]
        refine lt_of_le_of_ne (by omega) ?_
        rintro rfl
        rcases hdue with hzero | hdvd
        · omega
        · exact hn' (by rwa [Nat.sub_add_cancel hn] at hdvd)
      · refine List.isChain_append.2 ⟨hchain.imp fun a b h => by omega, List.isChain_singleton _, fun a ha b hb => ?_⟩
        obtain rfl : l = a := Option.some.inj (hlast.symm.trans ha)
        obtain rfl : n - 1 = b := Option.some.inj hb
        rcases hstate with ⟨hzero, hlt⟩ | ⟨-, hle⟩ <;> omega
  · rw [if_neg hfinal, List.append_nil]
    constructor
    · intro h
      have hplace : l = n - 1 := Option.some.inj (hlast.symm.trans h.last)
      rcases hhead.1 hplace with hone | hdvd
      · exact Or.inl hone
      by_cases hone : n = 1
      · exact Or.inl hone
      have hdvd' : k ∣ n - 1 := by
        by_contra hnot
        exact hfinal ⟨by omega, hnot⟩
      have hunit : k ∣ n - (n - 1) := Nat.dvd_sub hdvd hdvd'
      rw [show n - (n - 1) = 1 by omega] at hunit
      exact Or.inr (Or.inl (Nat.dvd_one.1 hunit))
    · intro h
      have hdvd : n = 1 ∨ k ∣ n := by
        rcases h with hone | rfl | ⟨-, hnot⟩
        · exact Or.inl hone
        · exact Or.inr (one_dvd _)
        · exact Or.inl (by by_contra hone; exact hfinal ⟨by omega, hnot⟩)
      refine ⟨head_dueIndices hn, dueIndices_increasing n, hchain.imp fun a b h => by omega, ?_⟩
      exact hlast.trans (congrArg some (hhead.2 hdvd))

end

/-- the checkpoints of a report of a chain that passes, when there are fewer than the maximum -/
theorem report_indices {hmacKey : List Nat} {options : Option AuditChainVerifyOptions} {events : List AuditEvent}
    {r : AuditChainVerificationReport} (hinterval : 1 ≤ (options.getD {}).checkpointInterval) (hne : events ≠ [])
    (h : verifyAuditChainEvents hmacKey options events = .ok r) (hr : r.passed = true)
    (hfew : r.checkpoints.length < maxCheckpoints) :
    indicesOf r.checkpoints = markedIndices (options.getD {}).checkpointInterval events.length := by
  rw [verifyAuditChainEvents, if_neg (by simpa using hne)] at h
  have hindices := verifyFrom_indices (by omega) h hr (Nat.zero_add _).symm rfl (fun h0 => absurd rfl h0)
  rw [hindices, List.take_of_length_le]
  have hlength := congrArg List.length hindices
  rw [indicesOf, List.length_map, List.length_take] at hlength
  omega

theorem report_covers_iff {hmacKey : List Nat} {options : Option AuditChainVerifyOptions} {events : List AuditEvent}
    {r : AuditChainVerificationReport} (hinterval : 1 ≤ (options.getD {}).checkpointInterval) (hne : events ≠ [])
    (h : verifyAuditChainEvents hmacKey options events = .ok r) (hr : r.passed = true)
    (hfew : r.checkpoints.length < maxCheckpoints) :
    Covers (options.getD {}).checkpointInterval events.length (indicesOf r.checkpoints) ↔
      OffBeat (options.getD {}).checkpointInterval events.length := by
  rw [report_indices hinterval hne h hr hfew]
  obtain ⟨k, hk⟩ := Int.eq_ofNat_of_zero_le (show 0 ≤ (options.getD {}).checkpointInterval by omega)
  rw [hk]
  exact covers_markedIndices (by omega) (List.length_pos_iff.2 hne)

/-- **What the checkpoints cover.** The checkpoints of a chain that passes, in fewer than the maximum, go from its first
event to its last by at most one interval at a time exactly where the interval divides neither the number of events nor
the place of the head. -/
theorem checkpoints_cover_iff (hmacKey : List Nat) {options : Option AuditChainVerifyOptions}
    (hinterval : 1 ≤ (options.getD {}).checkpointInterval) :
    (∀ (events : List AuditEvent) (r : AuditChainVerificationReport), events ≠ [] →
      verifyAuditChainEvents hmacKey options events = .ok r → r.passed = true → r.checkpoints.length < maxCheckpoints →
      (Covers (options.getD {}).checkpointInterval events.length (indicesOf r.checkpoints) ↔
        OffBeat (options.getD {}).checkpointInterval events.length)) ∧
    ∀ (table : List AuditEvent) (r : AuditChainVerificationReport), table ≠ [] →
      UniqueIds table → 1 ≤ (options.getD {}).batchSize →
      verifyAuditChainSession hmacKey options table = .ok r → r.passed = true →
      r.checkpoints.length < maxCheckpoints →
      (Covers (options.getD {}).checkpointInterval table.length (indicesOf r.checkpoints) ↔
        OffBeat (options.getD {}).checkpointInterval table.length) := by
  refine ⟨fun events r hne h hr hfew => report_covers_iff hinterval hne h hr hfew, ?_⟩
  intro table r hne hkeys hbatch h hr hfew
  have hstream := stream_eq hmacKey options (orderedEvents table)
  rw [← session_streams hmacKey options hkeys hbatch, h] at hstream
  obtain ⟨r', hevents, hsame⟩ := ok_of_map_eq_ok hstream.symm
  have hpassed : r.passed = r'.passed := congrArg (fun r => r.passed) hsame.symm
  have hcheckpoints : r.checkpoints = r'.checkpoints := congrArg (fun r => r.checkpoints) hsame.symm
  have hlength : (orderedEvents table).length = table.length := List.length_insertionSort _ _
  have hordered : orderedEvents table ≠ [] := by
    intro hnil
    rw [hnil] at hlength
    exact hne (List.length_eq_zero_iff.1 hlength.symm)
  rw [hcheckpoints] at hfew ⊢
  rw [← hlength]
  exact report_covers_iff hinterval hordered hevents (hpassed ▸ hr) hfew

namespace Small

theorem pair_verifies (options : Option AuditChainVerifyOptions)
    (hinterval : (options.getD {}).checkpointInterval ≠ 0) :
    ∃ r, verifyAuditChainEvents hmacKey options pair = .ok r ∧ r.passed = true ∧
      indicesOf r.checkpoints = (markedIndices (options.getD {}).checkpointInterval 2).take maxCheckpoints := by
  have hpasses : ∃ r, verifyFrom hmacKey (options.getD {}) 2 0 {} pair = .ok r ∧ r.passed = true :=
    passes_verifyFrom hinterval 2 ⟨pair_sorted, by simp⟩ pair_linked pair_intact
  obtain ⟨r, hr, hpassed⟩ := hpasses
  exact ⟨r, hr, hpassed, verifyFrom_indices hinterval hr hpassed rfl rfl fun h0 => absurd rfl h0⟩

end Small

theorem checkpoints_cover_pair :
    (∃ r, verifyAuditChainEvents Small.hmacKey none Small.pair = .ok r ∧ r.passed = true ∧
      Covers 1000 2 (indicesOf r.checkpoints)) ∧
    ∃ r, verifyAuditChainSession Small.hmacKey none Small.pair = .ok r ∧ r.passed = true ∧
      Covers 1000 2 (indicesOf r.checkpoints) := by
  have hoff : OffBeat 1000 2 := Or.inr (Or.inr (by decide))
  have hfew : ∀ cs, indicesOf cs = (markedIndices 1000 2).take maxCheckpoints → cs.length < maxCheckpoints := by
    intro cs hcs
    have hlength := congrArg List.length hcs
    rw [indicesOf, List.length_map] at hlength
    rw [hlength]
    decide
  obtain ⟨hcovers, hcovers'⟩ := @checkpoints_cover_iff Small.hmacKey none (by decide)
  obtain ⟨r, hr, hpassed, hindices⟩ := Small.pair_verifies none (by decide)
  refine ⟨⟨r, hr, hpassed, (hcovers Small.pair r (by simp [Small.pair]) hr hpassed (hfew _ hindices)).2 hoff⟩, ?_⟩
  have hordered : orderedEvents Small.pair = Small.pair := List.Pairwise.insertionSort_eq Small.pair_sorted
  have hstream := stream_eq Small.hmacKey none (orderedEvents Small.pair)
  rw [← session_streams Small.hmacKey none Small.pair_uniqueIds (by decide), hordered, hr] at hstream
  obtain ⟨r', hr', hsame⟩ := ok_of_map_eq_ok hstream
  have hpassed' : r'.passed = true := hpassed ▸ congrArg (fun r => r.passed) hsame
  have hcheckpoints : r'.checkpoints = r.checkpoints := congrArg (fun r => r.checkpoints) hsame
  have hfew' : r'.checkpoints.length < maxCheckpoints := hcheckpoints ▸ hfew _ hindices
  refine ⟨r', hr', hpassed', ?_⟩
  exact (hcovers' Small.pair r' (by simp [Small.pair]) Small.pair_uniqueIds (by decide) hr' hpassed' hfew').2 hoff

/-- two events and an interval of two: the head stands there twice -/
theorem head_repeated : ∃ r,
    verifyAuditChainEvents Small.hmacKey (some { checkpointInterval := 2 }) Small.pair = .ok r ∧ r.passed = true ∧
      r.checkpoints.length < maxCheckpoints ∧ Small.pair.length = 2 ∧ ¬Covers 2 2 (indicesOf r.checkpoints) := by
  obtain ⟨r, hr, hpassed, hindices⟩ := Small.pair_verifies (some { checkpointInterval := 2 }) (by decide)
  have hthree : indicesOf r.checkpoints = [0, 1, 1] := hindices
  have hlength : r.checkpoints.length = 3 := by
    rw [← List.length_map (f := AuditChainCheckpoint.eventIndex), ← indicesOf, hthree]
    rfl
  refine ⟨r, hr, hpassed, by rw [hlength]; decide, rfl, fun h => ?_⟩
  rw [hthree] at h
  exact absurd h.increasing (by decide)

end AtoService.Audit
