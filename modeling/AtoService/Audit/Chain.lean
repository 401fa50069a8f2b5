/-
What the audit chain guarantees.

- `chain_verifies`: a table that was filled by committed transactions verifies, as long as every event that is appended
  sorts after the events already there and its metadata comes out of a JSONB column as it went in. `chain_breaks` is a
  transaction with two events of one instant, the second of which draws the smaller identifier.
- `tamper_evident_iff`: two chains that verify under one key and end in one digest are one chain exactly when the metadata
  of their events is a dict, or the same value, in each place. `edited_metadata_verifies` is a chain whose metadata was
  replaced by null.

Both rest on `passes_iff`. The first is an invariant of the table (`Chained`), which `appendInTransaction` keeps
(`chained_append`); the second is `HashChain.commitment` with `canonicalJsonBytes_injective`.
-/
import AtoService.Lib.Runs
import AtoService.Lib.ShaEval
import AtoService.Audit.Verify
import AtoService.Audit.Encoding

namespace AtoService.Audit

/-! ## Appending -/

/-- the table is in order as it was appended, linked, and intact -/
structure Chained (hmacKey : List Nat) (table : List AuditEvent) : Prop where
  sorted : table.Pairwise fun a b => a.sortKey < b.sortKey
  linked : Linked genesisPreviousEventHash table
  intact : ∀ e ∈ table, Intact hmacKey e

theorem Chained.orderedEvents_eq {hmacKey : List Nat} {table : List AuditEvent} (h : Chained hmacKey table) :
    orderedEvents table = table :=
  List.Pairwise.insertionSort_eq (h.sorted.imp fun hlt => hlt.le)

/-- in a table that is in order the latest event is the last -/
theorem Chained.latest {hmacKey : List Nat} {table : List AuditEvent} (h : Chained hmacKey table) :
    loadLatestAuditEvent table = table.getLast? := by
  have hperm : (table.insertionSort fun a b => b.sortKey ≤ a.sortKey).Perm table.reverse :=
    (List.perm_insertionSort _ _).trans (List.reverse_perm table).symm
  have hsorted : (table.insertionSort fun a b => b.sortKey ≤ a.sortKey).Pairwise fun a b => b.sortKey ≤ a.sortKey :=
    List.pairwise_insertionSort _ _
  have hreverse : table.reverse.Pairwise fun a b => b.sortKey ≤ a.sortKey :=
    List.pairwise_reverse.2 (h.sorted.imp fun hlt => hlt.le)
  have hnodup : (table.map fun e => e.sortKey).Nodup := by
    rw [List.Nodup, List.pairwise_map]
    exact h.sorted.imp fun hlt => hlt.ne
  have hinj : ∀ a ∈ table, ∀ b ∈ table, a.sortKey = b.sortKey → a = b := fun a ha b hb hab =>
    List.inj_on_of_nodup_map hnodup ha hb hab
  have heq : (table.insertionSort fun a b => b.sortKey ≤ a.sortKey) = table.reverse := by
    refine hperm.eq_of_pairwise (fun a b ha hb hab hba => ?_) hsorted hreverse
    exact hinj a ((List.mem_insertionSort _).1 ha) b (List.mem_reverse.1 hb) (le_antisymm hba hab)
  rw [loadLatestAuditEvent, heq, List.head?_reverse]

theorem digest_isSha256 {hmacKey : List Nat} {f : AuditFields} {h : String} (hd : digest hmacKey f = some h) :
    isSha256 h = true := by
  obtain ⟨bytes, -, rfl⟩ := Option.map_eq_some_iff.1 hd
  exact isSha256_of_hex (Sha.hmacSha256Hex_length _ _) (Sha.hmacSha256Hex_digits _ _)

/-- an event with its own digest under a long key is intact -/
theorem intact_of_digest {hmacKey : List Nat} {e : AuditEvent} (hlen : minAuditHmacKeyBytes ≤ hmacKey.length)
    (hd : digest hmacKey e.toAuditFields = some e.eventHash) : Intact hmacKey e := ⟨digest_isSha256 hd, hlen, hd⟩

theorem validate_ok {c : AppendCall} {hmacKey k : List Nat} (h : c.validate hmacKey = .ok k) :
    minAuditHmacKeyBytes ≤ hmacKey.length ∧ k = hmacKey := by
  simp only [AppendCall.validate, bind_eq_ok] at h
  obtain ⟨k', hkey, _, _, _, _, _, _, _, _, _, _, _, _, _, _, _, _, _, _, hk⟩ := h
  obtain ⟨hlen, rfl⟩ := requireAuditHmacKey_ok.1 hkey
  exact ⟨hlen, (Except.ok.inj hk).symm⟩

/-- the event of an accepted call -/
theorem appendAuditEvent_ok {hmacKey : List Nat} {table : List AuditEvent} {c : AppendCall} {e : AuditEvent}
    (h : appendAuditEvent hmacKey table c = .ok e) : c.validate hmacKey = .ok hmacKey ∧
      e.toAuditFields = c.fields (((loadLatestAuditEvent table).map AuditEvent.eventHash).getD genesisPreviousEventHash) ∧
      Intact hmacKey e := by
  simp only [appendAuditEvent, bind_eq_ok] at h
  obtain ⟨k, hvalidate, eventHash, hhash, he⟩ := h
  obtain ⟨hlen, rfl⟩ := validate_ok hvalidate
  obtain ⟨-, hdigest⟩ := computeAuditEventHash_ok.1 hhash
  cases he
  exact ⟨hvalidate, rfl, intact_of_digest hlen hdigest⟩

/-- what a call makes of the table -/
theorem appendInTransaction_ok {hmacKey : List Nat} {table table' : List AuditEvent} {c : AppendCall}
    (h : appendInTransaction hmacKey table c = .ok table') :
    table' = table ∨ ∃ e, appendAuditEvent hmacKey table c = .ok e ∧ table' = table ++ [e.stored] := by
  unfold appendInTransaction at h
  cases he : appendAuditEvent hmacKey table c with
  | error e =>
    rw [he] at h
    exact Or.inl (Except.ok.inj h).symm
  | ok e =>
    rw [he] at h
    simp only [insertEvent] at h
    split_ifs at h
    exact Or.inr ⟨e, rfl, (Except.ok.inj h).symm⟩

theorem sortKey_of_appendAuditEvent {hmacKey : List Nat} {table : List AuditEvent} {c : AppendCall} {e : AuditEvent}
    (h : appendAuditEvent hmacKey table c = .ok e) : e.stored.sortKey = c.sortKey :=
  congrArg AuditFields.sortKey (appendAuditEvent_ok h).2.1

/-- an accepted call sorts after the events in the table, and a JSONB column keeps its metadata -/
def SortsLast (hmacKey : List Nat) (table : List AuditEvent) (c : AppendCall) : Prop :=
  c.validate hmacKey = .ok hmacKey →
    (∀ e ∈ table, e.sortKey < c.sortKey) ∧ c.metadataOrEmpty.jsonb = c.metadataOrEmpty

/-- every call of a transaction that takes effect sorts last when it is made -/
def CallsSortLast (hmacKey : List Nat) : List AuditEvent → List AppendCall → Prop
  | _, [] => True
  | table, c :: cs => SortsLast hmacKey table c ∧
      ∀ table', appendInTransaction hmacKey table c = .ok table' → CallsSortLast hmacKey table' cs

def Orderly (hmacKey : List Nat) (table : List AuditEvent) (tx : Transaction) : Prop :=
  tx.commits = true → CallsSortLast hmacKey table tx.calls

section

variable {hmacKey : List Nat}

theorem chained_append {table table' : List AuditEvent} {c : AppendCall} (h : Chained hmacKey table)
    (hlast : SortsLast hmacKey table c) (hc : appendInTransaction hmacKey table c = .ok table') :
    Chained hmacKey table' := by
  rcases appendInTransaction_ok hc with rfl | ⟨e, he, rfl⟩
  · exact h
  · obtain ⟨hvalidate, hfields, hintact⟩ := appendAuditEvent_ok he
    obtain ⟨hafter, hmetadata⟩ := hlast hvalidate
    have hkey := sortKey_of_appendAuditEvent he
    have hstored : e.stored = e := by
      have hmeta : e.metadata = c.metadataOrEmpty.toMetadata := congrArg AuditFields.metadata hfields
      have hjsonb : c.metadataOrEmpty.toMetadata.jsonb = c.metadataOrEmpty.toMetadata :=
        congrArg Dict.toMetadata hmetadata
      rw [AuditEvent.stored, hmeta, hjsonb, ← hmeta]
    rw [hstored] at hkey ⊢
    have hprevious : e.previousEventHash = HashChain.head AuditEvent.eventHash genesisPreviousEventHash table := by
      rw [HashChain.head, ← h.latest]
      exact congrArg AuditFields.previousEventHash hfields
    refine ⟨?_, HashChain.linked_append_singleton.2 ⟨h.linked, hprevious⟩, ?_⟩
    · rw [List.pairwise_append]
      refine ⟨h.sorted, List.pairwise_singleton _ _, fun a ha b hb => ?_⟩
      rw [List.mem_singleton.1 hb, hkey]
      exact hafter a ha
    · intro d hd
      rcases List.mem_append.1 hd with hd | hd
      · exact h.intact d hd
      · rw [List.mem_singleton.1 hd]
        exact hintact

theorem chained_calls {table table' : List AuditEvent} {calls : List AppendCall} (h : Chained hmacKey table)
    (hlast : CallsSortLast hmacKey table calls) (hc : calls.foldlM (appendInTransaction hmacKey) table = .ok table') :
    Chained hmacKey table' := by
  induction calls generalizing table with
  | nil =>
    cases hc
    exact h
  | cons c cs ih =>
    rw [List.foldlM_cons, bind_eq_ok] at hc
    obtain ⟨mid, hmid, hc⟩ := hc
    exact ih (chained_append h hlast.1 hmid) (hlast.2 mid hmid) hc

theorem chained_step {table : List AuditEvent} {tx : Transaction} (h : Chained hmacKey table)
    (htx : Orderly hmacKey table tx) : Chained hmacKey (step hmacKey table tx) := by
  unfold step
  cases hc : tx.calls.foldlM (appendInTransaction hmacKey) table with
  | error e => exact h
  | ok after =>
    dsimp only
    split_ifs with hcommits
    · exact chained_calls h (htx hcommits) hc
    · exact h

end

/-- **The chain verifies**, as long as every event sorts last when it is appended. -/
theorem chain_verifies (hmacKey : List Nat) {options : Option AuditChainVerifyOptions}
    (hinterval : (options.getD {}).checkpointInterval ≠ 0) {txs : List Transaction}
    (h : Runs.Along (step hmacKey) (Orderly hmacKey) [] txs) :
    Passes hmacKey options (orderedEvents (Runs.run (step hmacKey) [] txs)) := by
  have hempty : Chained hmacKey [] := ⟨List.Pairwise.nil, trivial, by simp⟩
  have hrun : Chained hmacKey (Runs.run (step hmacKey) [] txs) :=
    Runs.run_inv_along (fun _ _ hs hG => chained_step hs hG) hempty h
  rw [hrun.orderedEvents_eq]
  exact (passes_iff hinterval).2 ⟨hrun.sorted.imp fun hlt => hlt.le, hrun.linked, hrun.intact⟩

namespace Small

def hmacKey : List Nat := List.replicate 32 1

def noon : Instant := ⟨2026, 1, 1, 12, 0, 0, 0, by decide, by decide, by decide, by decide⟩

/-- an event at noon that draws the identifier `n` -/
def call (n : Nat) : AppendCall where
  actorType := "service"
  actorId := "w"
  action := "run.created"
  objectType := "run"
  objectId := "r"
  outcome := "succeeded"
  reasonCode := none
  metadata := none
  occurredAt := some { value := noon }
  now := noon
  auditEventId := .ofNat n

theorem calls_ordered : (call 1).sortKey < (call 2).sortKey := by decide

end Small

theorem chain_verifies_two :
    Passes Small.hmacKey none (orderedEvents (Runs.run (step Small.hmacKey) [] [{ calls := [Small.call 1, Small.call 2] }])) := by
  refine chain_verifies Small.hmacKey (by decide) ⟨fun _ => ⟨fun _ => ⟨by simp, rfl⟩, fun table' h => ⟨?_, ?_⟩⟩, trivial⟩
  · refine fun _ => ⟨fun e he => ?_, rfl⟩
    have hkey := Small.calls_ordered
    rcases appendInTransaction_ok h with rfl | ⟨d, hd, rfl⟩
    · simp at he
    · rw [List.nil_append, List.mem_singleton] at he
      rw [he, sortKey_of_appendAuditEvent hd]
      exact hkey
  · intro _ _
    trivial

/-- two events of one instant, of which the second draws the smaller identifier -/
theorem chain_breaks :
    ¬Passes Small.hmacKey none (orderedEvents (Runs.run (step Small.hmacKey) [] [{ calls := [Small.call 2, Small.call 1] }])) := by
  have hfails : (verifyAuditChainEvents Small.hmacKey none (orderedEvents (Runs.run (step Small.hmacKey) []
      [{ calls := [Small.call 2, Small.call 1] }]))).map (fun r => r.passed) = .ok false := by
    decide +kernel
  rintro ⟨r, hr, hpassed⟩
  rw [hr, Except.map, hpassed] at hfails
  cases hfails

/-! ## Tampering -/

/-- **When tampering is evident.** For two chains that verify under one key and end in one digest, where no two of their
events collide under the keyed digest and the genesis value, which is not computed with the key, is no event's digest: they
are one chain exactly when, in each place, the metadata of both events is a dict or is the same value. -/
theorem tamper_evident_iff (hmacKey : List Nat) {options options' : Option AuditChainVerifyOptions}
    {events events' : List AuditEvent} (h : Passes hmacKey options events) (h' : Passes hmacKey options' events')
    (hinj : ∀ e ∈ events, ∀ e' ∈ events', digest hmacKey e.toAuditFields = digest hmacKey e'.toAuditFields →
      canonicalJsonBytes e.toAuditFields = canonicalJsonBytes e'.toAuditFields)
    (hgenesis : ∀ e ∈ events ++ events', digest hmacKey e.toAuditFields ≠ some genesisPreviousEventHash)
    (hhead : events.getLast?.map AuditEvent.eventHash = events'.getLast?.map AuditEvent.eventHash) :
    events = events' ↔ ∀ p ∈ events.zip events',
      p.1.metadata.isDict = true ∧ p.2.metadata.isDict = true ∨ p.1.metadata = p.2.metadata := by
  obtain ⟨-, hlinked, hintact⟩ := passes_chain h
  obtain ⟨-, hlinked', hintact'⟩ := passes_chain h'
  -- events of one digest have one canonical text
  have hbytes : ∀ e ∈ events, ∀ e' ∈ events', e.eventHash = e'.eventHash → ∃ bytes,
      canonicalJsonBytes e.toAuditFields = some bytes ∧ canonicalJsonBytes e'.toAuditFields = some bytes := by
    intro e he e' he' hsame
    obtain ⟨-, -, hdigest⟩ := hintact e he
    obtain ⟨-, -, hdigest'⟩ := hintact' e' he'
    obtain ⟨bytes, hb, -⟩ := Option.map_eq_some_iff.1 hdigest
    refine ⟨bytes, hb, ?_⟩
    rw [← hinj e he e' he' (by rw [hdigest, hdigest', hsame]), hb]
  have hhashes : List.Forall₂ (fun e e' : AuditEvent => e.eventHash = e'.eventHash) events events' := by
    refine HashChain.commitment hlinked hlinked' (fun e he e' he' hsame => ?_) (fun e he hg => ?_) (fun e he hg => ?_) ?_
    · obtain ⟨bytes, hb, hb'⟩ := hbytes e he e' he' hsame
      exact (canonicalJsonBytes_injective hb hb').1.previousEventHash
    · exact hgenesis e (List.mem_append_left _ he) (hg ▸ (hintact e he).2.2)
    · exact hgenesis e (List.mem_append_right _ he) (hg ▸ (hintact' e he).2.2)
    · rw [HashChain.head, HashChain.head, hhead]
  constructor
  · rintro rfl p hp
    right
    have hself : List.Forall₂ (fun e e' : AuditEvent => e = e') events events := List.forall₂_same.2 fun _ _ => rfl
    rw [(List.forall₂_iff_zip.1 hself).2 hp]
  · intro hmetadata
    have hpairs : List.Forall₂ (fun e e' => e = e') events events' := by
      rw [List.forall₂_iff_zip] at hhashes ⊢
      refine ⟨hhashes.1, fun {e e'} hp => ?_⟩
      obtain ⟨he, he'⟩ := List.of_mem_zip hp
      have hsame := hhashes.2 hp
      obtain ⟨bytes, hb, hb'⟩ := hbytes e he e' he' hsame
      obtain ⟨hagrees, hdicts⟩ := canonicalJsonBytes_injective hb hb'
      have hfields : e.toAuditFields = e'.toAuditFields := by
        rcases hmetadata _ hp with ⟨hd, hd'⟩ | heq
        · exact hagrees.eq (hdicts hd hd')
        · exact hagrees.eq heq
      cases e
      cases e'
      cases hfields
      cases hsame
      rfl
    exact List.forall₂_eq_eq_eq ▸ hpairs

namespace Small

/-- the event of a call that follows the given digest -/
def signed (c : AppendCall) (previousEventHash : String) : AuditEvent :=
  let fields := c.fields previousEventHash
  { fields with eventHash := (digest hmacKey fields).getD "" }

def event : AuditEvent := signed (call 1) genesisPreviousEventHash

/-- the event that follows `event` -/
def second : AuditEvent := signed (call 2) event.eventHash

/-- two linked events -/
def pair : List AuditEvent := [event, second]

/-- the first event, with another outcome -/
def changed : AuditEvent := { event with outcome := "denied" }

theorem signed_intact (c : AppendCall) (previousEventHash : String) : Intact hmacKey (signed c previousEventHash) :=
  intact_of_digest (by decide) rfl

/-- the digests of the first event, of the one that follows it, and of the changed one -/
theorem digests : digest hmacKey event.toAuditFields =
      some "3e14c98556b12a585040adc0c72eecf83f2d2df1bb836b6dc755bf7dbef5cd0d" ∧
    digest hmacKey ((call 2).fields "3e14c98556b12a585040adc0c72eecf83f2d2df1bb836b6dc755bf7dbef5cd0d") =
      some "3a0b4783f60d633c88e115f7a5e26240f02c5b6b16f880810d590618011366d5" ∧
    digest hmacKey changed.toAuditFields =
      some "a489a5741a6b801dec6aaa63398698c1dacffe4b1036fa18ebe9756238b7cc8e" := by
  simp only [digest, Sha.hmacSha256Hex_eq_eval]
  refine ⟨?_, ?_, ?_⟩ <;> decide +kernel

theorem event_hash : event.eventHash = "3e14c98556b12a585040adc0c72eecf83f2d2df1bb836b6dc755bf7dbef5cd0d" :=
  Option.some.inj ((signed_intact _ _).2.2.symm.trans digests.1)

theorem second_digest : digest hmacKey second.toAuditFields =
    some "3a0b4783f60d633c88e115f7a5e26240f02c5b6b16f880810d590618011366d5" := by
  have hfields : second.toAuditFields = (call 2).fields event.eventHash := rfl
  rw [hfields, event_hash, digests.2.1]

/-- the first event, with its metadata replaced by null -/
def edited : AuditEvent := { event with metadata := ⟨.null, trivial, rfl⟩ }

theorem event_before_second : event.sortKey ≤ second.sortKey := calls_ordered.le

theorem pair_sorted : pair.Pairwise fun a b => a.sortKey ≤ b.sortKey := List.pairwise_pair.2 event_before_second

theorem pair_intact : ∀ e ∈ pair, Intact hmacKey e := by
  intro e he
  rcases List.mem_pair.1 he with rfl | rfl
  · exact signed_intact _ _
  · exact signed_intact _ _

theorem pair_linked : Linked genesisPreviousEventHash pair := ⟨rfl, rfl, trivial⟩

theorem pair_passes : Passes hmacKey none pair :=
  (passes_iff (by decide)).2 ⟨pair_sorted, pair_linked, pair_intact⟩

/-- null and the empty dict have one text -/
theorem edited_bytes : canonicalJsonBytes edited.toAuditFields = canonicalJsonBytes event.toAuditFields := rfl

theorem edited_digest : digest hmacKey edited.toAuditFields = digest hmacKey event.toAuditFields :=
  congrArg (Option.map (Sha.hmacSha256Hex hmacKey)) edited_bytes

theorem edited_passes : Passes hmacKey none [edited, second] := by
  refine (passes_iff (by decide)).2 ⟨List.pairwise_pair.2 event_before_second, ⟨rfl, rfl, trivial⟩, ?_⟩
  intro e he
  rcases List.mem_pair.1 he with rfl | rfl
  · exact intact_of_digest (by decide) (edited_digest.trans (signed_intact _ _).2.2)
  · exact signed_intact _ _

theorem digests_apart : digest hmacKey event.toAuditFields ≠ digest hmacKey second.toAuditFields ∧
    digest hmacKey event.toAuditFields ≠ digest hmacKey changed.toAuditFields ∧
    digest hmacKey second.toAuditFields ≠ digest hmacKey changed.toAuditFields := by
  rw [digests.1, second_digest, digests.2.2]
  decide

theorem no_genesis : digest hmacKey event.toAuditFields ≠ some genesisPreviousEventHash ∧
    digest hmacKey second.toAuditFields ≠ some genesisPreviousEventHash ∧
    digest hmacKey changed.toAuditFields ≠ some genesisPreviousEventHash := by
  rw [digests.1, second_digest, digests.2.2]
  decide

/-- the pair and a copy with another first event do not collide, and none of the events has the genesis value -/
theorem pair_apart {first : AuditEvent}
    (hfirst : digest hmacKey event.toAuditFields = digest hmacKey first.toAuditFields →
      canonicalJsonBytes event.toAuditFields = canonicalJsonBytes first.toAuditFields)
    (hsecond : digest hmacKey second.toAuditFields ≠ digest hmacKey first.toAuditFields)
    (hgenesis : digest hmacKey first.toAuditFields ≠ some genesisPreviousEventHash) :
    (∀ e ∈ pair, ∀ e' ∈ [first, second], digest hmacKey e.toAuditFields = digest hmacKey e'.toAuditFields →
      canonicalJsonBytes e.toAuditFields = canonicalJsonBytes e'.toAuditFields) ∧
    ∀ e ∈ pair ++ [first, second], digest hmacKey e.toAuditFields ≠ some genesisPreviousEventHash := by
  constructor
  · intro e he e' he' hsame
    rcases List.mem_pair.1 he with rfl | rfl <;> rcases List.mem_pair.1 he' with rfl | rfl
    · exact hfirst hsame
    · exact absurd hsame digests_apart.1
    · exact absurd hsame hsecond
    · rfl
  · intro e he
    simp only [pair, List.cons_append, List.nil_append, List.mem_cons, List.not_mem_nil, or_false] at he
    rcases he with rfl | rfl | rfl | rfl
    · exact no_genesis.1
    · exact no_genesis.2.1
    · exact hgenesis
    · exact no_genesis.2.1

theorem edited_apart :
    (∀ e ∈ pair, ∀ e' ∈ [edited, second], digest hmacKey e.toAuditFields = digest hmacKey e'.toAuditFields →
      canonicalJsonBytes e.toAuditFields = canonicalJsonBytes e'.toAuditFields) ∧
    ∀ e ∈ pair ++ [edited, second], digest hmacKey e.toAuditFields ≠ some genesisPreviousEventHash :=
  pair_apart (fun _ => edited_bytes.symm) (fun h => digests_apart.1 (h.trans edited_digest).symm)
    (fun h => no_genesis.1 (edited_digest.symm.trans h))

theorem changed_apart :
    (∀ e ∈ pair, ∀ e' ∈ [changed, second], digest hmacKey e.toAuditFields = digest hmacKey e'.toAuditFields →
      canonicalJsonBytes e.toAuditFields = canonicalJsonBytes e'.toAuditFields) ∧
    ∀ e ∈ pair ++ [changed, second], digest hmacKey e.toAuditFields ≠ some genesisPreviousEventHash :=
  pair_apart (fun h => absurd h digests_apart.2.1) digests_apart.2.2 no_genesis.2.2

end Small

open AtoService.Audit.Small in
/-- a copy of the chain with another outcome does not verify, and one with edited metadata verifies and is another chain -/
theorem tamper_evident_pair :
    Passes hmacKey none pair ∧ ¬Passes hmacKey none [changed, second] ∧ Passes hmacKey none [edited, second] ∧
      pair ≠ [edited, second] := by
  refine ⟨pair_passes, fun hchanged => ?_, edited_passes, fun heq => ?_⟩
  · have hsame := (tamper_evident_iff hmacKey pair_passes hchanged changed_apart.1 changed_apart.2 rfl).2 fun p hp => by
      simp only [pair, List.zip_cons_cons, List.zip_nil_left, List.mem_cons, List.not_mem_nil, or_false] at hp
      rcases hp with rfl | rfl <;> exact Or.inl ⟨rfl, rfl⟩
    have houtcome : event.outcome = changed.outcome := congrArg AuditFields.outcome
      (congrArg AuditEvent.toAuditFields (List.cons.inj hsame).1)
    exact absurd houtcome (by decide)
  · have hmetadata := (tamper_evident_iff hmacKey pair_passes edited_passes edited_apart.1 edited_apart.2 rfl).1 heq
      (event, edited) (by simp [pair])
    rcases hmetadata with ⟨-, hdict⟩ | hsame
    · exact absurd hdict (by decide)
    · exact Json.noConfusion (congrArg Metadata.value hsame)

open AtoService.Audit.Small in
/-- **Edited metadata verifies.** The metadata of the first event was replaced by null, and everything else is as it was. -/
theorem edited_metadata_verifies :
    Passes hmacKey none pair ∧ Passes hmacKey none [edited, second] ∧
      (∀ e ∈ pair, ∀ e' ∈ [edited, second], digest hmacKey e.toAuditFields = digest hmacKey e'.toAuditFields →
        canonicalJsonBytes e.toAuditFields = canonicalJsonBytes e'.toAuditFields) ∧
      (∀ e ∈ pair ++ [edited, second], digest hmacKey e.toAuditFields ≠ some genesisPreviousEventHash) ∧
      pair.getLast?.map AuditEvent.eventHash = [edited, second].getLast?.map AuditEvent.eventHash ∧
      pair ≠ [edited, second] := by
  refine ⟨pair_passes, edited_passes, edited_apart.1, edited_apart.2, rfl, fun heq => ?_⟩
  have hmetadata := congrArg (fun e : AuditEvent => e.metadata.value) (List.cons.inj heq).1
  exact Json.noConfusion hmetadata

end AtoService.Audit
