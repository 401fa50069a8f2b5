/-
The history of a chat, a page at a time, and the retention of completed turns.

`loadChatHistory` shows the newest completed turns before a sequence, oldest first, and gives out the sequence before
which the next page ends. `purge` is the operator's batch that deletes expired turns with their messages, and
conversations without turns. `serviceStep` lets a purge come between any two transactions of the chat.

- `wf_purge`, `serviceInv_run`: purges keep the invariant of the tables.
- `pages_transcript`: the pages, put together from the last one, are the messages of the conversation in order.
- `transcript_turns`: these are the messages of the unexpired completed turns, each turn once.
- `reserveTurn_sequence`: the sequence that a history shows is not refused as stale.
- `history_exact`: the three together, in every state of every run.
-/
import AtoService.Chat.Protocol
import AtoService.Lib.KeysetPages
import AtoService.Lib.PyText

namespace AtoService.Chat

open AtoService.Results

/-! ## Retention -/

/-- seven calendar years earlier; February 29 becomes February 28 in a year that has none -/
def retentionCutoff (now : Instant) : Instant :=
  let (year, month, day) := civilFromDays (date now)
  let year := year - chatRetentionYears
  let day := if month = 2 ∧ day = 29 ∧ isLeapYear year = false then 28 else day
  daysFromCivil year month day * microsecondsPerDay + now % microsecondsPerDay

/-- one batch: when it runs, how many rows it takes, and the rows that other transactions have locked -/
structure PurgeRequest where
  now : Instant
  batchSize : Nat
  lockedTurns : List Uuid
  lockedConversations : List Uuid
deriving DecidableEq, Repr

/-- a completed turn that has expired with all of its messages -/
def Turn.purgeable (db : Db) (now : Instant) (t : Turn) : Bool :=
  t.status = .completed && t.completedAt.isSome && t.leaseExpiresAt.isNone && (t.expiresAt.any fun e => e ≤ now) &&
    !db.messages.any fun m => m.turnId = t.turnId && now < m.expiresAt

def purgedTurns (db : Db) (r : PurgeRequest) : List Uuid :=
  (((db.turns.filter fun t => t.purgeable db r.now && t.turnId ∉ r.lockedTurns).insertionSort fun a b =>
    toLex (a.expiresAt.getD 0, a.turnId) ≤ toLex (b.expiresAt.getD 0, b.turnId)).take r.batchSize).map Turn.turnId

def purgedConversations (db : Db) (r : PurgeRequest) : List Uuid :=
  (((db.conversations.filter fun c => (!db.turns.any fun t => t.conversationId = c.conversationId) &&
      c.updatedAt ≤ retentionCutoff r.now && c.conversationId ∉ r.lockedConversations).insertionSort fun a b =>
    toLex (a.updatedAt, a.conversationId) ≤ toLex (b.updatedAt, b.conversationId)).take r.batchSize).map
      Conversation.conversationId

def purgeTurns (db : Db) (r : PurgeRequest) : Db :=
  { db with
    turns := db.turns.filter fun t => t.turnId ∉ purgedTurns db r
    messages := db.messages.filter fun m => ¬(m.turnId ∈ purgedTurns db r ∧ m.expiresAt ≤ r.now) }

def purge (db : Db) (r : PurgeRequest) : Db :=
  let db := purgeTurns db r
  { db with conversations := db.conversations.filter fun c => c.conversationId ∉ purgedConversations db r }

theorem of_mem_purgedTurns {db : Db} {r : PurgeRequest} {id : Uuid} (h : id ∈ purgedTurns db r) :
    ∃ t ∈ db.turns, t.turnId = id ∧ t.purgeable db r.now = true := by
  obtain ⟨t, ht, rfl⟩ := List.mem_map.1 h
  have ht := (List.mem_insertionSort _).1 (List.mem_of_mem_take ht)
  obtain ⟨hmem, hpurgeable⟩ := List.mem_filter.1 ht
  rw [Bool.and_eq_true] at hpurgeable
  exact ⟨t, hmem, rfl, hpurgeable.1⟩

theorem of_mem_purgedConversations {db : Db} {r : PurgeRequest} {id : Uuid} (h : id ∈ purgedConversations db r) :
    ∀ t ∈ db.turns, t.conversationId ≠ id := by
  obtain ⟨c, hc, rfl⟩ := List.mem_map.1 h
  have hc := (List.mem_insertionSort _).1 (List.mem_of_mem_take hc)
  have horphan := (List.mem_filter.1 hc).2
  simp only [Bool.and_eq_true, Bool.not_eq_true', List.any_eq_false, decide_eq_true_eq] at horphan
  intro t ht heq
  exact horphan.1.1 t ht heq

theorem mem_purgeTurns {db : Db} {r : PurgeRequest} {t : Turn} :
    t ∈ (purgeTurns db r).turns ↔ t ∈ db.turns ∧ t.turnId ∉ purgedTurns db r := by
  simp [purgeTurns]

/-- a message outlives the purge exactly when its turn does -/
theorem mem_purgeTurns_messages {db : Db} {r : PurgeRequest} {m : Message} :
    m ∈ (purgeTurns db r).messages ↔ m ∈ db.messages ∧ m.turnId ∉ purgedTurns db r := by
  rw [purgeTurns, List.mem_filter, decide_eq_true_eq]
  refine and_congr_right fun hm => ?_
  constructor
  · intro hkept hpurged
    obtain ⟨t, -, hid, hpurgeable⟩ := of_mem_purgedTurns hpurged
    simp only [Turn.purgeable, Bool.and_eq_true, Bool.not_eq_true', List.any_eq_false, decide_eq_true_eq] at hpurgeable
    have hexpired := hpurgeable.2 m hm
    exact hkept ⟨hpurged, not_lt.1 fun hlive => hexpired ⟨hid.symm, hlive⟩⟩
  · intro hother hpurged
    exact hother hpurged.1

theorem wf_purgeTurns {db : Db} (h : Wf db) (r : PurgeRequest) : Wf (purgeTurns db r) where
  conversationIds := h.conversationIds
  turnIds := h.turnIds.sublist (List.filter_sublist.map _)
  owned t ht := h.owned t (mem_purgeTurns.1 ht).1
  sequences t₁ h₁ t₂ h₂ := h.sequences t₁ (mem_purgeTurns.1 h₁).1 t₂ (mem_purgeTurns.1 h₂).1
  requests t₁ h₁ t₂ h₂ := h.requests t₁ (mem_purgeTurns.1 h₁).1 t₂ (mem_purgeTurns.1 h₂).1
  tail t ht := h.tail t (mem_purgeTurns.1 ht).1
  leased t ht := h.leased t (mem_purgeTurns.1 ht).1
  answered t ht hcompleted role := by
    obtain ⟨ht, hkept⟩ := mem_purgeTurns.1 ht
    rw [← h.answered t ht hcompleted role, messageCount, messageCount, purgeTurns, List.countP_filter]
    refine List.countP_congr fun m hm => ?_
    simp only [Bool.and_eq_true, decide_eq_true_eq, and_iff_left_iff_imp]
    rintro ⟨hid, -⟩ ⟨hpurged, -⟩
    exact hkept (hid ▸ hpurged)
  messages m hm := by
    obtain ⟨hm, hkept⟩ := mem_purgeTurns_messages.1 hm
    obtain ⟨t, ht, hid, hcompleted⟩ := h.messages m hm
    exact ⟨t, mem_purgeTurns.2 ⟨ht, hid ▸ hkept⟩, hid, hcompleted⟩

/-- **A purge** keeps the invariant: a conversation that it deletes has no turns. -/
theorem wf_purge {db : Db} (h : Wf db) (r : PurgeRequest) : Wf (purge db r) := by
  have hturns := wf_purgeTurns h r
  refine ⟨hturns.conversationIds.sublist (List.filter_sublist.map _), hturns.turnIds, fun t ht => ?_, hturns.sequences,
    hturns.requests, fun t ht hp c hc heq => ?_, hturns.leased, hturns.answered, hturns.messages⟩
  · obtain ⟨c, hc, hid, hpos, hle⟩ := hturns.owned t ht
    refine ⟨c, List.mem_filter.2 ⟨hc, ?_⟩, hid, hpos, hle⟩
    rw [decide_eq_true_eq]
    intro hpurged
    exact of_mem_purgedConversations hpurged t ht hid.symm
  · exact hturns.tail t ht hp c (List.mem_filter.1 hc).1 heq

/-! ## Runs with purges -/

inductive ServiceAction where
  | chat (a : Action)
  | purge (r : PurgeRequest)
deriving DecidableEq, Repr

/-- a purge also drops the record of the turns that it deletes -/
def serviceStep (limits : Limits) (s : System) : ServiceAction → System
  | .chat a => step limits s a
  | .purge r => { s with
      db := purge s.db r
      completions := s.completions.filter fun c => c.turn.turnId ∉ purgedTurns s.db r }

/-- every message has the sequence, the conversation and the expiry of its completed turn -/
def Aligned (db : Db) : Prop :=
  ∀ m ∈ db.messages, ∃ t ∈ db.turns, t.turnId = m.turnId ∧ t.status = .completed ∧
    t.conversationId = m.conversationId ∧ t.sequence = m.sequence ∧ t.expiresAt = some m.expiresAt

/-- messages stay aligned while they and the completed turns stay -/
theorem Aligned.mono {db db' : Db} (h : Aligned db) (hmessages : db'.messages = db.messages)
    (hkept : ∀ t ∈ db.turns, t.status = .completed → t ∈ db'.turns) : Aligned db' := by
  intro m hm
  rw [hmessages] at hm
  obtain ⟨t, ht, hid, hcompleted, hrest⟩ := h m hm
  exact ⟨t, hkept t ht hcompleted, hid, hcompleted, hrest⟩

theorem aligned_complete {db db' : Db} (hwf : Wf db) (h : Aligned db) {r : CompleteRequest}
    (hok : completeTurn db r = .ok db') : Aligned db' := by
  obtain ⟨t, hc⟩ := completeTurn_completes hwf hok
  have hmem {t' : Turn} : t' ∈ db'.turns ↔ t' = completed t r.completedAt ∨ t' ∈ db.turns ∧ t'.turnId ≠ t.turnId := by
    rw [hc.turns]
    exact mem_putTurn hwf hc.mem (u := completed t r.completedAt) rfl
  obtain ⟨sources, hmessages⟩ : ∃ sources, db'.messages = db.messages ++ [userMessage t r, assistantMessage t r sources] := by
    simp only [completeTurn, bind_eq_ok, require_eq_ok, pure_eq_ok] at hok
    obtain ⟨c, -, t', ht', _, -, _, -, _, -, _, -, sources, -, rfl⟩ := hok
    rw [hc.found] at ht'
    obtain rfl := Except.ok.inj ht'
    exact ⟨sources, rfl⟩
  intro m hm
  rw [hmessages] at hm
  rcases List.mem_append.1 hm with hm | hm
  · obtain ⟨t', ht', hid, hcompleted, hrest⟩ := h m hm
    refine ⟨t', hmem.2 (Or.inr ⟨ht', fun heq => ?_⟩), hid, hcompleted, hrest⟩
    rw [hwf.turn_eq ht' hc.mem heq, hc.pending] at hcompleted
    cases hcompleted
  · refine ⟨completed t r.completedAt, hmem.2 (Or.inl rfl), ?_⟩
    rcases List.mem_cons.1 hm with rfl | hm
    · exact ⟨rfl, rfl, rfl, rfl, rfl⟩
    · rw [List.mem_singleton.1 hm]
      exact ⟨rfl, rfl, rfl, rfl, rfl⟩

theorem aligned_purge {db : Db} (h : Aligned db) (r : PurgeRequest) : Aligned (purge db r) := by
  intro m hm
  obtain ⟨hm, hkept⟩ := mem_purgeTurns_messages.1 hm
  obtain ⟨t, ht, hid, hrest⟩ := h m hm
  exact ⟨t, mem_purgeTurns.2 ⟨ht, hid ▸ hkept⟩, hid, hrest⟩

section

variable {limits : Limits} {s : System}

theorem aligned_step (h : Inv s) (haligned : Aligned s.db) (a : Action) : Aligned (step limits s a).db := by
  cases a with
  | reserve r =>
    cases hok : reserveTurn limits s.db (draw s.nextId r) with
    | error e =>
      rw [step_reserve_error hok]
      exact haligned
    | ok p =>
      rw [step_reserve_ok hok]
      have hr := reserveTurn_reserves h.wf hok
      exact haligned.mono hr.messages hr.kept
  | complete r commits =>
    rcases step_complete limits s r commits with heq | ⟨db, t, hok, -, heq⟩
    · rw [heq]
      exact haligned
    · rw [heq]
      exact aligned_complete h.wf haligned hok
  | release held reservation =>
    unfold step
    dsimp only
    split_ifs with hissued
    · rcases releaseReservation_eq held (h.issued reservation hissued) with heq | ⟨t, ht, hp, heq⟩
      · rw [heq]
        exact haligned
      · rw [heq]
        refine haligned.mono rfl fun t' ht' hcompleted => mem_removeTail.2 ⟨ht', fun hid => ?_⟩
        rw [h.wf.turn_eq ht' ht hid, hp] at hcompleted
        cases hcompleted
    · exact haligned
  | crash => exact haligned

theorem inv_purge (h : Inv s) (r : PurgeRequest) : Inv (serviceStep limits s (.purge r)) where
  wf := wf_purge h.wf r
  fresh t ht := h.fresh t (mem_purgeTurns.1 ht).1
  freshIssued := h.freshIssued
  issued r' hr' t ht := h.issued r' hr' t (mem_purgeTurns.1 ht).1
  lasting c hc := by
    obtain ⟨hc, hkept⟩ := List.mem_filter.1 hc
    rw [decide_eq_true_eq] at hkept
    obtain ⟨t, ht, hcompleted, hid, hrest⟩ := h.lasting c hc
    exact ⟨t, mem_purgeTurns.2 ⟨ht, hid ▸ hkept⟩, hcompleted, hid, hrest⟩
  once := h.once.sublist (List.filter_sublist.map _)
  recorded t ht hcompleted := by
    obtain ⟨ht, hkept⟩ := mem_purgeTurns.1 ht
    obtain ⟨c, hc, hid⟩ := h.recorded t ht hcompleted
    refine ⟨c, List.mem_filter.2 ⟨hc, ?_⟩, hid⟩
    rw [decide_eq_true_eq, hid]
    exact hkept
  honest c hc := h.honest c (List.mem_filter.1 hc).1

theorem serviceInv_step (h : Inv s ∧ Aligned s.db) (a : ServiceAction) :
    Inv (serviceStep limits s a) ∧ Aligned (serviceStep limits s a).db := by
  cases a with
  | chat a => exact ⟨inv_step h.1 a, aligned_step h.1 h.2 a⟩
  | purge r => exact ⟨inv_purge h.1 r, aligned_purge h.2 r⟩

end

/-- **The tables after any run** of chat transactions and purges. -/
theorem serviceInv_run (limits : Limits) (as : List ServiceAction) :
    Inv (Runs.run (serviceStep limits) System.init as) ∧ Aligned (Runs.run (serviceStep limits) System.init as).db := by
  have hinit : Aligned System.init.db := fun m hm => absurd hm List.not_mem_nil
  exact Runs.run_inv (P := fun s => Inv s ∧ Aligned s.db) (fun _ a h => serviceInv_step h a) ⟨inv_init, hinit⟩ as

/-! ## The history -/

inductive HistoryError where
  -- chat_actor_invalid
  | actorInvalid
  -- chat_pagination_invalid
  | paginationInvalid (message : String)
deriving DecidableEq, Repr

structure ChatMessage where
  role : Role
  content : String
  sequence : Nat
  createdAt : Instant
  expiresAt : Instant
  sources : List Source
  contextFingerprint : String
  stale : Bool
deriving DecidableEq, Repr

structure ChatHistory where
  workspaceId : Uuid
  sequence : Nat
  messages : List ChatMessage
  hasMore : Bool
  nextBeforeSequence : Option Int
deriving DecidableEq, Repr

/-- a stored message beside the fingerprint of the current context -/
def shown (fingerprint : String) (m : Message) : ChatMessage :=
  ⟨m.role, m.content, m.sequence, m.createdAt, m.expiresAt, m.sources, m.contextFingerprint,
    m.contextFingerprint ≠ fingerprint⟩

/-- `not actor_id or len(actor_id) > 255 or not actor_id.strip()` does not hold -/
def validActor (actorId : String) : Bool :=
  actorId ≠ "" && (Py.chars actorId).length ≤ 255 && Py.strip actorId ≠ ""

def Db.conversationOf? (db : Db) (workspaceId : Uuid) (actorId : String) : Option Conversation :=
  db.conversations.find? fun c => c.workspaceId = workspaceId && c.actorId = actorId

def Turn.unexpired (t : Turn) (now : Instant) : Bool := t.expiresAt.any fun e => now < e

/-- the unexpired messages of completed and unexpired turns -/
def visibleMessages (db : Db) (conversationId : Uuid) (now : Instant) : List Message :=
  db.messages.filter fun m => m.conversationId = conversationId && now < m.expiresAt &&
    db.turns.any fun t => t.turnId = m.turnId && t.status = .completed && t.unexpired now

/-- their sequences, grouped -/
def visibleSequences (db : Db) (conversationId : Uuid) (now : Instant) : List Nat :=
  ((visibleMessages db conversationId now).map Message.sequence).dedup

/-- `sequence.desc()` -/
def newestFirst (sequence : Nat) : OrderDual Int := OrderDual.toDual (sequence : Int)

/-- `sequence.asc(), case((role == "user", 0), else_=1)` -/
def messageKey (m : Message) : Nat ×ₗ Nat := toLex (m.sequence, if m.role = .user then 0 else 1)

/-- the last sequence without the pending turns at the end, the last of which comes first -/
def hidePending (last : Nat) : List Nat → Nat
  | [] => last
  | sequence :: rest => if sequence ≠ last then last else hidePending (last - 1) rest

def latestSequence (db : Db) (c : Conversation) : Nat :=
  hidePending c.lastSequence <|
    ((db.turns.filter fun t => t.conversationId = c.conversationId && t.status = .pending).map
      Turn.sequence).insertionSort (· ≥ ·)

def loadChatHistory (db : Db) (workspaceId : Uuid) (actorId : String) (fingerprint : String) (now : Instant) (limit : Int)
    (beforeSequence : Option Int) : Except HistoryError ChatHistory := do
  ensure (validActor actorId) .actorInvalid
  ensure (beforeSequence.all (1 ≤ ·)) (.paginationInvalid "before_sequence must be positive")
  ensure (1 ≤ limit ∧ limit ≤ 100) (.paginationInvalid "chat history limit is out of range")
  match db.conversationOf? workspaceId actorId with
  | none => return ⟨workspaceId, 0, [], false, none⟩
  | some c =>
    let pageTurnLimit := (max 1 (limit / 2)).toNat
    let sequences := Keyset.page newestFirst (pageTurnLimit + 1) (beforeSequence.map OrderDual.toDual)
      (visibleSequences db c.conversationId now)
    let hasMore := pageTurnLimit < sequences.length
    let pageSequences := (sequences.take pageTurnLimit).insertionSort (· ≤ ·)
    if pageSequences = [] then return ⟨workspaceId, latestSequence db c, [], false, none⟩
    else
      let messages := (visibleMessages db c.conversationId now).filter fun m => m.sequence ∈ pageSequences
      return ⟨workspaceId, latestSequence db c, (Keyset.ordered messageKey messages).map (shown fingerprint), hasMore,
        if hasMore then pageSequences.head?.map Int.ofNat else none⟩

/-! ## Following the pages -/

/-- a client starts before a sequence, follows `next_before_sequence` and gets these pages, the newest first -/
inductive Pages (history : Option Int → Except HistoryError ChatHistory) :
    Option Int → List (List ChatMessage) → Prop where
  | last {before : Option Int} {h : ChatHistory} (hok : history before = .ok h) (hnext : h.nextBeforeSequence = none) :
      Pages history before [h.messages]
  | next {before : Option Int} {h : ChatHistory} {sequence : Int} {pages : List (List ChatMessage)}
      (hok : history before = .ok h) (hnext : h.nextBeforeSequence = some sequence)
      (hrest : Pages history (some sequence) pages) : Pages history before (h.messages :: pages)

/-- what a page shows, of the sequences that are left -/
theorem loadChatHistory_eq {db : Db} {workspaceId : Uuid} {actorId : String} (hactor : validActor actorId = true)
    {before : Option Int} (hbefore : before.all (1 ≤ ·) = true) {limit : Int} (hlimit : 1 ≤ limit ∧ limit ≤ 100)
    {c : Conversation} (hc : db.conversationOf? workspaceId actorId = some c) {now : Instant} (fingerprint : String)
    {left : List Nat} (hleft : Keyset.after newestFirst (before.map OrderDual.toDual)
      (Keyset.ordered newestFirst (visibleSequences db c.conversationId now)) = left)
    (hdistinct : ((visibleSequences db c.conversationId now).map newestFirst).Nodup)
    (hdesc : left.Pairwise (· > ·)) :
    loadChatHistory db workspaceId actorId fingerprint now limit before = .ok
      ⟨workspaceId, latestSequence db c,
        (Keyset.ordered messageKey ((visibleMessages db c.conversationId now).filter fun m =>
          m.sequence ∈ left.take (max 1 (limit / 2)).toNat)).map (shown fingerprint),
        (max 1 (limit / 2)).toNat < left.length,
        if (max 1 (limit / 2)).toNat < left.length then
          (left.take (max 1 (limit / 2)).toNat).getLast?.map Int.ofNat
        else none⟩ := by
  have hpos : 0 < (max 1 (limit / 2)).toNat := by omega
  rw [loadChatHistory, ensure, if_pos hactor, ensure, if_pos hbefore, ensure, if_pos hlimit, hc]
  dsimp only
  rw [Keyset.page_eq hdistinct, hleft]
  generalize (max 1 (limit / 2)).toNat = pageTurnLimit at hpos ⊢
  have htake : (left.take (pageTurnLimit + 1)).take pageTurnLimit = left.take pageTurnLimit := by
    rw [List.take_take, Nat.min_eq_left (Nat.le_succ pageTurnLimit)]
  have hmore : pageTurnLimit < (left.take (pageTurnLimit + 1)).length ↔ pageTurnLimit < left.length := by
    rw [List.length_take]
    omega
  have hsorted : (left.take pageTurnLimit).insertionSort (· ≤ ·) = (left.take pageTurnLimit).reverse := by
    have hperm : ((left.take pageTurnLimit).insertionSort (· ≤ ·)).Perm (left.take pageTurnLimit).reverse :=
      (List.perm_insertionSort _ _).trans (List.reverse_perm _).symm
    refine hperm.eq_of_pairwise (fun a b _ _ hab hba => le_antisymm hab hba) (List.pairwise_insertionSort _ _) ?_
    rw [List.pairwise_reverse]
    exact (hdesc.sublist (List.take_sublist _ _)).imp le_of_lt
  rw [htake, hsorted]
  simp only [hmore, List.head?_reverse, List.mem_reverse, List.reverse_eq_nil_iff]
  by_cases hnil : left.take pageTurnLimit = []
  · have hempty : left = [] := by
      rcases List.take_eq_nil_iff.1 hnil with hzero | hempty
      · omega
      · exact hempty
    subst hempty
    simp [Keyset.ordered]
    rfl
  · rw [if_neg hnil]
    rfl

section

variable {db : Db} {id : Uuid} {now : Instant}

/-- a completed turn of a conversation that has not expired -/
structure Live (db : Db) (id : Uuid) (now : Instant) (t : Turn) : Prop where
  mem : t ∈ db.turns
  conversation : t.conversationId = id
  completed : t.status = .completed
  unexpired : t.unexpired now = true

theorem mem_visibleMessages (hwf : Wf db) (h : Aligned db) {m : Message} :
    m ∈ visibleMessages db id now ↔
      m ∈ db.messages ∧ ∃ t, Live db id now t ∧ t.turnId = m.turnId ∧ t.sequence = m.sequence := by
  rw [visibleMessages, List.mem_filter]
  refine and_congr_right fun hm => ?_
  obtain ⟨t, ht, hid, hcompleted, hconv, hseq, hexpires⟩ := h m hm
  simp only [Bool.and_eq_true, decide_eq_true_eq, List.any_eq_true]
  constructor
  · rintro ⟨⟨hthis, hlive⟩, -⟩
    refine ⟨t, ⟨ht, hconv.trans hthis, hcompleted, ?_⟩, hid, hseq⟩
    rw [Turn.unexpired, hexpires]
    exact decide_eq_true hlive
  · rintro ⟨t', ⟨ht', hconv', hcompleted', hlive⟩, hid', -⟩
    obtain rfl : t = t' := hwf.turn_eq ht ht' (hid.trans hid'.symm)
    refine ⟨⟨hconv.symm.trans hconv', ?_⟩, t, ht, ⟨hid, hcompleted⟩, hlive⟩
    rw [Turn.unexpired, hexpires] at hlive
    exact of_decide_eq_true hlive

theorem mem_visibleSequences (hwf : Wf db) (h : Aligned db) {sequence : Nat} :
    sequence ∈ visibleSequences db id now ↔ ∃ t, Live db id now t ∧ t.sequence = sequence := by
  rw [visibleSequences, List.mem_dedup, List.mem_map]
  constructor
  · rintro ⟨m, hm, rfl⟩
    obtain ⟨-, t, hlive, -, hseq⟩ := (mem_visibleMessages hwf h).1 hm
    exact ⟨t, hlive, hseq⟩
  · rintro ⟨t, hlive, rfl⟩
    have hone := hwf.answered t hlive.mem hlive.completed .user
    obtain ⟨m, hm, hkey⟩ := List.countP_pos_iff.1 (by rw [← messageCount, hone]; exact Nat.one_pos :
      0 < db.messages.countP fun m => m.turnId = t.turnId && m.role = .user)
    simp only [Bool.and_eq_true, decide_eq_true_eq] at hkey
    obtain ⟨t', ht', hid', -, -, hseq', -⟩ := h m hm
    obtain rfl : t' = t := hwf.turn_eq ht' hlive.mem (hid'.trans hkey.1)
    exact ⟨m, (mem_visibleMessages hwf h).2 ⟨hm, t', hlive, hid', hseq'⟩, hseq'.symm⟩

theorem visibleSequences_distinct (db : Db) (id : Uuid) (now : Instant) :
    ((visibleSequences db id now).map newestFirst).Nodup := by
  refine List.Nodup.map (fun a b hab => ?_) (List.nodup_dedup _)
  exact Int.ofNat.inj (OrderDual.toDual.injective hab)

theorem messageKey_eq_iff {m m' : Message} : messageKey m = messageKey m' ↔ m.sequence = m'.sequence ∧ m.role = m'.role := by
  rw [messageKey, messageKey, EmbeddingLike.apply_eq_iff_eq, Prod.mk.injEq]
  refine and_congr_right fun _ => ?_
  cases m.role <;> cases m'.role <;> decide

/-- a turn shows at most one message of each role -/
theorem messageKey_distinct (hwf : Wf db) (h : Aligned db) : ((visibleMessages db id now).map messageKey).Nodup := by
  rw [List.nodup_iff_count_le_one]
  intro key
  by_contra hmany
  have hcount : 1 < (visibleMessages db id now).countP fun m => messageKey m == key := by
    rw [List.count, List.countP_map] at hmany
    exact not_le.1 hmany
  obtain ⟨m, hm, hkey⟩ := List.countP_pos_iff.1 (Nat.lt_of_lt_of_le Nat.one_pos hcount.le)
  obtain ⟨-, t, hlive, hid, hseq⟩ := (mem_visibleMessages hwf h).1 hm
  have hone := hwf.answered t hlive.mem hlive.completed m.role
  refine absurd hcount (not_lt.2 ?_)
  rw [← hone, messageCount, visibleMessages, List.countP_filter]
  refine List.countP_mono_left fun m' hm' hcounted => ?_
  rw [Bool.and_eq_true] at hcounted
  obtain ⟨-, t', hlive', hid', hseq'⟩ := (mem_visibleMessages hwf h).1 (List.mem_filter.2 ⟨hm', hcounted.2⟩)
  obtain ⟨hsequence, hrole⟩ := messageKey_eq_iff.1 ((eq_of_beq hcounted.1).trans (eq_of_beq hkey).symm)
  have hturn : t' = t := by
    refine hwf.sequences t' hlive'.mem t hlive.mem (hlive'.conversation.trans hlive.conversation.symm) ?_
    rw [hseq', hsequence, hseq]
  simp [← hid', hturn, hrole]

/-- the messages that the pages show, oldest first -/
def transcript (db : Db) (id : Uuid) (now : Instant) : List Message := Keyset.ordered messageKey (visibleMessages db id now)

/-- the messages of older sequences come before those of newer ones -/
theorem ordered_left (hwf : Wf db) (h : Aligned db) {left : List Nat} (hdesc : left.Pairwise (· > ·)) (k : Nat) :
    Keyset.ordered messageKey ((visibleMessages db id now).filter fun m => m.sequence ∈ left) =
      Keyset.ordered messageKey ((visibleMessages db id now).filter fun m => m.sequence ∈ left.drop k) ++
        Keyset.ordered messageKey ((visibleMessages db id now).filter fun m => m.sequence ∈ left.take k) := by
  have hdistinct : (((visibleMessages db id now).filter fun m => m.sequence ∈ left).map messageKey).Nodup :=
    (messageKey_distinct hwf h).sublist (List.filter_sublist.map _)
  have hparts := hdesc
  rw [← List.take_append_drop k left, List.pairwise_append] at hparts
  have hmem : ∀ sequence, sequence ∈ left ↔ sequence ∈ left.take k ∨ sequence ∈ left.drop k := by
    intro sequence
    rw [← List.mem_append, List.take_append_drop]
  rw [Keyset.ordered_split hdistinct fun m => m.sequence ∈ left.drop k]
  · rw [List.filter_filter, List.filter_filter]
    congr 2
    · refine List.filter_congr fun m _ => ?_
      simp only [Bool.and_eq_decide, decide_eq_true_eq, decide_eq_decide, hmem]
      tauto
    · refine List.filter_congr fun m _ => ?_
      have hapart : m.sequence ∈ left.take k → m.sequence ∉ left.drop k := fun hfirst hrest =>
        absurd (hparts.2.2 _ hfirst _ hrest) (lt_irrefl _)
      simp only [Bool.and_eq_decide, Bool.not_eq_eq_eq_not, Bool.not_true, decide_eq_true_eq, decide_eq_false_iff_not,
        decide_eq_decide, hmem]
      tauto
  · intro m hm hold m' hm' hnew
    simp only [List.mem_filter, decide_eq_true_eq, decide_eq_false_iff_not] at hm hold hm' hnew
    have hfirst := ((hmem _).1 hm'.2).resolve_right hnew
    rw [messageKey, messageKey, Prod.Lex.toLex_lt_toLex]
    exact Or.inl (hparts.2.2 _ hfirst _ hold)

/-- **The pages, from the last to the first, are the transcript.** The induction is on what is left of the sequences. -/
theorem pages_left (hwf : Wf db) (h : Aligned db) {workspaceId : Uuid} {actorId : String}
    (hactor : validActor actorId = true) {limit : Int} (hlimit : 1 ≤ limit ∧ limit ≤ 100) {c : Conversation}
    (hc : db.conversationOf? workspaceId actorId = some c) (fingerprint : String) (n : Nat) (before : Option Int)
    (hbefore : before.all (1 ≤ ·) = true) (read : List Nat) {left : List Nat}
    (hsplit : Keyset.ordered newestFirst (visibleSequences db c.conversationId now) = read ++ left)
    (hleft : Keyset.after newestFirst (before.map OrderDual.toDual)
      (Keyset.ordered newestFirst (visibleSequences db c.conversationId now)) = left) (hn : left.length ≤ n) :
    ∃ pages, Pages (loadChatHistory db workspaceId actorId fingerprint now limit) before pages ∧
      pages.reverse.flatten = (Keyset.ordered messageKey
        ((visibleMessages db c.conversationId now).filter fun m => m.sequence ∈ left)).map (shown fingerprint) := by
  have hstrict := Keyset.ordered_strict (visibleSequences_distinct db c.conversationId now)
  obtain ⟨pageTurnLimit, hpage⟩ : ∃ k, (max 1 (limit / 2)).toNat = k := ⟨_, rfl⟩
  have hpos : 0 < pageTurnLimit := by omega
  induction n generalizing before read left with
  | zero =>
    have hnil : left = [] := List.length_eq_zero_iff.1 (Nat.le_zero.1 hn)
    subst hnil
    have hanswer := loadChatHistory_eq hactor hbefore hlimit hc fingerprint hleft (visibleSequences_distinct _ _ _)
      List.Pairwise.nil
    refine ⟨_, .last hanswer rfl, ?_⟩
    simp
  | succ n ih =>
    have hdesc : left.Pairwise (· > ·) := by
      rw [hsplit] at hstrict
      exact (List.pairwise_append.1 hstrict).2.1.imp fun hlt => Int.ofNat_lt.1 hlt
    have hanswer := loadChatHistory_eq hactor hbefore hlimit hc fingerprint hleft (visibleSequences_distinct _ _ _) hdesc
    rw [hpage] at hanswer
    by_cases hlong : pageTurnLimit < left.length
    swap
    · -- the last page
      rw [if_neg hlong, List.take_of_length_le (not_lt.1 hlong)] at hanswer
      refine ⟨_, .last hanswer rfl, ?_⟩
      simp
    rw [if_pos hlong] at hanswer
    obtain ⟨last, hlast⟩ : ∃ last, (left.take pageTurnLimit).getLast? = some last := by
      refine Option.ne_none_iff_exists'.1 fun hnone => ?_
      rw [List.getLast?_eq_none_iff, ← List.length_eq_zero_iff, List.length_take] at hnone
      omega
    rw [hlast] at hanswer
    have hsplit' : Keyset.ordered newestFirst (visibleSequences db c.conversationId now) =
        (read ++ left.take pageTurnLimit) ++ left.drop pageTurnLimit := by
      rw [List.append_assoc, List.take_append_drop]
      exact hsplit
    have hnext : Keyset.after newestFirst ((some (last : Int)).map OrderDual.toDual)
        (Keyset.ordered newestFirst (visibleSequences db c.conversationId now)) = left.drop pageTurnLimit := by
      rw [hsplit'] at hstrict ⊢
      exact Keyset.after_append hstrict (by rw [List.getLast?_append, hlast]; rfl)
    have hlastpos : (some (last : Int)).all (1 ≤ ·) = true := by
      have hordered : last ∈ Keyset.ordered newestFirst (visibleSequences db c.conversationId now) := by
        rw [hsplit]
        exact List.mem_append_right _ (List.mem_of_mem_take (List.mem_of_getLast? hlast))
      obtain ⟨t, hlive, rfl⟩ := (mem_visibleSequences hwf h).1 (Keyset.mem_ordered.1 hordered)
      obtain ⟨-, -, -, hseqpos, -⟩ := hwf.owned t hlive.mem
      simp only [Option.all_some, decide_eq_true_eq]
      omega
    obtain ⟨pages, hpages, hflatten⟩ := ih _ hlastpos _ hsplit' hnext (by rw [List.length_drop]; omega)
    refine ⟨_, .next hanswer rfl hpages, ?_⟩
    rw [List.reverse_cons, List.flatten_append, hflatten, List.flatten_singleton, ← List.map_append,
      ordered_left hwf h hdesc pageTurnLimit]

/-! ## Every turn once -/

/-- the completed turns of a conversation that have not expired -/
def liveTurns (db : Db) (id : Uuid) (now : Instant) : List Turn :=
  db.turns.filter fun t => t.conversationId = id && t.status = .completed && t.unexpired now

theorem mem_liveTurns {t : Turn} : t ∈ liveTurns db id now ↔ Live db id now t := by
  rw [liveTurns, List.mem_filter]
  simp only [Bool.and_eq_true, decide_eq_true_eq]
  exact ⟨fun ⟨ht, ⟨hconv, hcompleted⟩, hlive⟩ => ⟨ht, hconv, hcompleted, hlive⟩,
    fun h => ⟨h.mem, ⟨h.conversation, h.completed⟩, h.unexpired⟩⟩

theorem liveTurns_distinct (hwf : Wf db) : ((liveTurns db id now).map Turn.sequence).Nodup := by
  have hturns : (liveTurns db id now).Nodup := (List.Nodup.of_map _ hwf.turnIds).filter _
  refine (List.nodup_map_iff_inj_on hturns).2 fun t ht t' ht' heq => ?_
  have hlive := mem_liveTurns.1 ht
  have hlive' := mem_liveTurns.1 ht'
  exact hwf.sequences t hlive.mem t' hlive'.mem (hlive.conversation.trans hlive'.conversation.symm) heq

theorem nodup_of_strict {α κ : Type} [Preorder κ] {key : α → κ} {l : List α}
    (hl : l.Pairwise fun a b => key a < key b) : l.Nodup := by
  refine List.Pairwise.imp ?_ hl
  rintro a b hlt rfl
  exact lt_irrefl _ hlt

/-- **The transcript has the two messages of every unexpired completed turn**, in the order of the turns. -/
theorem transcript_turns (hwf : Wf db) (h : Aligned db) :
    (transcript db id now).map (fun m => (m.sequence, m.turnId, m.role)) =
      (Keyset.ordered Turn.sequence (liveTurns db id now)).flatMap fun t =>
        [(t.sequence, t.turnId, .user), (t.sequence, t.turnId, .assistant)] := by
  let key : Nat × Uuid × Role → Nat ×ₗ Nat := fun p => toLex (p.1, if p.2.2 = .user then 0 else 1)
  have hleft : ((transcript db id now).map fun m => (m.sequence, m.turnId, m.role)).Pairwise fun a b => key a < key b := by
    rw [List.pairwise_map]
    exact Keyset.ordered_strict (messageKey_distinct hwf h)
  have hright : ((Keyset.ordered Turn.sequence (liveTurns db id now)).flatMap fun t =>
      [(t.sequence, t.turnId, Role.user), (t.sequence, t.turnId, Role.assistant)]).Pairwise fun a b => key a < key b := by
    rw [List.pairwise_flatMap]
    refine ⟨fun t _ => ?_, (Keyset.ordered_strict (liveTurns_distinct hwf)).imp fun {t t'} hlt a ha b hb => ?_⟩
    · simp only [List.pairwise_cons, List.mem_singleton, forall_eq, List.not_mem_nil, false_imp_iff, implies_true,
        List.Pairwise.nil, and_true]
      exact Prod.Lex.toLex_lt_toLex.2 (Or.inr ⟨rfl, Nat.zero_lt_one⟩)
    · have hfirst : a.1 = t.sequence := by
        simp only [List.mem_cons, List.not_mem_nil, or_false] at ha
        rcases ha with rfl | rfl <;> rfl
      have hsecond : b.1 = t'.sequence := by
        simp only [List.mem_cons, List.not_mem_nil, or_false] at hb
        rcases hb with rfl | rfl <;> rfl
      exact Prod.Lex.toLex_lt_toLex.2 (Or.inl (by rw [hfirst, hsecond]; exact hlt))
  have hperm : ((transcript db id now).map fun m => (m.sequence, m.turnId, m.role)).Perm
      ((Keyset.ordered Turn.sequence (liveTurns db id now)).flatMap fun t =>
        [(t.sequence, t.turnId, .user), (t.sequence, t.turnId, .assistant)]) := by
    refine (List.perm_ext_iff_of_nodup (nodup_of_strict hleft) (nodup_of_strict hright)).2 ?_
    rintro ⟨sequence, turnId, role⟩
    simp only [transcript, List.mem_map, List.mem_flatMap, Keyset.mem_ordered, mem_liveTurns, Prod.mk.injEq, List.mem_cons,
      List.not_mem_nil, or_false]
    constructor
    · rintro ⟨m, hm, rfl, rfl, rfl⟩
      obtain ⟨-, t, hlive, hid, hseq⟩ := (mem_visibleMessages hwf h).1 hm
      refine ⟨t, hlive, ?_⟩
      cases m.role
      · exact Or.inl ⟨hseq.symm, hid.symm, rfl⟩
      · exact Or.inr ⟨hseq.symm, hid.symm, rfl⟩
    · rintro ⟨t, hlive, hmessage⟩
      have hthis : sequence = t.sequence ∧ turnId = t.turnId := by
        rcases hmessage with ⟨hseq, hid, -⟩ | ⟨hseq, hid, -⟩ <;> exact ⟨hseq, hid⟩
      have hone := hwf.answered t hlive.mem hlive.completed role
      obtain ⟨m, hm, hkey⟩ := List.countP_pos_iff.1 (by rw [← messageCount, hone]; exact Nat.one_pos :
        0 < db.messages.countP fun m => m.turnId = t.turnId && m.role = role)
      simp only [Bool.and_eq_true, decide_eq_true_eq] at hkey
      obtain ⟨t', ht', hid', -, -, hseq', -⟩ := h m hm
      obtain rfl : t' = t := hwf.turn_eq ht' hlive.mem (hid'.trans hkey.1)
      exact ⟨m, (mem_visibleMessages hwf h).2 ⟨hm, t', hlive, hid', hseq'⟩, hseq'.symm.trans hthis.1.symm,
        hkey.1.trans hthis.2.symm, hkey.2⟩
  exact hperm.eq_of_pairwise (fun a b _ _ hab hba => absurd (hab.trans hba) (lt_irrefl _)) hleft hright

/-! ## The sequence that is shown -/

theorem latestSequence_eq (hwf : Wf db) {c : Conversation} (hc : c ∈ db.conversations) :
    (∀ t ∈ db.turns, t.conversationId = c.conversationId → t.status ≠ .pending) ∧ latestSequence db c = c.lastSequence ∨
      ∃ t ∈ db.turns, t.conversationId = c.conversationId ∧ t.status = .pending ∧
        latestSequence db c = t.sequence - 1 := by
  have hmem {t : Turn} : t ∈ (db.turns.filter fun t => t.conversationId = c.conversationId && t.status = .pending) ↔
      t ∈ db.turns ∧ t.conversationId = c.conversationId ∧ t.status = .pending := by
    rw [List.mem_filter, Bool.and_eq_true, decide_eq_true_eq, decide_eq_true_eq]
  rcases hpending : db.turns.filter fun t => t.conversationId = c.conversationId && t.status = .pending with _ | ⟨t, ts⟩
  · refine Or.inl ⟨fun t ht hconv hp => ?_, by rw [latestSequence, hpending]; rfl⟩
    have hnone := hmem.2 ⟨ht, hconv, hp⟩
    rw [hpending] at hnone
    cases hnone
  · rw [hpending] at hmem
    obtain ⟨ht, hconv, hp⟩ := hmem.1 List.mem_cons_self
    have hnil : ts = [] := by
      have hnodup : (t :: ts).Nodup := hpending ▸ (List.Nodup.of_map _ hwf.turnIds).filter _
      rw [List.nodup_cons] at hnodup
      refine List.eq_nil_iff_forall_not_mem.2 fun t' ht' => ?_
      obtain ⟨hmem', hconv', hp'⟩ := hmem.1 (List.mem_cons_of_mem _ ht')
      exact hnodup.1 (hwf.pending_eq ht hp hmem' hp' (hconv.trans hconv'.symm) ▸ ht')
    have hlast := hwf.tail t ht hp c hc hconv.symm
    refine Or.inr ⟨t, ht, hconv, hp, ?_⟩
    rw [latestSequence, hpending, hnil, hlast]
    simp [hidePending, hlast]

/-- reclaiming, where no lease is active, ends a conversation where the history says that it ends -/
theorem reclaimExpired_idle (hwf : Wf db) {c : Conversation} (hc : c ∈ db.conversations)
    (hidle : ∀ t ∈ db.turns, t.conversationId = c.conversationId → t.status = .pending → t.active now = false) :
    (reclaimExpired db c now).1.lastSequence = latestSequence db c ∧
      ∀ t ∈ (reclaimExpired db c now).2.turns, t.conversationId = c.conversationId → t.status ≠ .pending := by
  have hexpired : ∀ t ∈ db.turns, t.conversationId = c.conversationId → t.status = .pending → t.expired now = true := by
    intro t ht hconv hp
    obtain ⟨e, he⟩ := Option.isSome_iff_exists.1 (hwf.leased t ht hp)
    have hinactive := hidle t ht hconv hp
    rw [Turn.active, he, Option.any_some, decide_eq_false_iff_not] at hinactive
    rw [Turn.expired, he, Option.any_some, decide_eq_true_eq]
    exact not_lt.1 hinactive
  rcases reclaimExpired_eq hwf hc now with ⟨heq, hnone⟩ | ⟨t, ht, hconv, hp, -, heq⟩
  · have hidle' : ∀ t ∈ db.turns, t.conversationId = c.conversationId → t.status ≠ .pending := by
      intro t ht hconv hp
      have hnot := hnone t ht hconv hp
      rw [hexpired t ht hconv hp] at hnot
      cases hnot
    rw [heq]
    refine ⟨?_, hidle'⟩
    rcases latestSequence_eq hwf hc with ⟨-, hlatest⟩ | ⟨t, ht, hconv, hp, -⟩
    · exact hlatest.symm
    · exact absurd hp (hidle' t ht hconv)
  · rw [heq]
    constructor
    · rcases latestSequence_eq hwf hc with ⟨hnone, -⟩ | ⟨t', ht', hconv', hp', hlatest⟩
      · exact absurd hp (hnone t ht hconv)
      · rw [hlatest, hwf.pending_eq ht' hp' ht hp (hconv'.trans hconv.symm)]
    · intro t' ht' hconv' hp'
      obtain ⟨hmem, hne⟩ := mem_removeTail.1 ht'
      exact hne (congrArg Turn.turnId (hwf.pending_eq hmem hp' ht hp (hconv'.trans hconv.symm)))

/-- the sequence that a history shows -/
def shownSequence (db : Db) (workspaceId : Uuid) (actorId : String) : Nat :=
  match db.conversationOf? workspaceId actorId with
  | none => 0
  | some c => latestSequence db c

theorem loadChatHistory_sequence {workspaceId : Uuid} {actorId fingerprint : String} {limit : Int} {before : Option Int}
    {history : ChatHistory} (h : loadChatHistory db workspaceId actorId fingerprint now limit before = .ok history) :
    history.sequence = shownSequence db workspaceId actorId := by
  simp only [loadChatHistory, bind_eq_ok, ensure_eq_ok] at h
  obtain ⟨_, -, _, -, _, -, h⟩ := h
  rw [shownSequence]
  cases hc : db.conversationOf? workspaceId actorId with
  | none =>
    rw [hc] at h
    exact congrArg ChatHistory.sequence (Except.ok.inj h).symm
  | some c =>
    rw [hc] at h
    dsimp only at h
    split at h
    · exact congrArg ChatHistory.sequence (Except.ok.inj h).symm
    · exact congrArg ChatHistory.sequence (Except.ok.inj h).symm

theorem require_eq_error {p : Prop} [Decidable p] {code : ErrorCode} {message : String} {e : ChatError} :
    require p code message = .error e ↔ ¬p ∧ e = ⟨code, message⟩ := by
  by_cases h : p <;> simp [require, h, raise, eq_comm]

/-- what a reservation with a current sequence may answer -/
def Accepted (expected : Nat) : Except ChatError (Reservation × Db) → Prop
  | .ok (reservation, _) => reservation.sequence = expected + 1
  | .error e => e.code ≠ .sequenceConflict

theorem accepted_error {expected : Nat} {e : ChatError} (h : e.code ≠ .sequenceConflict) :
    Accepted expected (.error e) := h

theorem accepted_renew {r : ReserveRequest} {c : Conversation} {existing : Turn} (h : existing.status ≠ .pending) :
    Accepted r.payload.expectedSequence (renew db r c existing) := by
  cases hrenew : renew db r c existing with
  | ok p =>
    simp only [renew, bind_eq_ok, require_eq_ok] at hrenew
    obtain ⟨_, -, _, -, _, -, _, hp, -⟩ := hrenew
    exact absurd hp h
  | error e =>
    simp only [renew, bind_eq_error, require_eq_error, require_eq_ok] at hrenew
    rcases hrenew with ⟨-, rfl⟩ | ⟨_, -, ⟨-, rfl⟩ | ⟨_, -, ⟨hactive, -⟩ | ⟨_, -, ⟨-, rfl⟩ | ⟨_, hp, -⟩⟩⟩⟩
    · exact accepted_error (by decide)
    · exact accepted_error (by decide)
    · exact absurd (fun hboth => h hboth.1) hactive
    · exact accepted_error (by decide)
    · exact absurd hp h

theorem accepted_reserveNew {limits : Limits} {r : ReserveRequest} {c : Conversation}
    (hnone : ∀ t ∈ db.turns, t.conversationId = c.conversationId → t.status ≠ .pending)
    (hlast : c.lastSequence = r.payload.expectedSequence) :
    Accepted r.payload.expectedSequence (reserveNew limits db r c) := by
  cases hnew : reserveNew limits db r c with
  | ok p =>
    simp only [reserveNew, bind_eq_ok, require_eq_ok, pure_eq_ok] at hnew
    obtain ⟨_, -, _, -, charged, -, _, -, rfl⟩ := hnew
    rfl
  | error e =>
    simp only [reserveNew, reserveUsage, bind_eq_error, require_eq_error, require_eq_ok, pure_ne_error, or_false,
      and_false, exists_false] at hnew
    rcases hnew with ⟨hactive, -⟩ | ⟨_, -, ⟨hstale, -⟩ | ⟨_, -, (⟨-, rfl⟩ | ⟨_, -, -, rfl⟩) | ⟨_, -, -, rfl⟩⟩⟩
    · refine absurd ?_ hactive
      rintro ⟨t, ht, hconv, hp, -⟩
      exact hnone t ht hconv hp
    · exact absurd hlast hstale
    · exact accepted_error (by decide)
    · exact accepted_error (by decide)
    · exact accepted_error (by decide)

/-- **The sequence of a history is not refused as stale** while no lease is active. -/
theorem reserveTurn_sequence (hwf : Wf db) (limits : Limits) {r : ReserveRequest}
    (hidle : ∀ c, db.conversationOf? r.workspaceId r.actorId = some c → ∀ t ∈ db.turns,
      t.conversationId = c.conversationId → t.status = .pending → t.active r.now = false)
    (hexpected : r.payload.expectedSequence = shownSequence db r.workspaceId r.actorId) :
    Accepted r.payload.expectedSequence (reserveTurn limits db r) := by
  -- what comes after the conversation is found or inserted
  have hrest : ∀ (db₀ : Db) (c : Conversation), Wf db₀ → c ∈ db₀.conversations →
      (∀ t ∈ db₀.turns, t.conversationId = c.conversationId → t.status = .pending → t.active r.now = false) →
      latestSequence db₀ c = r.payload.expectedSequence →
      ensureConversation db r.workspaceId r.actorId r.drawn.conversationId r.now = .ok (c, db₀) →
      Accepted r.payload.expectedSequence (reserveTurn limits db r) := by
    intro db₀ c hwf₀ hc hidle₀ hlatest hensure
    obtain ⟨hlast, hnone⟩ := reclaimExpired_idle hwf₀ hc hidle₀
    have hsame := (reclaimExpired_spec hwf₀ hc r.now).same
    rw [← hsame] at hnone
    rw [reserveTurn, hensure]
    dsimp only [bind, Except.bind]
    split
    · rename_i existing hfind
      have hfound := List.find?_some hfind
      simp only [Bool.and_eq_true, decide_eq_true_eq] at hfound
      exact accepted_renew (hnone existing (List.mem_of_find?_eq_some hfind) hfound.1)
    · exact accepted_reserveNew hnone (hlast.trans hlatest)
  cases hc : db.conversationOf? r.workspaceId r.actorId with
  | some c =>
    have hensure : ensureConversation db r.workspaceId r.actorId r.drawn.conversationId r.now = .ok (c, db) := by
      rw [ensureConversation, ← Db.conversationOf?, hc]
    rw [shownSequence, hc] at hexpected
    exact hrest db c hwf (List.mem_of_find?_eq_some hc) (hidle c hc) hexpected.symm hensure
  | none =>
    rw [shownSequence, hc] at hexpected
    cases hensure : ensureConversation db r.workspaceId r.actorId r.drawn.conversationId r.now with
    | error e =>
      rw [reserveTurn, hensure]
      rw [ensureConversation, ← Db.conversationOf?, hc] at hensure
      simp only [bind_eq_error, require_eq_error, pure_ne_error, and_false, exists_false, or_false] at hensure
      rw [hensure.2]
      exact accepted_error (by decide)
    | ok p =>
      obtain ⟨c, db₀⟩ := p
      obtain ⟨hwf₀, hmem, -, hturns, -⟩ := ensureConversation_ok hwf hensure
      -- no turn belongs to a conversation that is new
      have hnew : c.lastSequence = 0 ∧ ∀ t ∈ db.turns, t.conversationId ≠ c.conversationId := by
        rw [ensureConversation, ← Db.conversationOf?, hc] at hensure
        simp only [bind_eq_ok, require_eq_ok, pure_eq_ok, Prod.mk.injEq] at hensure
        obtain ⟨_, hfresh, rfl, -⟩ := hensure
        refine ⟨rfl, fun t ht heq => ?_⟩
        obtain ⟨c', hc', hid, -⟩ := hwf.owned t ht
        simpa [hid, heq] using List.find?_eq_none.1 hfresh c' hc'
      have hidle₀ : ∀ t ∈ db₀.turns, t.conversationId = c.conversationId → t.status = .pending →
          t.active r.now = false := fun t ht heq => absurd heq (hnew.2 t (hturns ▸ ht))
      refine hrest db₀ c hwf₀ hmem hidle₀ ?_ hensure
      rcases latestSequence_eq hwf₀ hmem with ⟨-, hlatest⟩ | ⟨t, ht, heq, -⟩
      · rw [hlatest, hnew.1, hexpected]
      · exact absurd heq (hnew.2 t (hturns ▸ ht))

/-! ## Histories are exact -/

/-- the messages and the turns of an actor in a workspace; there are none without a conversation -/
def transcriptOf (db : Db) (workspaceId : Uuid) (actorId : String) (now : Instant) : List Message :=
  match db.conversationOf? workspaceId actorId with
  | none => []
  | some c => transcript db c.conversationId now

def liveTurnsOf (db : Db) (workspaceId : Uuid) (actorId : String) (now : Instant) : List Turn :=
  match db.conversationOf? workspaceId actorId with
  | none => []
  | some c => Keyset.ordered Turn.sequence (liveTurns db c.conversationId now)

theorem pages_transcript (hwf : Wf db) (h : Aligned db) (now : Instant) (workspaceId : Uuid) {actorId : String}
    (hactor : validActor actorId = true) (fingerprint : String) {limit : Int} (hlimit : 1 ≤ limit ∧ limit ≤ 100) :
    ∃ pages, Pages (loadChatHistory db workspaceId actorId fingerprint now limit) none pages ∧
      pages.reverse.flatten = (transcriptOf db workspaceId actorId now).map (shown fingerprint) := by
  rw [transcriptOf]
  cases hc : db.conversationOf? workspaceId actorId with
  | none =>
    have hanswer : loadChatHistory db workspaceId actorId fingerprint now limit none =
        .ok ⟨workspaceId, 0, [], false, none⟩ := by
      have hany : (none : Option Int).all (1 ≤ ·) = true := rfl
      rw [loadChatHistory, ensure, if_pos hactor, ensure, if_pos hany, ensure, if_pos hlimit, hc]
      rfl
    exact ⟨_, .last hanswer rfl, rfl⟩
  | some c =>
    have hnothing : Keyset.ordered newestFirst (visibleSequences db c.conversationId now) =
        [] ++ Keyset.ordered newestFirst (visibleSequences db c.conversationId now) := rfl
    obtain ⟨pages, hpages, hflatten⟩ := pages_left hwf h hactor hlimit hc fingerprint _ none rfl [] hnothing
      Keyset.after_none le_rfl
    refine ⟨pages, hpages, hflatten.trans ?_⟩
    have hall : ((visibleMessages db c.conversationId now).filter fun m =>
        m.sequence ∈ Keyset.ordered newestFirst (visibleSequences db c.conversationId now)) =
        visibleMessages db c.conversationId now := by
      refine List.filter_eq_self.2 fun m hm => ?_
      rw [decide_eq_true_eq, Keyset.mem_ordered, visibleSequences, List.mem_dedup]
      exact List.mem_map_of_mem hm
    rw [hall]
    rfl

theorem transcriptOf_turns (hwf : Wf db) (h : Aligned db) (workspaceId : Uuid) (actorId : String) :
    (transcriptOf db workspaceId actorId now).map (fun m => (m.sequence, m.turnId, m.role)) =
      (liveTurnsOf db workspaceId actorId now).flatMap fun t =>
        [(t.sequence, t.turnId, .user), (t.sequence, t.turnId, .assistant)] := by
  rw [transcriptOf, liveTurnsOf]
  cases db.conversationOf? workspaceId actorId with
  | none => rfl
  | some c => exact transcript_turns hwf h

theorem transcriptOf_ascending (workspaceId : Uuid) (actorId : String) :
    (transcriptOf db workspaceId actorId now).Pairwise fun m m' => m.sequence ≤ m'.sequence := by
  rw [transcriptOf]
  cases db.conversationOf? workspaceId actorId with
  | none => exact List.Pairwise.nil
  | some c =>
    have hsorted : (transcript db c.conversationId now).Pairwise fun m m' => messageKey m ≤ messageKey m' :=
      List.pairwise_insertionSort _ _
    refine hsorted.imp fun {m m'} hle => ?_
    rcases Prod.Lex.toLex_le_toLex.1 hle with hlt | ⟨heq, -⟩
    · exact le_of_lt hlt
    · exact heq.le

end

/-- **Chat history paging is exact** in every state that chat transactions and purges reach: the pages of any size show
every unexpired completed turn once, oldest first within a page, and the sequence beside them is current for the next
reservation while no lease is active. -/
theorem history_exact (limits : Limits) (as : List ServiceAction) (workspaceId : Uuid) (actorId fingerprint : String)
    (now : Instant) (limit : Int) (hactor : validActor actorId = true) (hlimit : 1 ≤ limit ∧ limit ≤ 100) :
    let db := (Runs.run (serviceStep limits) System.init as).db
    (∃ pages, Pages (loadChatHistory db workspaceId actorId fingerprint now limit) none pages ∧
      (∀ page ∈ pages, page.Pairwise fun m m' => m.sequence ≤ m'.sequence) ∧
      pages.reverse.flatten = (transcriptOf db workspaceId actorId now).map (shown fingerprint) ∧
      (transcriptOf db workspaceId actorId now).map (fun m => (m.sequence, m.turnId, m.role)) =
        (liveTurnsOf db workspaceId actorId now).flatMap fun t =>
          [(t.sequence, t.turnId, .user), (t.sequence, t.turnId, .assistant)]) ∧
    ∀ (before : Option Int) (history : ChatHistory) (r : ReserveRequest),
      loadChatHistory db workspaceId actorId fingerprint now limit before = .ok history →
      r.workspaceId = workspaceId → r.actorId = actorId → r.payload.expectedSequence = history.sequence →
      (∀ c, db.conversationOf? workspaceId actorId = some c → ∀ t ∈ db.turns,
        t.conversationId = c.conversationId → t.status = .pending → t.active r.now = false) →
      Accepted history.sequence (reserveTurn limits db r) := by
  intro db
  obtain ⟨hinv, haligned⟩ : Inv (Runs.run (serviceStep limits) System.init as) ∧ Aligned db := serviceInv_run limits as
  have hwf : Wf db := hinv.wf
  constructor
  · obtain ⟨pages, hpages, hflatten⟩ := pages_transcript hwf haligned now workspaceId hactor fingerprint hlimit
    refine ⟨pages, hpages, fun page hpage => ?_, hflatten, transcriptOf_turns hwf haligned workspaceId actorId⟩
    have hascending : pages.reverse.flatten.Pairwise fun m m' => m.sequence ≤ m'.sequence := by
      rw [hflatten, List.pairwise_map]
      exact transcriptOf_ascending workspaceId actorId
    exact hascending.sublist (List.sublist_flatten_of_mem (List.mem_reverse.2 hpage))
  · rintro before history r hhistory rfl rfl hexpected hidle
    have hshown := loadChatHistory_sequence hhistory
    rw [← hexpected]
    exact reserveTurn_sequence hwf limits hidle (hexpected.trans hshown)

namespace TwoTurns

def limits : Limits := ⟨60, 10, 1000⟩

def context : ContextSnapshot := ⟨"f", []⟩

def payload (requestId expectedSequence : Nat) : ChatMessageRequest := ⟨"hello", 1, requestId, expectedSequence, none⟩

def reserve (requestId expectedSequence : Nat) (now : Instant) : ServiceAction :=
  .chat (.reserve ⟨7, "actor", payload requestId expectedSequence, "p", context, now, 10, ⟨0, 0, 0⟩⟩)

def complete (reservation : Reservation) (requestId : Nat) (now : Instant) : ServiceAction :=
  .chat (.complete ⟨reservation, payload requestId (reservation.sequence - 1), ⟨"answer", []⟩, context, now, none⟩ true)

/-- two turns are completed, and a third is left to expire -/
def actions : List ServiceAction :=
  [reserve 1 0 100, complete ⟨0, "actor", 1, 1, 2, context⟩ 1 200, reserve 2 1 300,
    complete ⟨0, "actor", 4, 2, 5, context⟩ 2 400, reserve 3 2 500]

end TwoTurns

theorem history_exact_two :
    ∃ pages, Pages (loadChatHistory (Runs.run (serviceStep TwoTurns.limits) System.init TwoTurns.actions).db 7 "actor" "f"
      1000 2) none pages ∧ pages.reverse.flatten.map ChatMessage.sequence = [1, 1, 2, 2] := by
  obtain ⟨pages, hpages, -, hflatten, -⟩ :=
    (history_exact TwoTurns.limits TwoTurns.actions 7 "actor" "f" 1000 2 (by decide) (by decide)).1
  refine ⟨pages, hpages, ?_⟩
  rw [hflatten]
  decide

end AtoService.Chat
