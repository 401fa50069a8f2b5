/-
The chat turn protocol: what holds of turns and messages in every run of one service.

`System` is the committed tables with the identifiers drawn so far and a record of what happened: the reservations that
were handed out, the turns that were completed and the tokens that were counted. `step` takes one action of any client:
a reservation, a completion, a release, or a crash, which leaves a reservation to expire. Completions and releases act on
reservations that were handed out, in any order and any number of times.

- `Wf`: the joint invariant of conversations, turns and messages. `wf_removeTail`, `wf_appendTurn`, `wf_putTurn`: the
  three ways in which the turns of a conversation change.
- `reclaimExpired_spec`: reclaiming removes the pending turn of a conversation if its lease has expired, and nothing else.
- `turn_protocol`: at most one turn of a conversation is pending and it has the highest sequence, sequences are distinct
  and bounded, a request is completed at most once, a completed turn has one message of each role, and every completion
  was made with the current token of an unexpired lease.
-/
import AtoService.Chat.Turns
import AtoService.Lib.Results
import AtoService.Lib.Runs

namespace AtoService.Chat

open AtoService.Results

/-! ## The joint invariant -/

/-- how many messages of a role a turn has -/
def messageCount (db : Db) (turnId : Uuid) (role : Role) : Nat :=
  db.messages.countP fun m => m.turnId = turnId && m.role = role

structure Wf (db : Db) : Prop where
  conversationIds : (db.conversations.map Conversation.conversationId).Nodup
  turnIds : (db.turns.map Turn.turnId).Nodup
  owned : ∀ t ∈ db.turns, ∃ c ∈ db.conversations, c.conversationId = t.conversationId ∧ 0 < t.sequence ∧
    t.sequence ≤ c.lastSequence
  sequences : ∀ t ∈ db.turns, ∀ t' ∈ db.turns, t.conversationId = t'.conversationId → t.sequence = t'.sequence → t = t'
  requests : ∀ t ∈ db.turns, ∀ t' ∈ db.turns, t.conversationId = t'.conversationId → t.requestId = t'.requestId → t = t'
  tail : ∀ t ∈ db.turns, t.status = .pending → ∀ c ∈ db.conversations, c.conversationId = t.conversationId →
    t.sequence = c.lastSequence
  leased : ∀ t ∈ db.turns, t.status = .pending → t.leaseExpiresAt.isSome
  answered : ∀ t ∈ db.turns, t.status = .completed → ∀ role, messageCount db t.turnId role = 1
  messages : ∀ m ∈ db.messages, ∃ t ∈ db.turns, t.turnId = m.turnId ∧ t.status = .completed

theorem wf_empty : Wf {} where
  conversationIds := List.nodup_nil
  turnIds := List.nodup_nil
  owned _ h := absurd h List.not_mem_nil
  sequences _ h := absurd h List.not_mem_nil
  requests _ h := absurd h List.not_mem_nil
  tail _ h := absurd h List.not_mem_nil
  leased _ h := absurd h List.not_mem_nil
  answered _ h := absurd h List.not_mem_nil
  messages _ h := absurd h List.not_mem_nil

namespace Wf

variable {db : Db}

theorem conversation_eq (h : Wf db) {c c' : Conversation} (hc : c ∈ db.conversations) (hc' : c' ∈ db.conversations)
    (heq : c.conversationId = c'.conversationId) : c = c' :=
  List.inj_on_of_nodup_map h.conversationIds hc hc' heq

theorem turn_eq (h : Wf db) {t t' : Turn} (ht : t ∈ db.turns) (ht' : t' ∈ db.turns) (heq : t.turnId = t'.turnId) :
    t = t' :=
  List.inj_on_of_nodup_map h.turnIds ht ht' heq

/-- the turns of a conversation end where the conversation does -/
theorem sequence_le (h : Wf db) {t : Turn} (ht : t ∈ db.turns) {c : Conversation} (hc : c ∈ db.conversations)
    (heq : c.conversationId = t.conversationId) : t.sequence ≤ c.lastSequence := by
  obtain ⟨c', hc', heq', -, hle⟩ := h.owned t ht
  rwa [h.conversation_eq hc hc' (heq.trans heq'.symm)]

/-- a pending turn is the last of its conversation -/
theorem le_of_pending (h : Wf db) {t t' : Turn} (ht : t ∈ db.turns) (hp : t.status = .pending) (ht' : t' ∈ db.turns)
    (heq : t'.conversationId = t.conversationId) : t'.sequence ≤ t.sequence := by
  obtain ⟨c, hc, hid, -, -⟩ := h.owned t ht
  rw [h.tail t ht hp c hc hid]
  exact h.sequence_le ht' hc (hid.trans heq.symm)

/-- a conversation has at most one pending turn -/
theorem pending_eq (h : Wf db) {t t' : Turn} (ht : t ∈ db.turns) (hp : t.status = .pending) (ht' : t' ∈ db.turns)
    (hp' : t'.status = .pending) (heq : t.conversationId = t'.conversationId) : t = t' :=
  h.sequences t ht t' ht' heq
    (le_antisymm (h.le_of_pending ht' hp' ht heq) (h.le_of_pending ht hp ht' heq.symm))

end Wf

/-! ## How conversations change -/

/-- rewriting conversations under their identifier and last sequence -/
theorem wf_mapConversations {db : Db} (h : Wf db) {f : Conversation → Conversation}
    (hid : ∀ c, (f c).conversationId = c.conversationId) (hlast : ∀ c, (f c).lastSequence = c.lastSequence) :
    Wf { db with conversations := db.conversations.map f } where
  conversationIds := by
    have heq : (db.conversations.map f).map Conversation.conversationId =
        db.conversations.map Conversation.conversationId := by
      rw [List.map_map]
      exact List.map_congr_left fun c _ => hid c
    rw [heq]
    exact h.conversationIds
  turnIds := h.turnIds
  owned t ht := by
    obtain ⟨c, hc, heq, hpos, hle⟩ := h.owned t ht
    exact ⟨f c, List.mem_map_of_mem hc, (hid c).trans heq, hpos, (hlast c).symm ▸ hle⟩
  sequences := h.sequences
  requests := h.requests
  tail t ht hp c hc heq := by
    obtain ⟨c', hc', rfl⟩ := List.mem_map.1 hc
    rw [hlast]
    exact h.tail t ht hp c' hc' ((hid c').symm.trans heq)
  leased := h.leased
  answered := h.answered
  messages := h.messages

/-- a new conversation has no turns -/
theorem wf_insertConversation {db : Db} (h : Wf db) {c : Conversation}
    (hnew : c.conversationId ∉ db.conversations.map Conversation.conversationId) :
    Wf { db with conversations := db.conversations ++ [c] } where
  conversationIds := by
    rw [List.map_append, List.nodup_append]
    refine ⟨h.conversationIds, List.nodup_singleton _, ?_⟩
    intro a ha b hb heq
    rw [List.map_singleton, List.mem_singleton] at hb
    exact hnew (hb ▸ heq ▸ ha)
  turnIds := h.turnIds
  owned t ht := by
    obtain ⟨c', hc', heq, hle⟩ := h.owned t ht
    exact ⟨c', List.mem_append_left _ hc', heq, hle⟩
  sequences := h.sequences
  requests := h.requests
  tail t ht hp c' hc' heq := by
    rcases List.mem_append.1 hc' with hc' | hc'
    · exact h.tail t ht hp c' hc' heq
    · obtain ⟨c'', hc'', heq'', -⟩ := h.owned t ht
      rw [List.mem_singleton.1 hc'] at heq
      exact absurd (List.mem_map.2 ⟨c'', hc'', heq''.trans heq.symm⟩) hnew
  leased := h.leased
  answered := h.answered
  messages := h.messages

/-! ## How turns change -/

/-- the tables without the pending turn at the end of a conversation -/
def removeTail (db : Db) (t : Turn) : Db :=
  { db with
    conversations := db.conversations.map fun c =>
      if c.conversationId = t.conversationId then { c with lastSequence := t.sequence - 1 } else c
    turns := db.turns.filter fun t' => t'.turnId ≠ t.turnId }

theorem mem_removeTail {db : Db} {t t' : Turn} :
    t' ∈ (removeTail db t).turns ↔ t' ∈ db.turns ∧ t'.turnId ≠ t.turnId := by
  simp [removeTail]

/-- **Removing the pending turn** lowers the end of its conversation by one. -/
theorem wf_removeTail {db : Db} (h : Wf db) {t : Turn} (ht : t ∈ db.turns) (hp : t.status = .pending) :
    Wf (removeTail db t) where
  conversationIds := by
    have heq : (removeTail db t).conversations.map Conversation.conversationId =
        db.conversations.map Conversation.conversationId := by
      rw [removeTail, List.map_map]
      refine List.map_congr_left fun c _ => ?_
      simp only [Function.comp_apply]
      split_ifs <;> rfl
    rw [heq]
    exact h.conversationIds
  turnIds := h.turnIds.sublist (List.filter_sublist.map _)
  owned t' ht' := by
    obtain ⟨ht', hne⟩ := mem_removeTail.1 ht'
    obtain ⟨c, hc, heq, hpos, hle⟩ := h.owned t' ht'
    refine ⟨_, List.mem_map_of_mem hc, ?_⟩
    split_ifs with hid
    · -- the turn comes before the one that is removed
      have hlt : t'.sequence ≠ t.sequence := fun hs =>
        hne (congrArg Turn.turnId (h.sequences t' ht' t ht (heq.symm.trans hid) hs))
      have hle' := h.le_of_pending ht hp ht' (heq.symm.trans hid)
      refine ⟨heq, hpos, ?_⟩
      show t'.sequence ≤ t.sequence - 1
      omega
    · exact ⟨heq, hpos, hle⟩
  sequences t₁ h₁ t₂ h₂ := h.sequences t₁ (mem_removeTail.1 h₁).1 t₂ (mem_removeTail.1 h₂).1
  requests t₁ h₁ t₂ h₂ := h.requests t₁ (mem_removeTail.1 h₁).1 t₂ (mem_removeTail.1 h₂).1
  tail t' ht' hp' c hc heq := by
    obtain ⟨ht', hne⟩ := mem_removeTail.1 ht'
    obtain ⟨c', hc', rfl⟩ := List.mem_map.1 hc
    split_ifs at heq ⊢ with hid
    · exact absurd (congrArg Turn.turnId (h.pending_eq ht' hp' ht hp (heq.symm.trans hid))) hne
    · exact h.tail t' ht' hp' c' hc' heq
  leased t' ht' := h.leased t' (mem_removeTail.1 ht').1
  answered t' ht' := h.answered t' (mem_removeTail.1 ht').1
  messages m hm := by
    obtain ⟨t', ht', heq, hc⟩ := h.messages m hm
    refine ⟨t', mem_removeTail.2 ⟨ht', fun hid => ?_⟩, heq, hc⟩
    rw [h.turn_eq ht' ht hid, hp] at hc
    cases hc

/-- the tables with a new turn at the end of its conversation -/
def appendTurn (db : Db) (t : Turn) : Db :=
  { db with
    conversations := db.conversations.map fun c =>
      if c.conversationId = t.conversationId then { c with lastSequence := t.sequence } else c
    turns := db.turns ++ [t] }

theorem mem_appendTurn {db : Db} {t t' : Turn} : t' ∈ (appendTurn db t).turns ↔ t' ∈ db.turns ∨ t' = t := by
  simp [appendTurn]

/-- **Appending a pending turn** to a conversation that has none. -/
theorem wf_appendTurn {db : Db} (h : Wf db) {t : Turn} {c : Conversation} (hc : c ∈ db.conversations)
    (hid : c.conversationId = t.conversationId) (hseq : t.sequence = c.lastSequence + 1) (hp : t.status = .pending)
    (hleased : t.leaseExpiresAt.isSome) (hnew : t.turnId ∉ db.turns.map Turn.turnId)
    (hrequest : ∀ t' ∈ db.turns, t'.conversationId = t.conversationId → t'.requestId ≠ t.requestId)
    (hnone : ∀ t' ∈ db.turns, t'.conversationId = t.conversationId → t'.status ≠ .pending) : Wf (appendTurn db t) := by
  have hbefore : ∀ t' ∈ db.turns, t'.conversationId = t.conversationId → t'.sequence < t.sequence := by
    intro t' ht' heq
    have hle := h.sequence_le ht' hc (hid.trans heq.symm)
    omega
  refine ⟨?_, ?_, ?_, ?_, ?_, ?_, ?_, ?_, ?_⟩
  · have heq : (appendTurn db t).conversations.map Conversation.conversationId =
        db.conversations.map Conversation.conversationId := by
      rw [appendTurn, List.map_map]
      refine List.map_congr_left fun c _ => ?_
      simp only [Function.comp_apply]
      split_ifs <;> rfl
    rw [heq]
    exact h.conversationIds
  · rw [appendTurn, List.map_append, List.nodup_append]
    refine ⟨h.turnIds, List.nodup_singleton _, ?_⟩
    intro a ha b hb heq
    rw [List.map_singleton, List.mem_singleton] at hb
    exact hnew (hb ▸ heq ▸ ha)
  · intro t' ht'
    rcases mem_appendTurn.1 ht' with ht' | rfl
    · obtain ⟨c', hc', heq, hpos, hle⟩ := h.owned t' ht'
      refine ⟨_, List.mem_map_of_mem hc', ?_⟩
      split_ifs with hsame
      · exact ⟨heq, hpos, (hbefore t' ht' (heq.symm.trans hsame)).le⟩
      · exact ⟨heq, hpos, hle⟩
    · refine ⟨_, List.mem_map_of_mem hc, ?_⟩
      rw [if_pos hid]
      exact ⟨hid, by omega, le_rfl⟩
  · intro t₁ h₁ t₂ h₂ heq hs
    rcases mem_appendTurn.1 h₁ with m₁ | rfl <;> rcases mem_appendTurn.1 h₂ with m₂ | rfl
    · exact h.sequences t₁ m₁ t₂ m₂ heq hs
    · exact absurd hs (hbefore t₁ m₁ heq).ne
    · exact absurd hs (hbefore t₂ m₂ heq.symm).ne'
    · rfl
  · intro t₁ h₁ t₂ h₂ heq hr
    rcases mem_appendTurn.1 h₁ with m₁ | rfl <;> rcases mem_appendTurn.1 h₂ with m₂ | rfl
    · exact h.requests t₁ m₁ t₂ m₂ heq hr
    · exact absurd hr (hrequest t₁ m₁ heq)
    · exact absurd hr.symm (hrequest t₂ m₂ heq.symm)
    · rfl
  · intro t' ht' hp' c' hc' heq
    obtain ⟨c'', hc'', rfl⟩ := List.mem_map.1 hc'
    rcases mem_appendTurn.1 ht' with ht' | rfl
    · split_ifs at heq ⊢ with hsame
      · exact absurd hp' (hnone t' ht' (heq.symm.trans hsame))
      · exact h.tail t' ht' hp' c'' hc'' heq
    · split_ifs at heq ⊢ with hsame
      · rfl
      · exact absurd heq hsame
  · intro t' ht' hp'
    rcases mem_appendTurn.1 ht' with ht' | rfl
    · exact h.leased t' ht' hp'
    · exact hleased
  · intro t' ht' hcompleted
    rcases mem_appendTurn.1 ht' with ht' | rfl
    · exact h.answered t' ht' hcompleted
    · rw [hp] at hcompleted
      cases hcompleted
  · intro m hm
    obtain ⟨t', ht', heq, hcompleted⟩ := h.messages m hm
    exact ⟨t', mem_appendTurn.2 (Or.inl ht'), heq, hcompleted⟩

/-- the tables in which a turn is rewritten -/
def putTurn (db : Db) (t : Turn) : Db :=
  { db with turns := db.turns.map fun t' => if t'.turnId = t.turnId then t else t' }

/-- a turn after the rewriting of `t` to `u`: the rewritten one, or another as it was -/
theorem mem_putTurn {db : Db} (h : Wf db) {t u : Turn} (ht : t ∈ db.turns) (hid : u.turnId = t.turnId) {v : Turn} :
    v ∈ (putTurn db u).turns ↔ v = u ∨ v ∈ db.turns ∧ v.turnId ≠ t.turnId := by
  have hmem : v ∈ (putTurn db u).turns ↔ ∃ t₀ ∈ db.turns, (if t₀.turnId = u.turnId then u else t₀) = v := List.mem_map
  rw [hmem]
  constructor
  · rintro ⟨t₀, h₀, heq⟩
    split_ifs at heq with hsame
    · exact Or.inl heq.symm
    · exact Or.inr ⟨heq ▸ h₀, fun h' => hsame (by rw [heq, h', hid])⟩
  · rintro (rfl | ⟨hv, hne⟩)
    · exact ⟨t, ht, if_pos hid.symm⟩
    · exact ⟨v, hv, if_neg (hid ▸ hne)⟩

/-- **Rewriting the pending turn** in place: renewing its lease, or completing it and adding its two messages. -/
theorem wf_putTurn {db : Db} (h : Wf db) {t u : Turn} (ht : t ∈ db.turns) (hp : t.status = .pending)
    (hid : u.turnId = t.turnId) (hconversation : u.conversationId = t.conversationId)
    (hsequence : u.sequence = t.sequence) (hrequest : u.requestId = t.requestId)
    (hleased : u.status = .pending → u.leaseExpiresAt.isSome) {l : List Message}
    (hms : ∀ m ∈ l, m.turnId = t.turnId ∧ u.status = .completed)
    (hanswered : u.status = .completed → ∀ role, (l.countP fun m => m.turnId = t.turnId && m.role = role) = 1) :
    Wf { putTurn db u with messages := db.messages ++ l } := by
  have hmem {t' : Turn} := mem_putTurn h ht hid (v := t')
  -- the turn that a turn of the new tables was
  have hwas : ∀ t' ∈ (putTurn db u).turns, ∃ t₀ ∈ db.turns, t₀.turnId = t'.turnId ∧
      t₀.conversationId = t'.conversationId ∧ t₀.sequence = t'.sequence ∧ t₀.requestId = t'.requestId := by
    intro t' ht'
    rcases hmem.1 ht' with rfl | ⟨ht', -⟩
    · exact ⟨t, ht, hid.symm, hconversation.symm, hsequence.symm, hrequest.symm⟩
    · exact ⟨t', ht', rfl, rfl, rfl, rfl⟩
  have hsame : ∀ t₁ ∈ (putTurn db u).turns, ∀ t₂ ∈ (putTurn db u).turns, t₁.turnId = t₂.turnId → t₁ = t₂ := by
    intro t₁ h₁ t₂ h₂ heq
    rcases hmem.1 h₁ with rfl | ⟨m₁, n₁⟩ <;> rcases hmem.1 h₂ with rfl | ⟨m₂, n₂⟩
    · rfl
    · exact absurd (heq.symm.trans hid) n₂
    · exact absurd (heq.trans hid) n₁
    · exact h.turn_eq m₁ m₂ heq
  have hcount : ∀ t' ∈ db.turns, t'.turnId ≠ t.turnId → ∀ role,
      (l.countP fun m => m.turnId = t'.turnId && m.role = role) = 0 := by
    intro t' _ hne role
    rw [List.countP_eq_zero]
    intro m hm
    simp [(hms m hm).1, hne.symm]
  refine ⟨h.conversationIds, ?_, ?_, ?_, ?_, ?_, ?_, ?_, ?_⟩
  · have heq : (putTurn db u).turns.map Turn.turnId = db.turns.map Turn.turnId := by
      rw [putTurn, List.map_map]
      refine List.map_congr_left fun t' _ => ?_
      simp only [Function.comp_apply]
      split_ifs with hsame
      · exact hsame.symm
      · rfl
    show ((putTurn db u).turns.map Turn.turnId).Nodup
    rw [heq]
    exact h.turnIds
  · intro t' ht'
    obtain ⟨t₀, h₀, -, hc, hs, -⟩ := hwas t' ht'
    rw [← hc, ← hs]
    exact h.owned t₀ h₀
  · intro t₁ h₁ t₂ h₂ heq hseq
    obtain ⟨a, ha, hai, hac, has, -⟩ := hwas t₁ h₁
    obtain ⟨b, hb, hbi, hbc, hbs, -⟩ := hwas t₂ h₂
    have hab := h.sequences a ha b hb (by rw [hac, hbc, heq]) (by rw [has, hbs, hseq])
    exact hsame t₁ h₁ t₂ h₂ (by rw [← hai, ← hbi, hab])
  · intro t₁ h₁ t₂ h₂ heq hreq
    obtain ⟨a, ha, hai, hac, -, har⟩ := hwas t₁ h₁
    obtain ⟨b, hb, hbi, hbc, -, hbr⟩ := hwas t₂ h₂
    have hab := h.requests a ha b hb (by rw [hac, hbc, heq]) (by rw [har, hbr, hreq])
    exact hsame t₁ h₁ t₂ h₂ (by rw [← hai, ← hbi, hab])
  · intro t' ht' hp' c hc heq
    rcases hmem.1 ht' with rfl | ⟨m', -⟩
    · rw [hsequence]
      exact h.tail t ht hp c hc (heq.trans hconversation)
    · exact h.tail t' m' hp' c hc heq
  · intro t' ht' hp'
    rcases hmem.1 ht' with rfl | ⟨m', -⟩
    · exact hleased hp'
    · exact h.leased t' m' hp'
  · intro t' ht' hcompleted role
    show (db.messages ++ l).countP _ = 1
    rw [List.countP_append]
    rcases hmem.1 ht' with rfl | ⟨m', hne⟩
    · -- the pending turn had no messages
      have hzero : (db.messages.countP fun m => m.turnId = t'.turnId && m.role = role) = 0 := by
        rw [List.countP_eq_zero]
        intro m hm hm'
        simp only [Bool.and_eq_true, decide_eq_true_eq] at hm'
        obtain ⟨t₀, h₀, heq₀, hc₀⟩ := h.messages m hm
        rw [h.turn_eq h₀ ht (by rw [heq₀, hm'.1, hid]), hp] at hc₀
        cases hc₀
      rw [hzero, hid, hanswered hcompleted role]
    · rw [hcount t' m' hne role]
      exact h.answered t' m' hcompleted role
  · intro m hm
    rcases List.mem_append.1 hm with hm | hm
    · obtain ⟨t', ht', heq, hcompleted⟩ := h.messages m hm
      refine ⟨t', hmem.2 (Or.inr ⟨ht', fun hsameId => ?_⟩), heq, hcompleted⟩
      rw [h.turn_eq ht' ht hsameId, hp] at hcompleted
      cases hcompleted
    · exact ⟨u, hmem.2 (Or.inl rfl), by rw [hid, (hms m hm).1], (hms m hm).2⟩

/-! ## Reclaiming -/

theorem mem_expiredPending {db : Db} {id : Uuid} {now : Instant} {t : Turn} :
    t ∈ expiredPending db id now ↔ t ∈ db.turns ∧ t.conversationId = id ∧ t.status = .pending ∧ t.expired now = true := by
  rw [expiredPending, List.mem_insertionSort, List.mem_filter]
  simp only [Bool.and_eq_true, decide_eq_true_eq]
  tauto

/-- **Reclaiming** leaves a conversation as it is, or removes its pending turn, whose lease has expired. -/
theorem reclaimExpired_eq {db : Db} (h : Wf db) {c : Conversation} (hc : c ∈ db.conversations) (now : Instant) :
    ((reclaimExpired db c now = (c, db)) ∧
      ∀ t ∈ db.turns, t.conversationId = c.conversationId → t.status = .pending → t.expired now = false) ∨
    ∃ t ∈ db.turns, t.conversationId = c.conversationId ∧ t.status = .pending ∧ t.expired now = true ∧
      reclaimExpired db c now = ({ c with lastSequence := t.sequence - 1 }, removeTail db t) := by
  have hput (n : Nat) : (db.conversations.map fun c' =>
      if c'.conversationId = c.conversationId then { c with lastSequence := n } else c') =
      db.conversations.map fun c' =>
        if c'.conversationId = c.conversationId then { c' with lastSequence := n } else c' := by
    refine List.map_congr_left fun c' hc' => ?_
    split_ifs with hid
    · rw [h.conversation_eq hc' hc hid]
    · rfl
  cases hE : expiredPending db c.conversationId now with
  | nil =>
    left
    refine ⟨?_, fun t ht heq hp => ?_⟩
    · have hself : (db.conversations.map fun c' =>
          if c'.conversationId = c.conversationId then { c' with lastSequence := c.lastSequence } else c') =
          db.conversations := by
        conv_rhs => rw [← List.map_id db.conversations]
        refine List.map_congr_left fun c' hc' => ?_
        split_ifs with hid
        · rw [h.conversation_eq hc' hc hid]
          rfl
        · rfl
      simp only [reclaimExpired, hE, reclaim, Db.putConversation, hput, hself, List.not_mem_nil, not_false_eq_true,
        decide_true, List.filter_true]
    · by_contra hexpired
      have hmem := mem_expiredPending.2 ⟨ht, heq, hp, Bool.not_eq_false _ ▸ hexpired⟩
      rw [hE] at hmem
      exact absurd hmem List.not_mem_nil
  | cons t ts =>
    right
    have hmem : t ∈ expiredPending db c.conversationId now := hE ▸ List.mem_cons_self
    obtain ⟨ht, hconv, hp, hexpired⟩ := mem_expiredPending.1 hmem
    have hseq : t.sequence = c.lastSequence := h.tail t ht hp c hc hconv.symm
    -- the pending turn of a conversation is unique, so no other has expired
    have hnil : ts = [] := by
      have hnodup : (expiredPending db c.conversationId now).Nodup := by
        have hturns : db.turns.Nodup := List.Nodup.of_map _ h.turnIds
        exact ((List.perm_insertionSort _ _).nodup_iff).2 (hturns.filter _)
      rw [hE, List.nodup_cons] at hnodup
      cases ts with
      | nil => rfl
      | cons t' ts =>
        have hmem' : t' ∈ expiredPending db c.conversationId now := by
          rw [hE]
          exact List.mem_cons_of_mem _ List.mem_cons_self
        obtain ⟨ht', hconv', hp', -⟩ := mem_expiredPending.1 hmem'
        have heq := h.pending_eq ht hp ht' hp' (hconv.trans hconv'.symm)
        exact absurd (heq ▸ List.mem_cons_self) hnodup.1
    refine ⟨t, ht, hconv, hp, hexpired, ?_⟩
    simp only [reclaimExpired, hE, hnil, reclaim, Db.putConversation, hput, ← hseq, removeTail, hconv, ne_eq,
      not_true_eq_false, if_false, List.mem_singleton]

/-- what a reservation finds after reclaiming -/
structure Reclaimed (db : Db) (c : Conversation) (now : Instant) (c' : Conversation) (db' : Db) : Prop where
  wf : Wf db'
  mem : c' ∈ db'.conversations
  same : c'.conversationId = c.conversationId
  none_expired : ∀ t ∈ db'.turns, t.conversationId = c.conversationId → t.status = .pending → t.expired now = false
  kept : ∀ t ∈ db.turns, t.status = .completed → t ∈ db'.turns
  old : ∀ t ∈ db'.turns, t ∈ db.turns
  messages : db'.messages = db.messages

theorem reclaimExpired_spec {db : Db} (h : Wf db) {c : Conversation} (hc : c ∈ db.conversations) (now : Instant) :
    Reclaimed db c now (reclaimExpired db c now).1 (reclaimExpired db c now).2 := by
  rcases reclaimExpired_eq h hc now with ⟨heq, hnone⟩ | ⟨t, ht, hconv, hp, hexpired, heq⟩
  · rw [heq]
    exact ⟨h, hc, rfl, hnone, fun t ht _ => ht, fun t ht => ht, rfl⟩
  · rw [heq]
    refine ⟨wf_removeTail h ht hp, ?_, rfl, ?_, ?_, fun t' ht' => (mem_removeTail.1 ht').1, rfl⟩
    · exact List.mem_map.2 ⟨c, hc, if_pos hconv.symm⟩
    · intro t' ht' heq' hp'
      obtain ⟨ht', hne⟩ := mem_removeTail.1 ht'
      exact absurd (congrArg Turn.turnId (h.pending_eq ht' hp' ht hp (heq'.trans hconv.symm))) hne
    · intro t' ht' hcompleted
      refine mem_removeTail.2 ⟨ht', fun hid => ?_⟩
      rw [h.turn_eq ht' ht hid, hp] at hcompleted
      cases hcompleted

/-! ## What the three transactions do -/

theorem require_eq_ok {p : Prop} [Decidable p] {code : ErrorCode} {message : String} {u : Unit} :
    require p code message = .ok u ↔ p := by
  by_cases h : p <;> simp [require, h, raise]

/-- the conversation of a reservation -/
theorem ensureConversation_ok {db db' : Db} (h : Wf db) {workspaceId conversationId : Uuid} {actorId : String}
    {now : Instant} {c : Conversation}
    (hok : ensureConversation db workspaceId actorId conversationId now = .ok (c, db')) :
    Wf db' ∧ c ∈ db'.conversations ∧ c.actorId = actorId ∧ db'.turns = db.turns ∧ db'.messages = db.messages := by
  unfold ensureConversation at hok
  split at hok
  · rename_i c' hfind
    obtain ⟨rfl, rfl⟩ := Prod.mk.inj (Except.ok.inj hok)
    have hactor : c'.workspaceId = workspaceId ∧ c'.actorId = actorId := by simpa using List.find?_some hfind
    exact ⟨h, List.mem_of_find?_eq_some hfind, hactor.2, rfl, rfl⟩
  · simp only [bind_eq_ok, require_eq_ok, pure_eq_ok, Prod.mk.injEq] at hok
    obtain ⟨_, hnew, rfl, rfl⟩ := hok
    refine ⟨wf_insertConversation h ?_, List.mem_append_right _ (List.mem_singleton_self _), rfl, rfl, rfl⟩
    intro hmem
    obtain ⟨c', hc', heq⟩ := List.mem_map.1 hmem
    simpa [heq] using List.find?_eq_none.1 hnew c' hc'

/-- charging the budget rewrites conversations under their identifier and last sequence -/
theorem reserveUsage_ok {db db' : Db} {conversationId : Uuid} {actorId : String} {now : Instant} {limits : Limits}
    {estimatedTokens : Nat} (hok : reserveUsage db conversationId actorId now limits estimatedTokens = .ok db') :
    actorDailyTokenCount actorId (db.conversations.map fun c =>
        if c.actorId = actorId then normalizeUsage limits now c else c) + estimatedTokens ≤
      limits.dailyTokenLimitPerUser ∧
    db' = { db with
      conversations := (db.conversations.map fun c =>
        if c.actorId = actorId then normalizeUsage limits now c else c).map
          (charge conversationId now estimatedTokens) } := by
  simp only [reserveUsage, bind_eq_ok, require_eq_ok, pure_eq_ok] at hok
  obtain ⟨_, -, _, hlimit, rfl⟩ := hok
  exact ⟨hlimit, rfl⟩

/-- what charging the budget makes of a conversation -/
def chargedConversation (conversationId : Uuid) (actorId : String) (now : Instant) (limits : Limits)
    (estimatedTokens : Nat) (c : Conversation) : Conversation :=
  charge conversationId now estimatedTokens (if c.actorId = actorId then normalizeUsage limits now c else c)

theorem chargedConversation_id (conversationId : Uuid) (actorId : String) (now : Instant) (limits : Limits)
    (estimatedTokens : Nat) (c : Conversation) :
    (chargedConversation conversationId actorId now limits estimatedTokens c).conversationId = c.conversationId := by
  unfold chargedConversation charge
  split_ifs <;> rfl

theorem chargedConversation_lastSequence (conversationId : Uuid) (actorId : String) (now : Instant) (limits : Limits)
    (estimatedTokens : Nat) (c : Conversation) :
    (chargedConversation conversationId actorId now limits estimatedTokens c).lastSequence = c.lastSequence := by
  unfold chargedConversation charge
  split_ifs <;> rfl

/-- what a reservation commits -/
structure Reserves (db : Db) (r : ReserveRequest) (reservation : Reservation) (db' : Db) : Prop where
  wf : Wf db'
  messages : db'.messages = db.messages
  kept : ∀ t ∈ db.turns, t.status = .completed → t ∈ db'.turns
  old : ∀ t ∈ db'.turns, t.turnId = reservation.turnId ∨ t ∈ db.turns
  turn : ∀ t ∈ db'.turns, t.turnId = reservation.turnId → t.conversationId = reservation.conversationId ∧
    t.sequence = reservation.sequence ∧ t.status = .pending
  drawn : reservation.turnId = r.drawn.turnId ∨ ∃ t ∈ db.turns, t.turnId = reservation.turnId ∧
    t.conversationId = reservation.conversationId ∧ t.sequence = reservation.sequence

theorem renew_reserves {db : Db} {r : ReserveRequest} {c c' : Conversation} {db₁ : Db}
    (hr : Reclaimed db c r.now c' db₁) {existing : Turn} (hex : existing ∈ db₁.turns)
    (hconv : existing.conversationId = c'.conversationId) {reservation : Reservation} {db' : Db}
    (hok : renew db₁ r c' existing = .ok (reservation, db')) : Reserves db r reservation db' := by
  simp only [renew, bind_eq_ok, require_eq_ok, pure_eq_ok, Prod.mk.injEq] at hok
  obtain ⟨_, -, _, -, _, -, _, hp, _, -, rfl, rfl⟩ := hok
  let u : Turn := { existing with
    leaseToken := r.drawn.leaseToken
    leaseExpiresAt := some (addSeconds r.now chatReservationLeaseSeconds) }
  have hwf := wf_putTurn hr.wf hex hp (u := u) rfl rfl rfl rfl (fun _ => rfl) (l := []) (by simp)
    (fun hcompleted => by rw [show u.status = existing.status from rfl, hp] at hcompleted; cases hcompleted)
  rw [List.append_nil] at hwf
  have hmem {t : Turn} := mem_putTurn hr.wf hex (u := u) rfl (v := t)
  refine ⟨hwf, hr.messages, fun t ht hcompleted => ?_, fun t ht => ?_, fun t ht hid => ?_, Or.inr ?_⟩
  · refine hmem.2 (Or.inr ⟨hr.kept t ht hcompleted, fun hid => ?_⟩)
    rw [hr.wf.turn_eq (hr.kept t ht hcompleted) hex hid, hp] at hcompleted
    cases hcompleted
  · rcases hmem.1 ht with rfl | ⟨ht, -⟩
    · exact Or.inl rfl
    · exact Or.inr (hr.old t ht)
  · rcases hmem.1 ht with rfl | ⟨-, hne⟩
    · exact ⟨hconv, rfl, hp⟩
    · exact absurd hid hne
  · exact ⟨existing, hr.old existing hex, rfl, hconv, rfl⟩

theorem reserveNew_reserves {limits : Limits} {db : Db} {r : ReserveRequest} {c c' : Conversation} {db₁ : Db}
    (hr : Reclaimed db c r.now c' db₁)
    (hrequest : ∀ t ∈ db₁.turns, t.conversationId = c'.conversationId → t.requestId ≠ r.payload.requestId)
    {reservation : Reservation} {db' : Db} (hok : reserveNew limits db₁ r c' = .ok (reservation, db')) :
    Reserves db r reservation db' := by
  simp only [reserveNew, bind_eq_ok, require_eq_ok, pure_eq_ok, Prod.mk.injEq] at hok
  obtain ⟨_, hactive, _, hlast, charged, hcharged, _, hnew, rfl, rfl⟩ := hok
  obtain ⟨-, rfl⟩ := reserveUsage_ok hcharged
  let f := chargedConversation c'.conversationId r.actorId r.now limits r.estimatedTokens
  have hf : ∀ cs : List Conversation, (cs.map fun c =>
      if c.actorId = r.actorId then normalizeUsage limits r.now c else c).map
        (charge c'.conversationId r.now r.estimatedTokens) = cs.map f := fun cs => List.map_map
  simp only [hf] at hnew ⊢
  have hid := chargedConversation_id c'.conversationId r.actorId r.now limits r.estimatedTokens
  have hlast' := chargedConversation_lastSequence c'.conversationId r.actorId r.now limits r.estimatedTokens
  have hwf := wf_mapConversations hr.wf hid hlast'
  -- neither an expired nor an active turn is pending
  have hnone : ∀ t ∈ db₁.turns, t.conversationId = c'.conversationId → t.status ≠ .pending := by
    intro t ht heq hp
    have hexpired := hr.none_expired t ht (heq.trans hr.same) hp
    obtain ⟨e, he⟩ := Option.isSome_iff_exists.1 (hr.wf.leased t ht hp)
    refine hactive ⟨t, ht, heq, hp, ?_⟩
    rw [Turn.expired, he, Option.any_some, decide_eq_false_iff_not] at hexpired
    rw [Turn.active, he, Option.any_some, decide_eq_true_eq]
    exact not_le.1 hexpired
  have happ := wf_appendTurn hwf (t := newTurn r c'.conversationId) (List.mem_map_of_mem hr.mem) (hid c')
    (by rw [hlast', hlast]; rfl) rfl rfl hnew hrequest hnone
  refine ⟨happ, hr.messages, fun t ht hcompleted => ?_, fun t ht => ?_, fun t ht heq => ?_, Or.inl rfl⟩
  · exact List.mem_append_left _ (hr.kept t ht hcompleted)
  · rcases List.mem_append.1 ht with ht | ht
    · exact Or.inr (hr.old t ht)
    · exact Or.inl (List.mem_singleton.1 ht ▸ rfl)
  · rcases List.mem_append.1 ht with ht | ht
    · exact absurd (List.mem_map.2 ⟨t, ht, heq⟩) hnew
    · rw [List.mem_singleton.1 ht]
      exact ⟨rfl, rfl, rfl⟩

/-- **A reservation** keeps the completed turns, and names a pending turn. -/
theorem reserveTurn_reserves {limits : Limits} {db : Db} (h : Wf db) {r : ReserveRequest} {reservation : Reservation}
    {db' : Db} (hok : reserveTurn limits db r = .ok (reservation, db')) : Reserves db r reservation db' := by
  simp only [reserveTurn, bind_eq_ok] at hok
  obtain ⟨⟨c, db₀⟩, hensure, hok⟩ := hok
  obtain ⟨hwf, hc, -, hturns, hmessages⟩ := ensureConversation_ok h hensure
  have hr := reclaimExpired_spec hwf hc r.now
  have hreserves : Reserves db₀ r reservation db' := by
    dsimp only at hok
    split at hok
    · rename_i existing hfind
      have hconv : existing.conversationId = (reclaimExpired db₀ c r.now).1.conversationId := by
        have := List.find?_some hfind
        simp only [Bool.and_eq_true, decide_eq_true_eq] at this
        exact this.1
      exact renew_reserves hr (List.mem_of_find?_eq_some hfind) hconv hok
    · rename_i hfind
      refine reserveNew_reserves hr (fun t ht heq hreq => ?_) hok
      simpa [heq, hreq] using List.find?_eq_none.1 hfind t ht
  obtain ⟨hwf', hm, hkept, hold, hturn, hdrawn⟩ := hreserves
  rw [hturns] at hkept hold hdrawn
  exact ⟨hwf', hm.trans hmessages, hkept, hold, hturn, hdrawn⟩

theorem reservedTurn?_some {db : Db} {r : Reservation} {t : Turn} (h : reservedTurn? db r = some t) :
    t ∈ db.turns ∧ t.turnId = r.turnId ∧ t.conversationId = r.conversationId ∧ t.sequence = r.sequence := by
  have hfound := List.find?_some h
  simp only [Bool.and_eq_true, decide_eq_true_eq] at hfound
  exact ⟨List.mem_of_find?_eq_some h, hfound.1.1, hfound.1.2, hfound.2⟩

/-- what a completion checks and commits -/
structure Completes (db : Db) (r : CompleteRequest) (t : Turn) (db' : Db) : Prop where
  found : reservedTurn? db r.reservation = some t
  mem : t ∈ db.turns
  pending : t.status = .pending
  token : t.leaseToken = r.reservation.leaseToken
  active : t.active r.completedAt = true
  wf : Wf db'
  turns : db'.turns = (putTurn db (completed t r.completedAt)).turns

/-- **A completion** finds its turn pending under its own token, with a lease that has not expired. -/
theorem completeTurn_completes {db : Db} (h : Wf db) {r : CompleteRequest} {db' : Db}
    (hok : completeTurn db r = .ok db') : ∃ t, Completes db r t db' := by
  simp only [completeTurn, bind_eq_ok, require_eq_ok, pure_eq_ok] at hok
  obtain ⟨c, -, t, ht, _, ⟨hp, htoken⟩, _, hactive, _, -, _, -, sources, -, rfl⟩ := hok
  have hfound : reservedTurn? db r.reservation = some t := by
    unfold found at ht
    split at ht
    · cases ht
    · rename_i t' heq
      rw [heq, Except.ok.inj ht]
  obtain ⟨hmem, -, -, -⟩ := reservedTurn?_some hfound
  have hput := wf_putTurn h hmem hp (u := completed t r.completedAt) rfl rfl rfl rfl
    (fun hpending => by cases hpending) (l := [userMessage t r, assistantMessage t r sources])
    (fun m hm => by
      rcases List.mem_cons.1 hm with rfl | hm
      · exact ⟨rfl, rfl⟩
      · rw [List.mem_singleton.1 hm]
        exact ⟨rfl, rfl⟩)
    (fun _ role => by cases role <;> simp [userMessage, assistantMessage])
  have hwf := wf_mapConversations hput
    (f := fun c' => if c'.conversationId = c.conversationId then { c' with updatedAt := r.completedAt } else c')
    (fun c' => by split_ifs <;> rfl) (fun c' => by split_ifs <;> rfl)
  exact ⟨t, hfound, hmem, hp, htoken, hactive, hwf, rfl⟩

/-- **A release** changes nothing, or removes the pending turn that the reservation names. -/
theorem releaseReservation_eq {db : Db} (held : Option Conversation) {r : Reservation}
    (hissued : ∀ t ∈ db.turns, t.turnId = r.turnId → t.conversationId = r.conversationId ∧ t.sequence = r.sequence) :
    releaseReservation db held r = db ∨
      ∃ t ∈ db.turns, t.status = .pending ∧ releaseReservation db held r = removeTail db t := by
  unfold releaseReservation
  split
  · rename_i c t _ hfind
    have hfound := List.find?_some hfind
    simp only [Bool.and_eq_true, decide_eq_true_eq] at hfound
    have ht := List.mem_of_find?_eq_some hfind
    obtain ⟨hconv, hseq⟩ := hissued t ht hfound.1.1
    split_ifs with hlast
    · refine Or.inr ⟨t, ht, hfound.2, ?_⟩
      rw [removeTail, hconv, hseq]
    · exact Or.inl rfl
  · exact Or.inl rfl

/-! ## The service -/

/-- a completed turn: the reservation it was completed with, its row before, and when -/
structure Completion where
  reservation : Reservation
  turn : Turn
  completedAt : Instant
deriving DecidableEq, Repr

/-- tokens counted for a reservation of an actor dated on a day -/
structure Counted where
  actorId : String
  date : Date
  tokens : Nat
deriving DecidableEq, Repr

structure System where
  db : Db := {}
  /-- the next identifier that `uuid.uuid4()` draws -/
  nextId : Uuid := 0
  issued : List Reservation := []
  completions : List Completion := []
  counted : List Counted := []
deriving DecidableEq, Repr

def System.init : System := {}

inductive Action where
  | reserve (r : ReserveRequest)
  /-- `commits`: whether what follows the completion in its transaction succeeds -/
  | complete (r : CompleteRequest) (commits : Bool)
  | release (held : Option Conversation) (reservation : Reservation)
  | crash
deriving DecidableEq, Repr

/-- a request with the identifiers that are drawn for it -/
def draw (nextId : Uuid) (r : ReserveRequest) : ReserveRequest :=
  { r with drawn := ⟨nextId, nextId + 1, nextId + 2⟩ }

/-- the tokens that a reservation counts: none when it took over an earlier turn -/
def countedBy (r : ReserveRequest) (reservation : Reservation) : List Counted :=
  if reservation.turnId = r.drawn.turnId then [⟨r.actorId, date r.now, r.estimatedTokens⟩] else []

def step (limits : Limits) (s : System) : Action → System
  | .reserve r =>
    match reserveTurn limits s.db (draw s.nextId r) with
    | .error _ => { s with nextId := s.nextId + 3 }
    | .ok (reservation, db) =>
      { s with db, nextId := s.nextId + 3, issued := s.issued ++ [reservation]
               counted := s.counted ++ countedBy (draw s.nextId r) reservation }
  | .complete r commits =>
    if r.reservation ∈ s.issued ∧ commits = true then
      match completeTurn s.db r, reservedTurn? s.db r.reservation with
      | .ok db, some turn => { s with db, completions := s.completions ++ [⟨r.reservation, turn, r.completedAt⟩] }
      | _, _ => s
    else s
  | .release held reservation =>
    if reservation ∈ s.issued then { s with db := releaseReservation s.db held reservation } else s
  | .crash => s

/-- the joint invariant of the tables and the record -/
structure Inv (s : System) : Prop where
  wf : Wf s.db
  fresh : ∀ t ∈ s.db.turns, t.turnId < s.nextId
  freshIssued : ∀ r ∈ s.issued, r.turnId < s.nextId
  issued : ∀ r ∈ s.issued, ∀ t ∈ s.db.turns, t.turnId = r.turnId → t.conversationId = r.conversationId ∧
    t.sequence = r.sequence
  lasting : ∀ c ∈ s.completions, ∃ t ∈ s.db.turns, t.status = .completed ∧ t.turnId = c.turn.turnId ∧
    t.conversationId = c.turn.conversationId ∧ t.requestId = c.turn.requestId
  once : (s.completions.map fun c => c.turn.turnId).Nodup
  recorded : ∀ t ∈ s.db.turns, t.status = .completed → ∃ c ∈ s.completions, c.turn.turnId = t.turnId
  honest : ∀ c ∈ s.completions, c.turn.status = .pending ∧ c.turn.leaseToken = c.reservation.leaseToken ∧
    c.turn.active c.completedAt = true

theorem inv_init : Inv System.init where
  wf := wf_empty
  fresh _ h := absurd h List.not_mem_nil
  freshIssued _ h := absurd h List.not_mem_nil
  issued _ h := absurd h List.not_mem_nil
  lasting _ h := absurd h List.not_mem_nil
  once := List.nodup_nil
  recorded _ h := absurd h List.not_mem_nil
  honest _ h := absurd h List.not_mem_nil

section Steps

variable {limits : Limits} {s : System}

theorem step_reserve_error {r : ReserveRequest} {e : ChatError}
    (h : reserveTurn limits s.db (draw s.nextId r) = .error e) :
    step limits s (.reserve r) = { s with nextId := s.nextId + 3 } := by
  unfold step
  dsimp only
  rw [h]

theorem step_reserve_ok {r : ReserveRequest} {reservation : Reservation} {db : Db}
    (h : reserveTurn limits s.db (draw s.nextId r) = .ok (reservation, db)) :
    step limits s (.reserve r) =
      { s with db, nextId := s.nextId + 3, issued := s.issued ++ [reservation]
               counted := s.counted ++ countedBy (draw s.nextId r) reservation } := by
  unfold step
  dsimp only
  rw [h]

/-- a completion that is not committed leaves no trace -/
theorem step_complete (limits : Limits) (s : System) (r : CompleteRequest) (commits : Bool) :
    step limits s (.complete r commits) = s ∨ ∃ db turn, completeTurn s.db r = .ok db ∧
      reservedTurn? s.db r.reservation = some turn ∧ step limits s (.complete r commits) =
        { s with db, completions := s.completions ++ [⟨r.reservation, turn, r.completedAt⟩] } := by
  unfold step
  dsimp only
  split_ifs
  · split
    · rename_i db turn hok hturn
      exact Or.inr ⟨db, turn, hok, hturn, rfl⟩
    · exact Or.inl rfl
  · exact Or.inl rfl

theorem inv_reserve (h : Inv s) (r : ReserveRequest) : Inv (step limits s (.reserve r)) := by
  cases hok : reserveTurn limits s.db (draw s.nextId r) with
  | error e =>
    rw [step_reserve_error hok]
    refine ⟨h.wf, fun t ht => ?_, fun r hr => ?_, h.issued, h.lasting, h.once, h.recorded, h.honest⟩
    · exact Nat.lt_add_right 3 (h.fresh t ht)
    · exact Nat.lt_add_right 3 (h.freshIssued r hr)
  | ok p =>
    obtain ⟨reservation, db⟩ := p
    rw [step_reserve_ok hok]
    have hr := reserveTurn_reserves h.wf hok
    have hid : reservation.turnId < s.nextId + 3 := by
      rcases hr.drawn with hdrawn | ⟨t, ht, heq, -⟩
      · rw [hdrawn]
        exact Nat.add_lt_add_left (by decide) s.nextId
      · rw [← heq]
        exact Nat.lt_add_right 3 (h.fresh t ht)
    -- a turn that is not the reserved one was there before
    have hold : ∀ t ∈ db.turns, t.turnId ≠ reservation.turnId → t ∈ s.db.turns := fun t ht hne =>
      (hr.old t ht).resolve_left hne
    refine ⟨hr.wf, fun t ht => ?_, fun r' hr' => ?_, fun r' hr' t ht heq => ?_, fun c hc => ?_, h.once,
      fun t ht hcompleted => ?_, h.honest⟩
    · rcases hr.old t ht with heq | ht
      · exact heq ▸ hid
      · exact Nat.lt_add_right 3 (h.fresh t ht)
    · rcases List.mem_append.1 hr' with hr' | hr'
      · exact Nat.lt_add_right 3 (h.freshIssued r' hr')
      · rw [List.mem_singleton.1 hr']
        exact hid
    · rcases List.mem_append.1 hr' with hr' | hr'
      · rcases hr.old t ht with hsame | hbefore
        · -- the reserved turn is new, or it was there when `r'` was handed out
          rcases hr.drawn with hdrawn | ⟨t₀, h₀, heq₀, hconv₀, hseq₀⟩
          · have hlt := h.freshIssued r' hr'
            have hnew : reservation.turnId = s.nextId + 1 := hdrawn
            rw [← heq, hsame, hnew] at hlt
            exact absurd hlt (Nat.not_lt.2 (Nat.le_succ s.nextId))
          · obtain ⟨hconv, hseq, -⟩ := hr.turn t ht hsame
            have hbefore : t₀.turnId = r'.turnId := by rw [heq₀, ← hsame, heq]
            obtain ⟨hconv', hseq'⟩ := h.issued r' hr' t₀ h₀ hbefore
            exact ⟨by rw [hconv, ← hconv₀, hconv'], by rw [hseq, ← hseq₀, hseq']⟩
        · exact h.issued r' hr' t hbefore heq
      · rw [List.mem_singleton.1 hr'] at heq ⊢
        obtain ⟨hconv, hseq, -⟩ := hr.turn t ht heq
        exact ⟨hconv, hseq⟩
    · obtain ⟨t, ht, hcompleted, hrest⟩ := h.lasting c hc
      exact ⟨t, hr.kept t ht hcompleted, hcompleted, hrest⟩
    · rcases hr.old t ht with hsame | hbefore
      · obtain ⟨-, -, hp⟩ := hr.turn t ht hsame
        rw [hp] at hcompleted
        cases hcompleted
      · exact h.recorded t hbefore hcompleted

theorem inv_complete (h : Inv s) (r : CompleteRequest) (commits : Bool) :
    Inv (step limits s (.complete r commits)) := by
  rcases step_complete limits s r commits with heq | ⟨db, t, hok, hturn, heq⟩
  · rw [heq]
    exact h
  · rw [heq]
    obtain ⟨t', hc⟩ := completeTurn_completes h.wf hok
    obtain rfl : t = t' := Option.some.inj (hturn.symm.trans hc.found)
    have hmem {t' : Turn} : t' ∈ db.turns ↔ t' = completed t r.completedAt ∨ t' ∈ s.db.turns ∧ t'.turnId ≠ t.turnId := by
      rw [hc.turns]
      exact mem_putTurn h.wf hc.mem (u := completed t r.completedAt) rfl
    -- a completed turn is not the one that is completed now
    have hother : ∀ t' ∈ s.db.turns, t'.status = .completed → t'.turnId ≠ t.turnId := by
      intro t' ht' hcompleted hid
      rw [h.wf.turn_eq ht' hc.mem hid, hc.pending] at hcompleted
      cases hcompleted
    refine ⟨hc.wf, fun t' ht' => ?_, h.freshIssued, fun r' hr' t' ht' heq => ?_, fun c hcm => ?_, ?_,
      fun t' ht' hcompleted => ?_, fun c hcm => ?_⟩
    · rcases hmem.1 ht' with rfl | ⟨ht', -⟩
      · exact h.fresh t hc.mem
      · exact h.fresh t' ht'
    · rcases hmem.1 ht' with rfl | ⟨ht', -⟩
      · exact h.issued r' hr' t hc.mem heq
      · exact h.issued r' hr' t' ht' heq
    · rcases List.mem_append.1 hcm with hcm | hcm
      · obtain ⟨t', ht', hcompleted, hrest⟩ := h.lasting c hcm
        exact ⟨t', hmem.2 (Or.inr ⟨ht', hother t' ht' hcompleted⟩), hcompleted, hrest⟩
      · rw [List.mem_singleton.1 hcm]
        exact ⟨completed t r.completedAt, hmem.2 (Or.inl rfl), rfl, rfl, rfl, rfl⟩
    · rw [List.map_append, List.nodup_append]
      refine ⟨h.once, List.nodup_singleton _, fun a ha b hb heq => ?_⟩
      obtain ⟨c, hcm, rfl⟩ := List.mem_map.1 ha
      rw [List.map_singleton, List.mem_singleton] at hb
      obtain ⟨t', ht', hcompleted, hid, -⟩ := h.lasting c hcm
      exact hother t' ht' hcompleted (by rw [hid, heq, hb])
    · rcases hmem.1 ht' with rfl | ⟨ht', -⟩
      · exact ⟨_, List.mem_append_right _ (List.mem_singleton_self _), rfl⟩
      · obtain ⟨c, hcm, hid⟩ := h.recorded t' ht' hcompleted
        exact ⟨c, List.mem_append_left _ hcm, hid⟩
    · rcases List.mem_append.1 hcm with hcm | hcm
      · exact h.honest c hcm
      · rw [List.mem_singleton.1 hcm]
        exact ⟨hc.pending, hc.token, hc.active⟩

theorem inv_release (h : Inv s) (held : Option Conversation) (reservation : Reservation) :
    Inv (step limits s (.release held reservation)) := by
  unfold step
  dsimp only
  split_ifs with hissued
  · rcases releaseReservation_eq held (h.issued reservation hissued) with heq | ⟨t, ht, hp, heq⟩
    · rw [heq]
      exact h
    · rw [heq]
      have hkept : ∀ t' ∈ s.db.turns, t'.status = .completed → t' ∈ (removeTail s.db t).turns := by
        intro t' ht' hcompleted
        refine mem_removeTail.2 ⟨ht', fun hid => ?_⟩
        rw [h.wf.turn_eq ht' ht hid, hp] at hcompleted
        cases hcompleted
      refine ⟨wf_removeTail h.wf ht hp, fun t' ht' => h.fresh t' (mem_removeTail.1 ht').1, h.freshIssued,
        fun r' hr' t' ht' => h.issued r' hr' t' (mem_removeTail.1 ht').1, fun c hc => ?_, h.once,
        fun t' ht' => h.recorded t' (mem_removeTail.1 ht').1, h.honest⟩
      obtain ⟨t', ht', hcompleted, hrest⟩ := h.lasting c hc
      exact ⟨t', hkept t' ht' hcompleted, hcompleted, hrest⟩
  · exact h

theorem inv_step (h : Inv s) (a : Action) : Inv (step limits s a) := by
  cases a with
  | reserve r => exact inv_reserve h r
  | complete r commits => exact inv_complete h r commits
  | release held reservation => exact inv_release h held reservation
  | crash => exact h

end Steps

theorem inv_run (limits : Limits) (as : List Action) : Inv (Runs.run (step limits) System.init as) :=
  Runs.run_inv (P := Inv) (fun _ a h => inv_step h a) inv_init as

/-! ## The protocol -/

/-- what the protocol promises of a state and its record -/
structure Protocol (s : System) : Prop where
  onePending : ∀ t ∈ s.db.turns, ∀ t' ∈ s.db.turns, t.status = .pending → t'.status = .pending →
    t.conversationId = t'.conversationId → t = t'
  pendingLast : ∀ t ∈ s.db.turns, t.status = .pending → ∀ t' ∈ s.db.turns, t'.conversationId = t.conversationId →
    t'.sequence ≤ t.sequence
  turnIds : (s.db.turns.map Turn.turnId).Nodup
  sequences : ∀ t ∈ s.db.turns, ∀ t' ∈ s.db.turns, t.conversationId = t'.conversationId → t.sequence = t'.sequence →
    t = t'
  bounded : ∀ t ∈ s.db.turns, ∀ c ∈ s.db.conversations, c.conversationId = t.conversationId →
    t.sequence ≤ c.lastSequence
  completedOnce : (s.completions.map fun c => (c.turn.conversationId, c.turn.requestId)).Nodup
  answered : ∀ t ∈ s.db.turns, t.status = .completed → ∀ role, messageCount s.db t.turnId role = 1
  recorded : ∀ t ∈ s.db.turns, t.status = .completed → ∃ c ∈ s.completions, c.turn.turnId = t.turnId
  /-- no completion used a token that was superseded, or an expired lease -/
  honest : ∀ c ∈ s.completions, c.turn.status = .pending ∧ c.turn.leaseToken = c.reservation.leaseToken ∧
    c.turn.active c.completedAt = true

theorem Inv.completedOnce {s : System} (h : Inv s) :
    (s.completions.map fun c => (c.turn.conversationId, c.turn.requestId)).Nodup := by
  refine List.Nodup.map_on (fun a ha b hb heq => ?_) (List.Nodup.of_map _ h.once)
  obtain ⟨hconv, hreq⟩ := Prod.mk.inj heq
  obtain ⟨t, ht, -, hid, hc, hr⟩ := h.lasting a ha
  obtain ⟨t', ht', -, hid', hc', hr'⟩ := h.lasting b hb
  have hturn : t = t' := h.wf.requests t ht t' ht' (by rw [hc, hc', hconv]) (by rw [hr, hr', hreq])
  exact List.inj_on_of_nodup_map h.once ha hb (by rw [← hid, ← hid', hturn])

/-- **The turn protocol** holds after every sequence of actions. -/
theorem turn_protocol (limits : Limits) (as : List Action) : Protocol (Runs.run (step limits) System.init as) := by
  have h := inv_run limits as
  exact
    { onePending := fun t ht t' ht' hp hp' heq => h.wf.pending_eq ht hp ht' hp' heq
      pendingLast := fun t ht hp t' ht' heq => h.wf.le_of_pending ht hp ht' heq
      turnIds := h.wf.turnIds
      sequences := h.wf.sequences
      bounded := fun t ht c hc heq => h.wf.sequence_le ht hc heq
      completedOnce := h.completedOnce
      answered := h.wf.answered
      recorded := h.recorded
      honest := h.honest }

end AtoService.Chat
