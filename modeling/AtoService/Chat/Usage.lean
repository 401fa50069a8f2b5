/-
The daily token limit of an actor.

A conversation counts the tokens of one day, the day of the last reservation of its actor: a reservation dated on another
day sets the counters of all the actor's conversations to zero and dates them. `usages` is what the conversations count,
and the record of a run holds what was counted for each reservation.

- `tokens_normalized`: the tokens that a reservation is checked against are those counted on its own day.
- `Ledger`: the conversations of an actor are dated on one day, no later day was counted, and they count that day's
  tokens. `Ledger.charged`: a charge keeps it, unless it is dated before the conversations are.
- `daily_limit`: on no day do the tokens of an actor exceed the limit, as long as no charge is dated before the day on
  which the actor's conversations are dated.
Witness `limit_exceeded`: a reservation dated before midnight that arrives after one dated after midnight clears the
counter, and the next one exceeds the limit.
-/
import AtoService.Chat.Protocol

namespace AtoService.Chat

open AtoService.Results

/-- the tokens of an actor on a day -/
def tokensOn (actorId : String) (d : Date) (us : List Counted) : Nat :=
  ((us.filter fun u => u.actorId = actorId && u.date = d).map Counted.tokens).sum

/-- what a conversation counts -/
def Conversation.usage (c : Conversation) : Counted := ⟨c.actorId, c.usageDate, c.dailyTokenCount⟩

def usages (db : Db) : List Counted := db.conversations.map Conversation.usage

theorem tokensOn_append (a : String) (d : Date) (us vs : List Counted) :
    tokensOn a d (us ++ vs) = tokensOn a d us + tokensOn a d vs := by
  rw [tokensOn, List.filter_append, List.map_append, List.sum_append]
  rfl

theorem tokensOn_cons (a : String) (d : Date) (u : Counted) (us : List Counted) :
    tokensOn a d (u :: us) = (if u.actorId = a ∧ u.date = d then u.tokens else 0) + tokensOn a d us := by
  unfold tokensOn
  rw [List.filter_cons]
  by_cases h : u.actorId = a ∧ u.date = d <;> simp [h]

/-- a day on which nothing is dated counts nothing -/
theorem tokensOn_eq_zero {a : String} {d : Date} {us : List Counted}
    (h : ∀ u ∈ us, u.actorId = a → u.date = d → u.tokens = 0) : tokensOn a d us = 0 := by
  induction us with
  | nil => rfl
  | cons u us ih =>
    rw [tokensOn_cons, ih fun v hv => h v (List.mem_cons_of_mem _ hv)]
    split_ifs with hu
    · exact h u List.mem_cons_self hu.1 hu.2
    · rfl

/-- the tokens of an actor depend on the actor's entries only -/
theorem tokensOn_congr {a : String} (d : Date) {us vs : List Counted}
    (h : us.filter (fun u => u.actorId = a) = vs.filter fun u => u.actorId = a) : tokensOn a d us = tokensOn a d vs := by
  have hsplit : ∀ ws : List Counted, ws.filter (fun u => u.actorId = a && u.date = d) =
      (ws.filter fun u => u.actorId = a).filter fun u => u.date = d := by
    intro ws
    rw [List.filter_filter]
    exact List.filter_congr fun u _ => Bool.and_comm _ _
  rw [tokensOn, tokensOn, hsplit, hsplit, h]

/-! ## What a reservation is checked against -/

section

variable {limits : Limits} {now : Instant} {a : String}

/-- the counters of an actor's conversation, brought to the request -/
def normalized (limits : Limits) (now : Instant) (a : String) (c : Conversation) : Conversation :=
  if c.actorId = a then normalizeUsage limits now c else c

theorem normalized_actorId (c : Conversation) : (normalized limits now a c).actorId = c.actorId := by
  unfold normalized
  split_ifs <;> rfl

/-- **A reservation is checked against the tokens that are counted on its own day.** -/
theorem tokens_normalized (cs : List Conversation) :
    actorDailyTokenCount a (cs.map (normalized limits now a)) = tokensOn a (date now) (cs.map Conversation.usage) := by
  induction cs with
  | nil => rfl
  | cons c cs ih =>
    rw [List.map_cons, List.map_cons, tokensOn_cons, ← ih]
    unfold actorDailyTokenCount
    rw [List.filter_cons]
    by_cases hactor : c.actorId = a
    · have hcount : (normalized limits now a c).dailyTokenCount =
          if c.usageDate = date now then c.dailyTokenCount else 0 := by
        rw [normalized, if_pos hactor]
        rfl
      by_cases hdated : c.usageDate = date now <;>
        simp [normalized_actorId, hactor, hcount, Conversation.usage, hdated]
    · simp [normalized_actorId, hactor, Conversation.usage]

/-- what a charge makes of the entry of a conversation -/
theorem usage_charged (id : Uuid) (k : Nat) (c : Conversation) :
    (chargedConversation id a now limits k c).usage =
      if c.actorId = a then
        ⟨a, date now, (if c.usageDate = date now then c.dailyTokenCount else 0) +
          if c.conversationId = id then k else 0⟩
      else if c.conversationId = id then { c.usage with tokens := c.dailyTokenCount + k } else c.usage := by
  unfold chargedConversation charge
  by_cases ha : c.actorId = a
  · by_cases hid : c.conversationId = id <;> simp [ha, hid, normalizeUsage, Conversation.usage]
  · by_cases hid : c.conversationId = id <;> simp [ha, hid, Conversation.usage]

/-- charging a conversation of the actor adds to the actor's tokens of the day, once -/
theorem tokensOn_charged {cs : List Conversation} (hids : (cs.map Conversation.conversationId).Nodup) (id : Uuid)
    (howner : ∀ c ∈ cs, c.conversationId = id → c.actorId = a) (k : Nat) :
    tokensOn a (date now) ((cs.map (chargedConversation id a now limits k)).map Conversation.usage) =
      tokensOn a (date now) (cs.map Conversation.usage) + if id ∈ cs.map Conversation.conversationId then k else 0 := by
  induction cs with
  | nil => rfl
  | cons c cs ih =>
    rw [List.map_cons, List.nodup_cons] at hids
    have ih := ih hids.2 fun c' hc' => howner c' (List.mem_cons_of_mem _ hc')
    rw [List.map_cons, List.map_cons, List.map_cons, List.map_cons, tokensOn_cons, tokensOn_cons, ih, usage_charged]
    by_cases hid : c.conversationId = id
    · -- the identifiers are distinct, so no other conversation is charged
      have hnot : id ∉ cs.map Conversation.conversationId := hid ▸ hids.1
      have hactor := howner c List.mem_cons_self hid
      have hmem : id ∈ c.conversationId :: cs.map Conversation.conversationId := hid ▸ List.mem_cons_self
      rw [if_neg hnot, if_pos hactor, if_pos hmem]
      by_cases hdated : c.usageDate = date now
      · simp [hid, hdated, hactor, Conversation.usage]
        omega
      · simp [hid, hdated, Conversation.usage]
        omega
    · have hmem : id ∈ c.conversationId :: cs.map Conversation.conversationId ↔ id ∈ cs.map Conversation.conversationId := by
        rw [List.mem_cons, or_iff_right (Ne.symm hid)]
      simp only [hmem]
      by_cases hactor : c.actorId = a
      · by_cases hdated : c.usageDate = date now <;> simp [hid, hdated, hactor, Conversation.usage, Nat.add_assoc]
      · simp [hid, hactor, Conversation.usage]

end

/-! ## What a reservation charges -/

/-- what a charge makes of the entries of the conversations -/
structure Charges (limits : Limits) (r : ReserveRequest) (us us' : List Counted) : Prop where
  limit : tokensOn r.actorId (date r.now) us + r.estimatedTokens ≤ limits.dailyTokenLimitPerUser
  today : tokensOn r.actorId (date r.now) us' = tokensOn r.actorId (date r.now) us + r.estimatedTokens
  dated : ∀ u ∈ us', u.actorId = r.actorId → u.date = date r.now
  owned : ∃ u ∈ us', u.actorId = r.actorId
  others : us'.filter (fun u => u.actorId ≠ r.actorId) = us.filter fun u => u.actorId ≠ r.actorId

/-- the conversation of a reservation, in the entries: it was there, or it counts nothing yet -/
theorem ensureConversation_usages {db db' : Db} {workspaceId conversationId : Uuid} {actorId : String} {now : Instant}
    {c : Conversation} (hok : ensureConversation db workspaceId actorId conversationId now = .ok (c, db')) :
    db' = db ∨ c.conversationId ∉ db.conversations.map Conversation.conversationId ∧
      usages db' = usages db ++ [⟨actorId, date now, 0⟩] := by
  unfold ensureConversation at hok
  split at hok
  · exact Or.inl (Prod.mk.inj (Except.ok.inj hok)).2.symm
  · simp only [bind_eq_ok, require_eq_ok, pure_eq_ok, Prod.mk.injEq] at hok
    obtain ⟨_, hnew, rfl, rfl⟩ := hok
    refine Or.inr ⟨fun hmem => ?_, List.map_append⟩
    obtain ⟨c', hc', heq⟩ := List.mem_map.1 hmem
    simpa [heq] using List.find?_eq_none.1 hnew c' hc'

/-- rewriting the last sequence of conversations keeps the entries -/
theorem usages_setLastSequence (cs : List Conversation) (id : Uuid) (n : Nat) :
    (cs.map fun c => if c.conversationId = id then { c with lastSequence := n } else c).map Conversation.usage =
      cs.map Conversation.usage := by
  rw [List.map_map]
  refine List.map_congr_left fun c _ => ?_
  rw [Function.comp_apply]
  split_ifs <;> rfl

theorem usages_removeTail (db : Db) (t : Turn) : usages (removeTail db t) = usages db :=
  usages_setLastSequence db.conversations t.conversationId (t.sequence - 1)

theorem usages_reclaimExpired {db : Db} (h : Wf db) {c : Conversation} (hc : c ∈ db.conversations) (now : Instant) :
    usages (reclaimExpired db c now).2 = usages db ∧ (reclaimExpired db c now).1.actorId = c.actorId := by
  rcases reclaimExpired_eq h hc now with ⟨heq, -⟩ | ⟨t, -, -, -, -, heq⟩
  · rw [heq]
    exact ⟨rfl, rfl⟩
  · rw [heq]
    exact ⟨usages_removeTail db t, rfl⟩

/-- the entries after a new reservation -/
theorem reserveNew_usages {limits : Limits} {db db' : Db} {r : ReserveRequest} {c : Conversation}
    {reservation : Reservation} (hok : reserveNew limits db r c = .ok (reservation, db')) :
    tokensOn r.actorId (date r.now) (usages db) + r.estimatedTokens ≤ limits.dailyTokenLimitPerUser ∧
      usages db' = (db.conversations.map (chargedConversation c.conversationId r.actorId r.now limits
        r.estimatedTokens)).map Conversation.usage := by
  simp only [reserveNew, bind_eq_ok, require_eq_ok, pure_eq_ok, Prod.mk.injEq] at hok
  obtain ⟨_, -, _, -, charged, hcharged, _, -, -, hdb⟩ := hok
  obtain ⟨hlimit, rfl⟩ := reserveUsage_ok hcharged
  constructor
  · rw [usages, ← tokens_normalized]
    exact hlimit
  · rw [← hdb, usages]
    exact (usages_setLastSequence _ c.conversationId (r.payload.expectedSequence + 1)).trans
      (congrArg (List.map Conversation.usage) List.map_map)

/-- a conversation of another actor is not charged -/
theorem usage_others {cs : List Conversation} {id : Uuid} {a : String} {now : Instant} {limits : Limits} {k : Nat}
    (howner : ∀ c ∈ cs, c.conversationId = id → c.actorId = a) :
    ((cs.map (chargedConversation id a now limits k)).map Conversation.usage).filter (fun u => u.actorId ≠ a) =
      (cs.map Conversation.usage).filter fun u => u.actorId ≠ a := by
  induction cs with
  | nil => rfl
  | cons c cs ih =>
    have ih := ih fun c' hc' => howner c' (List.mem_cons_of_mem _ hc')
    rw [List.map_cons, List.map_cons, List.map_cons, List.filter_cons, List.filter_cons, ih, usage_charged]
    by_cases ha : c.actorId = a
    · simp [ha, Conversation.usage]
    · have hid : c.conversationId ≠ id := fun heq => ha (howner c List.mem_cons_self heq)
      rw [if_neg ha, if_neg hid]

theorem reserveNew_charges {limits : Limits} {db : Db} (h : Wf db) {r : ReserveRequest} {c : Conversation}
    (hc : c ∈ db.conversations) (hactor : c.actorId = r.actorId) {reservation : Reservation} {db' : Db}
    (hok : reserveNew limits db r c = .ok (reservation, db')) : Charges limits r (usages db) (usages db') := by
  obtain ⟨hlimit, husages⟩ := reserveNew_usages hok
  have howner : ∀ c' ∈ db.conversations, c'.conversationId = c.conversationId → c'.actorId = r.actorId := by
    intro c' hc' heq
    rw [h.conversation_eq hc' hc heq, hactor]
  rw [husages]
  refine ⟨hlimit, ?_, ?_, ?_, usage_others howner⟩
  · have hmem : c.conversationId ∈ db.conversations.map Conversation.conversationId := List.mem_map_of_mem hc
    rw [tokensOn_charged h.conversationIds c.conversationId howner, if_pos hmem]
    rfl
  · intro u hu heq
    obtain ⟨c₁, hc₁, rfl⟩ := List.mem_map.1 hu
    obtain ⟨c', -, rfl⟩ := List.mem_map.1 hc₁
    rw [usage_charged] at heq ⊢
    by_cases ha : c'.actorId = r.actorId
    · rw [if_pos ha]
    · rw [if_neg ha] at heq
      split_ifs at heq <;> exact absurd heq ha
  · refine ⟨_, List.mem_map_of_mem (List.mem_map_of_mem hc), ?_⟩
    rw [usage_charged, if_pos hactor]

/-- entries that count nothing change no charge -/
theorem Charges.of_append {limits : Limits} {r : ReserveRequest} {us us' : List Counted}
    (h : Charges limits r (us ++ [⟨r.actorId, date r.now, 0⟩]) us') : Charges limits r us us' := by
  have hsame : tokensOn r.actorId (date r.now) (us ++ [⟨r.actorId, date r.now, 0⟩]) =
      tokensOn r.actorId (date r.now) us := by
    rw [tokensOn_append, tokensOn_cons, if_pos ⟨rfl, rfl⟩]
    rfl
  obtain ⟨hlimit, htoday, hdated, howned, hothers⟩ := h
  rw [hsame] at hlimit htoday
  refine ⟨hlimit, htoday, hdated, howned, hothers.trans ?_⟩
  simp

/-- **A reservation** takes over a turn and charges nothing, or charges its tokens to the actor on its own day. -/
theorem reserveTurn_charges {limits : Limits} {db : Db} (h : Wf db) {r : ReserveRequest} {reservation : Reservation}
    {db' : Db} (hok : reserveTurn limits db r = .ok (reservation, db')) :
    usages db' = usages db ∧ reservation.turnId ∈ db.turns.map Turn.turnId ∨
      reservation.turnId = r.drawn.turnId ∧ Charges limits r (usages db) (usages db') := by
  simp only [reserveTurn, bind_eq_ok] at hok
  obtain ⟨⟨c, db₀⟩, hensure, hok⟩ := hok
  obtain ⟨hwf, hc, hactor, hturns, -⟩ := ensureConversation_ok h hensure
  have hr := reclaimExpired_spec hwf hc r.now
  obtain ⟨husages, hactor'⟩ := usages_reclaimExpired hwf hc r.now
  dsimp only at hok
  split at hok
  · rename_i existing hfind
    left
    have hex := hr.old existing (List.mem_of_find?_eq_some hfind)
    have hconv : existing.conversationId = c.conversationId := by
      have hfound := List.find?_some hfind
      simp only [Bool.and_eq_true, decide_eq_true_eq] at hfound
      exact hfound.1.trans hr.same
    simp only [renew, bind_eq_ok, require_eq_ok, pure_eq_ok, Prod.mk.injEq] at hok
    obtain ⟨_, -, _, -, _, -, _, -, _, -, rfl, rfl⟩ := hok
    rw [hturns] at hex
    refine ⟨?_, List.mem_map_of_mem hex⟩
    -- a conversation that has a turn is not a new one
    rcases ensureConversation_usages hensure with rfl | ⟨hnew, -⟩
    · exact husages
    · obtain ⟨c', hc', heq, -⟩ := h.owned existing hex
      exact absurd (List.mem_map.2 ⟨c', hc', heq.trans hconv⟩) hnew
  · right
    have hcharges := reserveNew_charges hr.wf hr.mem (hactor'.trans hactor) hok
    rw [husages] at hcharges
    simp only [reserveNew, bind_eq_ok, require_eq_ok, pure_eq_ok, Prod.mk.injEq] at hok
    obtain ⟨_, -, _, -, _, -, _, -, rfl, -⟩ := hok
    refine ⟨rfl, ?_⟩
    rcases ensureConversation_usages hensure with rfl | ⟨-, heq⟩
    · exact hcharges
    · rw [heq] at hcharges
      exact hcharges.of_append

theorem completeTurn_usages {db db' : Db} {r : CompleteRequest} (hok : completeTurn db r = .ok db') :
    usages db' = usages db := by
  simp only [completeTurn, bind_eq_ok, require_eq_ok, pure_eq_ok] at hok
  obtain ⟨c, -, t, -, _, -, _, -, _, -, _, -, sources, -, rfl⟩ := hok
  rw [usages, List.map_map]
  refine List.map_congr_left fun c' _ => ?_
  rw [Function.comp_apply]
  split_ifs <;> rfl

/-! ## The ledger -/

/-- how the entries `us` of the conversations stand to what was counted -/
structure Ledger (limits : Limits) (us counted : List Counted) : Prop where
  limit : ∀ a d, tokensOn a d counted ≤ limits.dailyTokenLimitPerUser
  owned : ∀ v ∈ counted, ∃ u ∈ us, u.actorId = v.actorId
  same : ∀ u ∈ us, ∀ u' ∈ us, u.actorId = u'.actorId → u.date = u'.date
  latest : ∀ v ∈ counted, ∀ u ∈ us, u.actorId = v.actorId → v.date ≤ u.date
  counts : ∀ u ∈ us, tokensOn u.actorId u.date us = tokensOn u.actorId u.date counted

theorem Ledger.empty (limits : Limits) : Ledger limits [] [] where
  limit _ _ := Nat.zero_le _
  owned _ h := absurd h List.not_mem_nil
  same _ h := absurd h List.not_mem_nil
  latest _ h := absurd h List.not_mem_nil
  counts _ h := absurd h List.not_mem_nil

/-- on a day that the conversations of an actor are not dated after, they count what was counted -/
theorem Ledger.counts_of_le {limits : Limits} {us counted : List Counted} (h : Ledger limits us counted) {a : String}
    {d : Date} (hd : ∀ u ∈ us, u.actorId = a → u.date ≤ d) : tokensOn a d us = tokensOn a d counted := by
  by_cases hex : ∃ u ∈ us, u.actorId = a ∧ u.date = d
  · obtain ⟨u, hu, rfl, rfl⟩ := hex
    exact h.counts u hu
  · push Not at hex
    rw [tokensOn_eq_zero fun u hu ha heq => absurd heq (hex u hu ha), tokensOn_eq_zero]
    intro v hv ha heq
    obtain ⟨u, hu, hua⟩ := h.owned v hv
    have hle := h.latest v hv u hu hua
    exact absurd (le_antisymm (hd u hu (hua.trans ha)) (heq ▸ hle)) (hex u hu (hua.trans ha))

/-- **A charge that is not dated before the conversations** keeps the ledger. -/
theorem Ledger.charged {limits : Limits} {us us' counted : List Counted} (h : Ledger limits us counted)
    {r : ReserveRequest} (hc : Charges limits r us us') (hd : ∀ u ∈ us, u.actorId = r.actorId → u.date ≤ date r.now) :
    Ledger limits us' (counted ++ [⟨r.actorId, date r.now, r.estimatedTokens⟩]) := by
  have htokens (a : String) (d : Date) : tokensOn a d (counted ++ [⟨r.actorId, date r.now, r.estimatedTokens⟩]) =
      tokensOn a d counted + if r.actorId = a ∧ date r.now = d then r.estimatedTokens else 0 := by
    rw [tokensOn_append, tokensOn_cons]
    rfl
  have htoday := h.counts_of_le hd
  -- another actor's entries are those it had
  have hother : ∀ u, u.actorId ≠ r.actorId → (u ∈ us' ↔ u ∈ us) := by
    intro u hne
    have hmem := congrArg (u ∈ ·) hc.others
    simpa [List.mem_filter, hne] using hmem
  refine ⟨fun a d => ?_, fun v hv => ?_, fun u hu u' hu' heq => ?_, fun v hv u hu heq => ?_, fun u hu => ?_⟩
  · rw [htokens]
    split_ifs with hsame
    · obtain ⟨rfl, rfl⟩ := hsame
      rw [← htoday]
      exact hc.limit
    · exact h.limit a d
  · by_cases ha : v.actorId = r.actorId
    · obtain ⟨u, hu, hua⟩ := hc.owned
      exact ⟨u, hu, hua.trans ha.symm⟩
    · rcases List.mem_append.1 hv with hv | hv
      · obtain ⟨u, hu, hua⟩ := h.owned v hv
        exact ⟨u, (hother u (hua ▸ ha)).2 hu, hua⟩
      · exact absurd (congrArg Counted.actorId (List.mem_singleton.1 hv)) ha
  · by_cases ha : u.actorId = r.actorId
    · rw [hc.dated u hu ha, hc.dated u' hu' (heq ▸ ha)]
    · exact h.same u ((hother u ha).1 hu) u' ((hother u' (heq ▸ ha)).1 hu') heq
  · by_cases ha : v.actorId = r.actorId
    · rw [hc.dated u hu (heq.trans ha)]
      rcases List.mem_append.1 hv with hv | hv
      · obtain ⟨u₀, hu₀, heq₀⟩ := h.owned v hv
        exact (h.latest v hv u₀ hu₀ heq₀).trans (hd u₀ hu₀ (heq₀.trans ha))
      · rw [List.mem_singleton.1 hv]
    · rcases List.mem_append.1 hv with hv | hv
      · exact h.latest v hv u ((hother u (heq ▸ ha)).1 hu) heq
      · exact absurd (congrArg Counted.actorId (List.mem_singleton.1 hv)) ha
  · rw [htokens]
    by_cases ha : u.actorId = r.actorId
    · rw [ha, hc.dated u hu ha, if_pos ⟨rfl, rfl⟩, hc.today, htoday]
    · rw [if_neg fun hsame => ha hsame.1.symm, Nat.add_zero, ← h.counts u ((hother u ha).1 hu)]
      refine tokensOn_congr u.date ?_
      have hfilter (ws : List Counted) : ws.filter (fun w => w.actorId = u.actorId) =
          (ws.filter fun w => w.actorId ≠ r.actorId).filter fun w => w.actorId = u.actorId := by
        rw [List.filter_filter]
        refine List.filter_congr fun w _ => ?_
        by_cases hw : w.actorId = u.actorId <;> simp [hw, ha]
      rw [hfilter us', hc.others, ← hfilter us]

/-! ## The limit -/

/-- no charge is dated before the day on which the actor's conversations are dated -/
def InOrder (limits : Limits) (s : System) : Action → Prop
  | .reserve r => ∀ reservation db, reserveTurn limits s.db (draw s.nextId r) = .ok (reservation, db) →
    countedBy (draw s.nextId r) reservation ≠ [] →
    ∀ c ∈ s.db.conversations, c.actorId = r.actorId → c.usageDate ≤ date r.now
  | _ => True

section

variable {limits : Limits} {s : System}

/-- the entries are the conversations' -/
theorem ledger_of_usages {db db' : Db} {counted : List Counted} (h : Ledger limits (usages db) counted)
    (heq : usages db' = usages db) : Ledger limits (usages db') counted := heq ▸ h

theorem ledger_step (hinv : Inv s) (h : Ledger limits (usages s.db) s.counted) {a : Action} (ha : InOrder limits s a) :
    Ledger limits (usages (step limits s a).db) (step limits s a).counted := by
  cases a with
  | reserve r =>
    cases hok : reserveTurn limits s.db (draw s.nextId r) with
    | error e =>
      rw [step_reserve_error hok]
      exact h
    | ok p =>
      obtain ⟨reservation, db⟩ := p
      rw [step_reserve_ok hok]
      rcases reserveTurn_charges hinv.wf hok with ⟨heq, hold⟩ | ⟨hnew, hcharges⟩
      · -- the turn that is taken over is older than the identifiers that are drawn
        have hne : reservation.turnId ≠ (draw s.nextId r).drawn.turnId := by
          obtain ⟨t, ht, hid⟩ := List.mem_map.1 hold
          rw [← hid]
          exact (Nat.lt_succ_of_lt (hinv.fresh t ht)).ne
        rw [countedBy, if_neg hne, List.append_nil]
        exact ledger_of_usages h heq
      · have hcounted : countedBy (draw s.nextId r) reservation = [⟨r.actorId, date r.now, r.estimatedTokens⟩] :=
          if_pos hnew
        rw [hcounted]
        refine h.charged (r := draw s.nextId r) hcharges fun u hu hactor => ?_
        obtain ⟨c, hc, rfl⟩ := List.mem_map.1 hu
        exact ha reservation db hok (hcounted ▸ List.cons_ne_nil _ _) c hc hactor
  | complete r commits =>
    rcases step_complete limits s r commits with heq | ⟨db, t, hok, -, heq⟩
    · rw [heq]
      exact h
    · rw [heq]
      exact ledger_of_usages h (completeTurn_usages hok)
  | release held reservation =>
    unfold step
    dsimp only
    split_ifs with hissued
    · rcases releaseReservation_eq held (hinv.issued reservation hissued) with heq | ⟨t, -, -, heq⟩
      · rw [heq]
        exact h
      · rw [heq]
        exact ledger_of_usages h (usages_removeTail s.db t)
    · exact h
  | crash => exact h

end

/-- **The daily token limit** holds in every run in which no charge is dated before the day on which the actor's
conversations are dated. -/
theorem daily_limit (limits : Limits) (as : List Action) (h : Runs.Along (step limits) (InOrder limits) System.init as)
    (actorId : String) (d : Date) :
    tokensOn actorId d (Runs.run (step limits) System.init as).counted ≤ limits.dailyTokenLimitPerUser := by
  have hrun : Inv (Runs.run (step limits) System.init as) ∧ Ledger limits
      (usages (Runs.run (step limits) System.init as).db) (Runs.run (step limits) System.init as).counted :=
    Runs.run_inv_along (P := fun s => Inv s ∧ Ledger limits (usages s.db) s.counted)
      (fun s a hs ha => ⟨inv_step hs.1 a, ledger_step hs.1 hs.2 ha⟩) ⟨inv_init, Ledger.empty limits⟩ h
  exact hrun.2.limit actorId d

namespace Samples

def limits : Limits := ⟨60, 10, 100000⟩

/-- a request of one actor in one workspace -/
def request (requestId : Uuid) (now : Instant) (estimatedTokens : Nat) : ReserveRequest where
  workspaceId := 1
  actorId := "actor"
  payload := ⟨"message", 1, requestId, 0, none⟩
  fingerprint := "fingerprint"
  context := ⟨"context", []⟩
  now := now
  estimatedTokens := estimatedTokens
  drawn := ⟨0, 0, 0⟩

/-- a reservation whose model call fails, so that it is released; the identifiers drawn for it start at `n` -/
def attempt (n : Uuid) (r : ReserveRequest) : List Action :=
  [.reserve r, .release none ⟨0, r.actorId, n + 1, 1, n + 2, r.context⟩]

/-- one second before midnight -/
def before : Instant := microsecondsPerDay - microsecondsPerSecond

/-- one second after midnight -/
def after : Instant := microsecondsPerDay + microsecondsPerSecond

end Samples

open Samples in
theorem daily_limit_small : tokensOn "actor" 1 (Runs.run (step limits) System.init
    (attempt 0 (request 7 before 90000) ++ attempt 3 (request 8 after 60000))).counted ≤ 100000 := by
  have hdated : ∀ c ∈ (Runs.run (step limits) System.init (attempt 0 (request 7 before 90000))).db.conversations,
      c.actorId = "actor" → c.usageDate ≤ date after := by
    decide
  have hfirst : Runs.Along (step limits) (InOrder limits) System.init (attempt 0 (request 7 before 90000)) :=
    ⟨fun _ _ _ _ c hc => absurd hc List.not_mem_nil, trivial, trivial⟩
  have hsecond : Runs.Along (step limits) (InOrder limits)
      (Runs.run (step limits) System.init (attempt 0 (request 7 before 90000))) (attempt 3 (request 8 after 60000)) :=
    ⟨fun _ _ _ _ => hdated, trivial, trivial⟩
  exact daily_limit limits _ (Runs.along_append.2 ⟨hfirst, hsecond⟩) "actor" 1

open Samples in
/-- **An earlier day clears the counter.** One request dated before midnight makes room for another after it. -/
theorem limit_exceeded : ¬∀ (limits : Limits) (as : List Action) (actorId : String) (d : Date),
    tokensOn actorId d (Runs.run (step limits) System.init as).counted ≤ limits.dailyTokenLimitPerUser := by
  intro h
  have hrun := h limits (attempt 0 (request 7 after 60000) ++ attempt 3 (request 8 before 8000) ++
    attempt 6 (request 9 after 60000)) "actor" 1
  revert hrun
  decide

end AtoService.Chat
