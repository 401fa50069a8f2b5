/-
The daily token limit of package chat.

A row counts the tokens of one user in the chats about one package revision, and the limit is one of the user. A call that
is dated on another day than its row sets the count of the row to zero, whichever of the two days is later.

- `reserveChatUsage_cases`: what a call does. A call that is refused may have written its row: the route answers with the
  error and its session commits.
- `daily_token_limit`: on no day do the tokens of a user exceed the limit, as long as no call is dated before a row of its
  user, and no other row of the user counts tokens of its day.
Witness `two_revisions`: one user asks about two revisions on one day, and each row has the whole limit.
-/
import AtoService.Chat.Usage
import AtoService.Lib.Rows

namespace AtoService.Chat.Package

open AtoService

structure ChatLimits where
  turnLimit : Int
  dailyTokenLimitPerUser : Nat
  rateLimitMaxRequests : Int
  rateLimitWindowSeconds : Int
deriving DecidableEq, Repr

structure PackageRevisionChatUsage where
  packageRevisionId : Uuid
  actorId : String
  rateWindowStartedAt : Instant
  rateWindowCount : Nat
  turnCount : Nat
  dailyTokenCount : Nat
  usageDate : Date
  updatedAt : Instant
deriving DecidableEq, Repr

inductive ChatUsageError where
  /-- `ChatLimitExceededError` -/
  | limitExceeded
  /-- `ChatRateLimitExceededError` -/
  | rateLimitExceeded
deriving DecidableEq, Repr

/-- a call of `reserve_chat_usage` -/
structure Call where
  packageRevisionId : Uuid
  actorId : String
  now : Instant
  estimatedTokens : Nat
  /-- whether the session of the request commits what the call wrote -/
  commits : Bool := true
deriving DecidableEq, Repr

abbrev Usages := List PackageRevisionChatUsage

/-- the primary key -/
def PackageRevisionChatUsage.key (u : PackageRevisionChatUsage) : Uuid × String := (u.packageRevisionId, u.actorId)

def Call.key (c : Call) : Uuid × String := (c.packageRevisionId, c.actorId)

/-- the count starts anew on another day -/
def resetDay (now : Instant) (u : PackageRevisionChatUsage) : PackageRevisionChatUsage :=
  if u.usageDate ≠ date now then { u with usageDate := date now, dailyTokenCount := 0 } else u

def resetWindow (limits : ChatLimits) (now : Instant) (u : PackageRevisionChatUsage) : PackageRevisionChatUsage :=
  if limits.rateLimitWindowSeconds * microsecondsPerSecond ≤ now - u.rateWindowStartedAt then
    { u with rateWindowStartedAt := now, rateWindowCount := 0 }
  else u

def firstUsage (c : Call) : PackageRevisionChatUsage where
  packageRevisionId := c.packageRevisionId
  actorId := c.actorId
  rateWindowStartedAt := c.now
  rateWindowCount := 1
  turnCount := 1
  dailyTokenCount := c.estimatedTokens
  usageDate := date c.now
  updatedAt := c.now

/-- the row as the call leaves it, and the error that it raises -/
def chargeUsage (limits : ChatLimits) (c : Call) (u : PackageRevisionChatUsage) :
    PackageRevisionChatUsage × Option ChatUsageError :=
  let u := resetDay c.now u
  if limits.turnLimit ≤ u.turnCount then (u, some .limitExceeded)
  else
    let u := resetWindow limits c.now u
    if limits.rateLimitMaxRequests ≤ u.rateWindowCount then (u, some .rateLimitExceeded)
    else if limits.dailyTokenLimitPerUser < u.dailyTokenCount + c.estimatedTokens then (u, some .limitExceeded)
    else
      ({ u with
          rateWindowCount := u.rateWindowCount + 1
          turnCount := u.turnCount + 1
          dailyTokenCount := u.dailyTokenCount + c.estimatedTokens
          updatedAt := c.now }, none)

/-- the rows as the call leaves them, and the error that it raises -/
def reserveChatUsage (limits : ChatLimits) (rows : Usages) (c : Call) : Usages × Option ChatUsageError :=
  match Rows.get? PackageRevisionChatUsage.key c.key rows with
  | none =>
    if limits.turnLimit < 1 then (rows, some .limitExceeded)
    else if limits.dailyTokenLimitPerUser < c.estimatedTokens then (rows, some .limitExceeded)
    else if limits.rateLimitMaxRequests < 1 then (rows, some .rateLimitExceeded)
    else (rows ++ [firstUsage c], none)
  | some u =>
    let (charged, error) := chargeUsage limits c u
    (Rows.put PackageRevisionChatUsage.key charged rows, error)

structure State where
  rows : Usages := []
  /-- the successful reservations -/
  counted : List Counted := []
deriving DecidableEq, Repr

def State.init : State := {}

def step (limits : ChatLimits) (s : State) (c : Call) : State :=
  if c.commits then
    match reserveChatUsage limits s.rows c with
    | (rows, none) => ⟨rows, s.counted ++ [⟨c.actorId, date c.now, c.estimatedTokens⟩]⟩
    | (rows, some _) => ⟨rows, s.counted⟩
  else s

/-! ## What a call does -/

/-- what a row counts on the day of a call -/
def countOn (now : Instant) (u : PackageRevisionChatUsage) : Nat := if u.usageDate = date now then u.dailyTokenCount else 0

/-- the row that a call leaves for its user and revision: it is dated on the day of the call, and has the tokens of that
day -/
structure Charged (limits : ChatLimits) (c : Call) (before : Nat) (u : PackageRevisionChatUsage) (charge : Nat) : Prop where
  key : u.key = c.key
  dated : u.usageDate = date c.now
  count : u.dailyTokenCount = before + charge

theorem resetDay_spec (c : Call) {u : PackageRevisionChatUsage} (h : u.key = c.key) :
    (resetDay c.now u).key = c.key ∧ (resetDay c.now u).usageDate = date c.now ∧
      (resetDay c.now u).dailyTokenCount = countOn c.now u := by
  unfold resetDay countOn
  by_cases hdate : u.usageDate = date c.now
  · rw [if_neg (not_not.2 hdate), if_pos hdate]
    exact ⟨h, hdate, rfl⟩
  · rw [if_pos hdate, if_neg hdate]
    exact ⟨h, rfl, rfl⟩

theorem resetWindow_spec (limits : ChatLimits) (now : Instant) (u : PackageRevisionChatUsage) :
    (resetWindow limits now u).key = u.key ∧ (resetWindow limits now u).usageDate = u.usageDate ∧
      (resetWindow limits now u).dailyTokenCount = u.dailyTokenCount := by
  unfold resetWindow
  split_ifs <;> exact ⟨rfl, rfl, rfl⟩

theorem chargeUsage_spec (limits : ChatLimits) (c : Call) {u : PackageRevisionChatUsage} (h : u.key = c.key) :
    ((chargeUsage limits c u).2 ≠ none ∧ Charged limits c (countOn c.now u) (chargeUsage limits c u).1 0) ∨
      ((chargeUsage limits c u).2 = none ∧
        countOn c.now u + c.estimatedTokens ≤ limits.dailyTokenLimitPerUser ∧
        Charged limits c (countOn c.now u) (chargeUsage limits c u).1 c.estimatedTokens) := by
  obtain ⟨hkey, hdated, hcount⟩ := resetDay_spec c h
  obtain ⟨hkey', hdated', hcount'⟩ := resetWindow_spec limits c.now (resetDay c.now u)
  unfold chargeUsage
  simp only
  split_ifs with hturn hrate hdaily
  · exact Or.inl ⟨Option.some_ne_none _, hkey, hdated, hcount⟩
  · exact Or.inl ⟨Option.some_ne_none _, hkey'.trans hkey, hdated'.trans hdated, hcount'.trans hcount⟩
  · exact Or.inl ⟨Option.some_ne_none _, hkey'.trans hkey, hdated'.trans hdated, hcount'.trans hcount⟩
  · have hsum : (resetWindow limits c.now (resetDay c.now u)).dailyTokenCount = countOn c.now u := hcount'.trans hcount
    rw [hsum, not_lt] at hdaily
    refine Or.inr ⟨rfl, hdaily, hkey'.trans hkey, hdated'.trans hdated, ?_⟩
    show _ + c.estimatedTokens = _
    rw [hsum]

/-- the tokens that the row of a call counts on its day, if there is a row -/
def rowCount (rows : Usages) (c : Call) : Nat :=
  ((Rows.get? PackageRevisionChatUsage.key c.key rows).map (countOn c.now)).getD 0

/-- **What a call does**: nothing, or it writes the row of its user and revision; a call that succeeds adds its tokens to
those of the row, within the limit. -/
theorem reserveChatUsage_cases (limits : ChatLimits) (rows : Usages) (c : Call) :
    (reserveChatUsage limits rows c).2 ≠ none ∧ (reserveChatUsage limits rows c).1 = rows ∨
      ∃ u charge, Charged limits c (rowCount rows c) u charge ∧
        ((reserveChatUsage limits rows c).2 ≠ none ∧ charge = 0 ∨
          (reserveChatUsage limits rows c).2 = none ∧ charge = c.estimatedTokens ∧
            rowCount rows c + charge ≤ limits.dailyTokenLimitPerUser) ∧
        ((reserveChatUsage limits rows c).1 = Rows.put PackageRevisionChatUsage.key u rows ∧
            c.key ∈ rows.map PackageRevisionChatUsage.key ∨
          (reserveChatUsage limits rows c).1 = rows ++ [u] ∧ c.key ∉ rows.map PackageRevisionChatUsage.key) := by
  unfold reserveChatUsage rowCount
  cases hrow : Rows.get? PackageRevisionChatUsage.key c.key rows with
  | none =>
    have hnew : c.key ∉ rows.map PackageRevisionChatUsage.key := by
      rw [← Rows.get?_isSome, hrow]
      exact Bool.false_ne_true
    simp only [Option.map_none, Option.getD_none, Nat.zero_add]
    split_ifs with hturn hdaily hrate
    · exact Or.inl ⟨Option.some_ne_none _, rfl⟩
    · exact Or.inl ⟨Option.some_ne_none _, rfl⟩
    · exact Or.inl ⟨Option.some_ne_none _, rfl⟩
    · exact Or.inr ⟨firstUsage c, c.estimatedTokens, ⟨rfl, rfl, (Nat.zero_add _).symm⟩, Or.inr ⟨rfl, rfl, not_lt.1 hdaily⟩,
        Or.inr ⟨rfl, hnew⟩⟩
  | some u =>
    obtain ⟨hmem, hkey⟩ := Rows.mem_of_get? hrow
    have hold : c.key ∈ rows.map PackageRevisionChatUsage.key := List.mem_map.2 ⟨u, hmem, hkey⟩
    simp only [Option.map_some, Option.getD_some]
    rcases chargeUsage_spec limits c hkey with ⟨herror, hcharged⟩ | ⟨hok, hlimit, hcharged⟩
    · exact Or.inr ⟨_, 0, hcharged, Or.inl ⟨herror, rfl⟩, Or.inl ⟨rfl, hold⟩⟩
    · exact Or.inr ⟨_, c.estimatedTokens, hcharged, Or.inr ⟨hok, rfl, hlimit⟩, Or.inl ⟨rfl, hold⟩⟩

/-! ## The tokens of a day -/

/-- what a row counts -/
def PackageRevisionChatUsage.entry (u : PackageRevisionChatUsage) : Counted := ⟨u.actorId, u.usageDate, u.dailyTokenCount⟩

def entries (rows : Usages) : List Counted := rows.map PackageRevisionChatUsage.entry

/-- no call is dated before a row of its user, and no other row of the user counts tokens of its day -/
structure InOrder (rows : Usages) (c : Call) : Prop where
  latest : ∀ u ∈ rows, u.actorId = c.actorId → u.usageDate ≤ date c.now
  alone : ∀ u ∈ rows, u.actorId = c.actorId → u.packageRevisionId ≠ c.packageRevisionId → u.usageDate = date c.now →
    u.dailyTokenCount = 0

def Condition (s : State) (c : Call) : Prop := c.commits = true → InOrder s.rows c

/-- how the rows stand to the successful reservations -/
structure Ledger (limits : ChatLimits) (s : State) : Prop where
  once : (s.rows.map PackageRevisionChatUsage.key).Nodup
  limit : ∀ a d, tokensOn a d s.counted ≤ limits.dailyTokenLimitPerUser
  latest : ∀ v ∈ s.counted, ∃ u ∈ s.rows, u.actorId = v.actorId ∧ v.date ≤ u.usageDate
  counts : ∀ a d, (∀ u ∈ s.rows, u.actorId = a → u.usageDate ≤ d) → tokensOn a d s.counted = tokensOn a d (entries s.rows)

section

variable {limits : ChatLimits} {rows : Usages} {c : Call}

/-- where the other rows count nothing, the tokens of the day are those of the row -/
theorem tokensOn_of_alone (hnodup : (rows.map PackageRevisionChatUsage.key).Nodup)
    (halone : ∀ u ∈ rows, u.actorId = c.actorId → u.packageRevisionId ≠ c.packageRevisionId →
      u.usageDate = date c.now → u.dailyTokenCount = 0) :
    tokensOn c.actorId (date c.now) (entries rows) = rowCount rows c := by
  induction rows with
  | nil => rfl
  | cons u rows ih =>
    rw [List.map_cons, List.nodup_cons] at hnodup
    rw [List.forall_mem_cons] at halone
    have hrest := ih hnodup.2 halone.2
    have hhead : (entries (u :: rows)) = u.entry :: entries rows := rfl
    rw [hhead, tokensOn_cons]
    by_cases hkey : u.key = c.key
    · obtain ⟨hrevision, hactor⟩ := Prod.mk.inj hkey
      have hnone : Rows.get? PackageRevisionChatUsage.key c.key rows = none := by
        rw [← Option.not_isSome_iff_eq_none, Rows.get?_isSome, ← hkey]
        exact hnodup.1
      have hfound : Rows.get? PackageRevisionChatUsage.key c.key (u :: rows) = some u := by
        rw [Rows.get?, List.find?_cons_of_pos (by simpa using hkey)]
      rw [hrest, rowCount, rowCount, hnone, hfound]
      simp [PackageRevisionChatUsage.entry, hactor, countOn]
    · have hskip : Rows.get? PackageRevisionChatUsage.key c.key (u :: rows) =
          Rows.get? PackageRevisionChatUsage.key c.key rows := by
        rw [Rows.get?, List.find?_cons_of_neg (by simpa using hkey), Rows.get?]
      have hzero : (if u.entry.actorId = c.actorId ∧ u.entry.date = date c.now then u.entry.tokens else 0) = 0 := by
        split_ifs with hsame
        · refine halone.1 hsame.1 ?_ hsame.2
          intro hrevision
          exact hkey (Prod.ext hrevision hsame.1)
        · rfl
      rw [hzero, hrest, Nat.zero_add, rowCount, rowCount, hskip]

theorem mem_put_iff {u : PackageRevisionChatUsage} (hkey : u.key = c.key)
    (hmem : c.key ∈ rows.map PackageRevisionChatUsage.key) {v : PackageRevisionChatUsage} :
    v ∈ Rows.put PackageRevisionChatUsage.key u rows ↔ v = u ∨ v ∈ rows ∧ v.key ≠ c.key := by
  rw [Rows.mem_put (hkey ▸ hmem), hkey]

end

/-- the rows that a call leaves: its row, and the others as they were -/
structure Written (rows : Usages) (c : Call) (u : PackageRevisionChatUsage) (rows' : Usages) : Prop where
  once : (rows'.map PackageRevisionChatUsage.key).Nodup
  mem : ∀ v, v ∈ rows' ↔ v = u ∨ v ∈ rows ∧ v.key ≠ c.key

theorem written_of_cases {limits : ChatLimits} {rows rows' : Usages} {c : Call} {u : PackageRevisionChatUsage}
    {before charge : Nat} (hcharged : Charged limits c before u charge)
    (hnodup : (rows.map PackageRevisionChatUsage.key).Nodup)
    (h : rows' = Rows.put PackageRevisionChatUsage.key u rows ∧ c.key ∈ rows.map PackageRevisionChatUsage.key ∨
      rows' = rows ++ [u] ∧ c.key ∉ rows.map PackageRevisionChatUsage.key) : Written rows c u rows' := by
  rcases h with ⟨rfl, hmem⟩ | ⟨rfl, hnew⟩
  · constructor
    · rw [Rows.keys_put]
      exact hnodup
    · exact fun v => mem_put_iff hcharged.key hmem
  · constructor
    · rw [List.map_append, List.nodup_append]
      refine ⟨hnodup, List.nodup_singleton _, ?_⟩
      intro k hk k' hk' heq
      rw [List.map_singleton, List.mem_singleton] at hk'
      exact hnew (hcharged.key ▸ hk' ▸ heq ▸ hk)
    · intro v
      rw [List.mem_append, List.mem_singleton, or_comm]
      have hother : v ∈ rows → v.key ≠ c.key := fun hv heq => hnew (heq ▸ List.mem_map_of_mem hv)
      constructor
      · rintro (hv | hv)
        · exact Or.inl hv
        · exact Or.inr ⟨hv, hother hv⟩
      · rintro (hv | hv)
        · exact Or.inl hv
        · exact Or.inr hv.1

/-- the tokens of another user -/
theorem tokensOn_others {limits : ChatLimits} {rows rows' : Usages} {c : Call} {u : PackageRevisionChatUsage}
    {before charge : Nat} (hcharged : Charged limits c before u charge)
    (h : rows' = Rows.put PackageRevisionChatUsage.key u rows ∧ c.key ∈ rows.map PackageRevisionChatUsage.key ∨
      rows' = rows ++ [u] ∧ c.key ∉ rows.map PackageRevisionChatUsage.key) {a : String} (ha : a ≠ c.actorId) (d : Date) :
    tokensOn a d (entries rows') = tokensOn a d (entries rows) := by
  have hactor : u.actorId = c.actorId := (Prod.mk.inj hcharged.key).2
  rcases h with ⟨rfl, -⟩ | ⟨rfl, -⟩
  · have hselected (ws : Usages) : (entries ws).filter (fun v => v.actorId = a) =
        entries (ws.filter fun w => w.actorId = a) := List.filter_map
    refine tokensOn_congr d ?_
    rw [hselected, hselected, Rows.filter_put_of_false u rows (fun w => w.actorId = a)]
    · intro w hkey
      have hw : w.actorId = c.actorId := (Prod.mk.inj hkey).2.trans hactor
      exact decide_eq_false fun heq => ha (heq.symm.trans hw)
    · exact decide_eq_false fun heq => ha (heq.symm.trans hactor)
  · have happend : entries (rows ++ [u]) = entries rows ++ [u.entry] := List.map_append
    have hzero : tokensOn a d [u.entry] = 0 := by
      refine tokensOn_eq_zero fun v hv heq _ => ?_
      rw [List.mem_singleton.1 hv] at heq
      exact absurd (heq.symm.trans hactor) ha
    rw [happend, tokensOn_append, hzero, Nat.add_zero]

/-! ## The ledger -/

theorem Ledger.init (limits : ChatLimits) : Ledger limits .init where
  once := List.nodup_nil
  limit _ _ := Nat.zero_le _
  latest _ h := absurd h List.not_mem_nil
  counts _ _ _ := rfl

/-- what a call leaves of the ledger, whether it adds tokens or not -/
theorem Ledger.written {limits : ChatLimits} {s : State} (h : Ledger limits s) {c : Call} (hc : InOrder s.rows c)
    {u : PackageRevisionChatUsage} {charge : Nat} (hcharged : Charged limits c (rowCount s.rows c) u charge)
    (hlimit : rowCount s.rows c + charge ≤ limits.dailyTokenLimitPerUser) {rows' : Usages} {counted' : List Counted}
    (hrows : rows' = Rows.put PackageRevisionChatUsage.key u s.rows ∧
        c.key ∈ s.rows.map PackageRevisionChatUsage.key ∨
      rows' = s.rows ++ [u] ∧ c.key ∉ s.rows.map PackageRevisionChatUsage.key)
    (hcounted : ∀ a d, tokensOn a d counted' =
      tokensOn a d s.counted + if c.actorId = a ∧ date c.now = d then charge else 0)
    (hnew : ∀ v ∈ counted', v ∈ s.counted ∨ v.actorId = c.actorId ∧ v.date = date c.now) :
    Ledger limits ⟨rows', counted'⟩ := by
  have hwritten := written_of_cases hcharged h.once hrows
  have hactor : u.actorId = c.actorId := (Prod.mk.inj hcharged.key).2
  have htoday : tokensOn c.actorId (date c.now) s.counted = rowCount s.rows c :=
    (h.counts _ _ hc.latest).trans (tokensOn_of_alone h.once hc.alone)
  have hlatest : ∀ v ∈ counted', ∃ w ∈ rows', w.actorId = v.actorId ∧ v.date ≤ w.usageDate := by
    intro v hv
    rcases hnew v hv with hv | ⟨hva, hvd⟩
    · obtain ⟨w, hw, hwa, hle⟩ := h.latest v hv
      by_cases hkey : w.key = c.key
      · have hwc : w.actorId = c.actorId := (Prod.mk.inj hkey).2
        refine ⟨u, (hwritten.mem u).2 (Or.inl rfl), hactor.trans (hwc.symm.trans hwa), ?_⟩
        rw [hcharged.dated]
        exact hle.trans (hc.latest w hw hwc)
      · exact ⟨w, (hwritten.mem w).2 (Or.inr ⟨hw, hkey⟩), hwa, hle⟩
    · exact ⟨u, (hwritten.mem u).2 (Or.inl rfl), hactor.trans hva.symm, by rw [hvd, hcharged.dated]⟩
  -- the rows of the user are dated on the day of the call or before
  have hdated : ∀ w ∈ rows', w.actorId = c.actorId → w.usageDate ≤ date c.now := by
    intro w hw hwa
    rcases (hwritten.mem w).1 hw with rfl | ⟨hw, -⟩
    · exact hcharged.dated.le
    · exact hc.latest w hw hwa
  refine ⟨hwritten.once, fun a d => ?_, hlatest, fun a d hrows' => ?_⟩
  · show tokensOn a d counted' ≤ _
    rw [hcounted]
    split_ifs with hsame
    · obtain ⟨rfl, rfl⟩ := hsame
      rw [htoday]
      exact hlimit
    · exact h.limit a d
  · show tokensOn a d counted' = tokensOn a d (entries rows')
    by_cases ha : a = c.actorId
    · subst ha
      have hle : date c.now ≤ d := by
        rw [← hcharged.dated]
        exact hrows' u ((hwritten.mem u).2 (Or.inl rfl)) hactor
      rcases hle.eq_or_lt with rfl | hlt
      · have halone : ∀ w ∈ rows', w.actorId = c.actorId → w.packageRevisionId ≠ c.packageRevisionId →
            w.usageDate = date c.now → w.dailyTokenCount = 0 := by
          intro w hw hwa hrevision hwd
          rcases (hwritten.mem w).1 hw with rfl | ⟨hw, -⟩
          · exact absurd (Prod.mk.inj hcharged.key).1 hrevision
          · exact hc.alone w hw hwa hrevision hwd
        have hrow : rowCount rows' c = rowCount s.rows c + charge := by
          have hfound : Rows.get? PackageRevisionChatUsage.key c.key rows' = some u :=
            (Rows.get?_eq_some hwritten.once).2 ⟨(hwritten.mem u).2 (Or.inl rfl), hcharged.key⟩
          rw [rowCount, hfound, Option.map_some, Option.getD_some, countOn, if_pos hcharged.dated, hcharged.count]
        rw [hcounted, if_pos ⟨rfl, rfl⟩, htoday, tokensOn_of_alone hwritten.once halone, hrow]
      · have hnone : tokensOn c.actorId d counted' = 0 := by
          refine tokensOn_eq_zero fun v hv hva hvd => ?_
          obtain ⟨w, hw, hwa, hle'⟩ := hlatest v hv
          rw [hvd] at hle'
          exact absurd (hle'.trans (hdated w hw (hwa.trans hva))) (not_le.2 hlt)
        have hnone' : tokensOn c.actorId d (entries rows') = 0 := by
          refine tokensOn_eq_zero fun v hv hva hvd => ?_
          obtain ⟨w, hw, rfl⟩ := List.mem_map.1 hv
          have hbound : w.usageDate ≤ date c.now := hdated w hw hva
          have hday : w.usageDate = d := hvd
          rw [hday] at hbound
          exact absurd hbound (not_le.2 hlt)
        rw [hnone, hnone']
    · rw [hcounted, if_neg fun hsame => ha hsame.1.symm, Nat.add_zero, tokensOn_others hcharged hrows ha]
      refine h.counts a d fun w hw hwa => ?_
      refine hrows' w ((hwritten.mem w).2 (Or.inr ⟨hw, fun hkey => ?_⟩)) hwa
      exact ha (hwa.symm.trans (Prod.mk.inj hkey).2)

theorem ledger_step {limits : ChatLimits} {s : State} (h : Ledger limits s) {c : Call} (hc : Condition s c) :
    Ledger limits (step limits s c) := by
  unfold step
  split_ifs with hcommits
  · have horder := hc hcommits
    have htoday : tokensOn c.actorId (date c.now) s.counted = rowCount s.rows c :=
      (h.counts _ _ horder.latest).trans (tokensOn_of_alone h.once horder.alone)
    have hbefore : rowCount s.rows c + 0 ≤ limits.dailyTokenLimitPerUser := by
      rw [Nat.add_zero, ← htoday]
      exact h.limit _ _
    cases hresult : reserveChatUsage limits s.rows c with
    | mk rows' error =>
      have hcases := reserveChatUsage_cases limits s.rows c
      rw [hresult] at hcases
      rcases hcases with ⟨hsome, hrows⟩ | ⟨u, charge, hcharged, hcharge, hrows⟩
      · cases error with
        | none => exact absurd rfl hsome
        | some e =>
          have hsame : rows' = s.rows := hrows
          rw [hsame]
          exact h
      · cases error with
        | none =>
          rcases hcharge with ⟨hsome, -⟩ | ⟨-, rfl, hlimit⟩
          · exact absurd rfl hsome
          · refine h.written horder hcharged hlimit hrows (fun a d => ?_) fun v hv => ?_
            · rw [tokensOn_append, tokensOn_cons]
              rfl
            · rcases List.mem_append.1 hv with hv | hv
              · exact Or.inl hv
              · rw [List.mem_singleton.1 hv]
                exact Or.inr ⟨rfl, rfl⟩
        | some e =>
          rcases hcharge with ⟨-, rfl⟩ | ⟨hnone, -⟩
          · refine h.written horder hcharged hbefore hrows (fun a d => ?_) fun v hv => Or.inl hv
            rw [ite_self, Nat.add_zero]
          · cases hnone
  · exact h

/-- **The daily token limit** of a user holds in every run of calls in order, about one revision a day. -/
theorem daily_token_limit (limits : ChatLimits) (calls : List Call)
    (h : Runs.Along (step limits) Condition .init calls) (actorId : String) (d : Date) :
    tokensOn actorId d (Runs.run (step limits) .init calls).counted ≤ limits.dailyTokenLimitPerUser := by
  have hledger : Ledger limits (Runs.run (step limits) .init calls) :=
    Runs.run_inv_along (P := Ledger limits) (fun _ _ hs hc => ledger_step hs hc) (Ledger.init limits) h
  exact hledger.limit actorId d

namespace Samples

def limits : ChatLimits := ⟨20, 100000, 10, 60⟩

/-- a question about a revision, at a time -/
def ask (revision : Uuid) (now : Instant) (estimatedTokens : Nat) : Call :=
  { packageRevisionId := revision, actorId := "actor", now, estimatedTokens }

end Samples

open Package.Samples in
theorem daily_token_limit_small : tokensOn "actor" 1 (Runs.run (step limits) .init
    [ask 7 microsecondsPerDay 60000, ask 7 (microsecondsPerDay + 5) 60000, ask 7 (2 * microsecondsPerDay) 60000]).counted ≤
      100000 := by
  have horder : Runs.Along (step limits) Condition .init [ask 7 microsecondsPerDay 60000,
      ask 7 (microsecondsPerDay + 5) 60000, ask 7 (2 * microsecondsPerDay) 60000] := by
    refine ⟨fun _ => ⟨?_, ?_⟩, ⟨fun _ => ⟨?_, ?_⟩, ⟨fun _ => ⟨?_, ?_⟩, trivial⟩⟩⟩ <;> decide
  exact daily_token_limit limits _ horder "actor" 1

open Package.Samples in
/-- **Two revisions**: one user asks about each of them on one day, for 60000 tokens of a limit of 100000. -/
theorem two_revisions : ¬∀ (limits : ChatLimits) (calls : List Call) (actorId : String) (d : Date),
    tokensOn actorId d (Runs.run (step limits) .init calls).counted ≤ limits.dailyTokenLimitPerUser := by
  intro h
  have hrun := h limits [ask 7 microsecondsPerDay 60000, ask 8 microsecondsPerDay 60000] "actor" 1
  revert hrun
  decide

end AtoService.Chat.Package
