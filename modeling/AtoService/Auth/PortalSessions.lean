/-
Portal sessions: created by the login callback, touched by the requests that are let in, ended by a logout or the purge.

Each call runs in a transaction of its own, at the level read committed, and transactions interleave statement by
statement. A request with a session cookie reads the row, compares its own time with both deadlines and touches the row
in a second statement; the UPDATE waits while another transaction has the row locked, and a row that is gone by then is
an error. No UPDATE is sent when `last_seen_at` does not change. A session that has expired is deleted and
`SessionExpiredError` raised, on which the middleware rolls back: the delete is undone, and what stays is the event of
the audit trail. An operation that cannot be taken leaves the state as it is. Rows are numbered as they are committed;
`log`, `clock` (the latest time of a lookup) and `passing` (the requests that have passed the check and are still open)
are records for the statements.

- `Inv.step`, `inv_run`: what every step preserves.
- `sessions_lawful`: each request that is let in is within both deadlines of a session that a login created; the table
  is what creations, touches and removals of the log make of it, so requests that are refused leave no trace in it.
-/
import AtoService.Lib.EventLogs
import AtoService.Lib.Runs

namespace AtoService.PortalSessions

open EventLogs

/-! ## Tables and transactions -/

structure AuthSession where
  sessionId : Nat
  actorId : String
  groups : List String
  csrfToken : String
  portalOrigin : String
  createdAt : Int
  lastSeenAt : Int
  absoluteExpiresAt : Int
deriving DecidableEq, Repr

/-- the settings that the lifecycle reads, with times in microseconds -/
structure ResolvedSessionSettings where
  portalPublicOrigin : String
  idleTimeout : Int
  absoluteTimeout : Int
deriving DecidableEq, Repr

/-- the identity that the provider vouches for -/
structure Identity where
  actorId : String
  groups : List String
deriving DecidableEq, Repr

inductive RevocationReason where
  | absoluteTimeout
  | idleTimeout
deriving DecidableEq, Repr

def createAuthSession (settings : ResolvedSessionSettings) (identity : Identity) (sessionId : Nat) (csrfToken : String)
    (now : Int) : AuthSession where
  sessionId := sessionId
  actorId := identity.actorId
  groups := identity.groups
  csrfToken := csrfToken
  portalOrigin := settings.portalPublicOrigin
  createdAt := now
  lastSeenAt := now
  absoluteExpiresAt := now + settings.absoluteTimeout

/-- the tests of `load_valid_session`, in their order -/
def expiry (settings : ResolvedSessionSettings) (session : AuthSession) (now : Int) : Option RevocationReason :=
  if session.absoluteExpiresAt ≤ now then some .absoluteTimeout
  else if session.lastSeenAt + settings.idleTimeout ≤ now then some .idleTimeout
  else none

/-- a committed session -/
structure Row where
  id : Nat
  session : AuthSession
deriving DecidableEq, Repr

def Row.touch (row : Row) (now : Int) : Row := { row with session := { row.session with lastSeenAt := now } }

inductive Tx where
  | idle
  /-- `create_auth_session` after its flush -/
  | created (session : AuthSession)
  /-- `load_valid_session` after its select, of a session that has not expired -/
  | valid (row : Row) (now : Int)
  | expired (row : Row) (now : Int) (reason : RevocationReason)
  /-- it has returned the row -/
  | touched (row : Row) (now : Int)
  /-- it has deleted the row and raised -/
  | refused (row : Row) (now : Int) (reason : RevocationReason)
  /-- `delete_auth_session`, or the purge at a time: the rows it has seen and not come to, and those it has deleted -/
  | removing (purge : Option Int) (todo done : List Row)
  | closed
deriving DecidableEq, Repr

inductive Event where
  | created (row : Row)
  /-- a request goes on as the principal of the row that it has read -/
  | admitted (row : Row) (now : Int)
  /-- `record_session_revoked` -/
  | revoked (row : Row) (now : Int) (reason : RevocationReason)
  | removed (row : Row) (purge : Option Int)
deriving DecidableEq, Repr

def Event.row : Event → Row
  | .created row => row
  | .admitted row _ => row
  | .revoked row _ _ => row
  | .removed row _ => row

structure Db where
  table : List Row
  /-- the number of the next row -/
  next : Nat
  /-- the session ids that open transactions have inserted -/
  inserts : List (Nat × Nat)
  /-- the rows that open transactions have updated or deleted -/
  locks : List (Nat × Nat)
  txs : Nat → Tx
  log : List Event
  clock : Int
  passing : List (Nat × Nat)

def start : Db := ⟨[], 0, [], [], fun _ => .idle, [], 0, []⟩

inductive Op where
  | insert (t : Nat) (identity : Identity) (sessionId : Nat) (csrfToken : String) (now : Int)
  | select (t sessionId : Nat) (now : Int)
  /-- the flush of `load_valid_session` -/
  | flush (t : Nat)
  | logout (t sessionId : Nat)
  | purge (t : Nat) (now : Int)
  | removeRow (t : Nat)
  | commit (t : Nat)
  /-- a request that was refused goes on to record the revocation, or not; any other transaction may be rolled back -/
  | rollback (t : Nat) (recorded : Bool)
deriving DecidableEq, Repr

variable (settings : ResolvedSessionSettings)

def Db.set (db : Db) (t : Nat) (tx : Tx) : Db := { db with txs := Function.update db.txs t tx }

/-- an open transaction has the row locked -/
def Db.locked (db : Db) (id : Nat) : Bool := db.locks.any fun p => p.1 = id

def Db.has (db : Db) (id : Nat) : Bool := db.table.any fun row => row.id = id

/-- the transaction ends, and with it its locks -/
def Db.close (db : Db) (t : Nat) : Db :=
  { db.set t .closed with
    inserts := db.inserts.filter fun p => p.2 ≠ t
    locks := db.locks.filter fun p => p.2 ≠ t
    passing := db.passing.filter fun p => p.2 ≠ t }

def Db.lock (db : Db) (t id : Nat) (tx : Tx) : Db := { db.set t tx with locks := (id, t) :: db.locks }

/-- another transaction decides whether the id is free -/
def Db.contended (db : Db) (sessionId : Nat) : Bool :=
  db.inserts.any (fun p => p.1 = sessionId) ||
    db.table.any fun row => row.session.sessionId = sessionId && db.locked row.id

def Db.insert (db : Db) (t : Nat) (session : AuthSession) : Db :=
  if db.contended session.sessionId then db
  else if db.table.any fun row => row.session.sessionId = session.sessionId then db.set t .closed
  else { db.set t (.created session) with inserts := (session.sessionId, t) :: db.inserts }

def Db.select (db : Db) (t sessionId : Nat) (now : Int) : Db :=
  match db.table.find? fun row => row.session.sessionId = sessionId with
  | none => { db.set t .closed with clock := max db.clock now }
  | some row =>
    match expiry settings row.session now with
    | some reason => { db.set t (.expired row now reason) with clock := max db.clock now }
    | none => { db.set t (.valid row now) with clock := max db.clock now, passing := (row.id, t) :: db.passing }

def Db.flush (db : Db) (t : Nat) : Tx → Db
  | .valid row now =>
    if now = row.session.lastSeenAt then db.set t (.touched row now)
    else if db.locked row.id then db
    else if db.has row.id then db.lock t row.id (.touched row now)
    -- the UPDATE matches no row: `StaleDataError`
    else db.close t
  | .expired row now reason =>
    if db.locked row.id then db
    else if db.has row.id then db.lock t row.id (.refused row now reason)
    -- the session warns only when its DELETE matches no row
    else db.set t (.refused row now reason)
  | _ => db

def Db.removeRow (db : Db) (t : Nat) (purge : Option Int) (row : Row) (todo done : List Row) : Db :=
  if db.locked row.id then db
  else if db.has row.id then db.lock t row.id (.removing purge todo (row :: done))
  else db.set t (.removing purge todo done)

def Db.commit (db : Db) (t : Nat) : Tx → Db
  | .created session =>
    { db.close t with
      table := db.table ++ [⟨db.next, session⟩]
      next := db.next + 1
      log := db.log ++ [.created ⟨db.next, session⟩] }
  | .touched row now =>
    { db.close t with
      table :=
        if now = row.session.lastSeenAt then db.table
        else db.table.map fun r => if r.id = row.id then r.touch now else r
      log := db.log ++ [.admitted row now] }
  | .removing purge [] done =>
    { db.close t with
      table := db.table.filter fun r => r.id ∉ done.map Row.id
      log := db.log ++ done.map fun row => .removed row purge }
  | _ => db

def Db.rollback (db : Db) (t : Nat) (recorded : Bool) : Tx → Db
  | .refused row now reason =>
    { db.close t with log := if recorded then db.log ++ [.revoked row now reason] else db.log }
  | _ => db.close t

def step (db : Db) : Op → Db
  | .insert t identity sessionId csrfToken now =>
    if db.txs t = .idle then db.insert t (createAuthSession settings identity sessionId csrfToken now) else db
  | .select t sessionId now => if db.txs t = .idle then db.select settings t sessionId now else db
  | .flush t => db.flush t (db.txs t)
  | .logout t sessionId =>
    if db.txs t = .idle then
      db.set t (.removing none (db.table.filter fun row => row.session.sessionId = sessionId) [])
    else db
  | .purge t now =>
    if db.txs t = .idle then
      db.set t (.removing (some now) (db.table.filter fun row => row.session.absoluteExpiresAt ≤ now) [])
    else db
  | .removeRow t =>
    match db.txs t with
    | .removing purge (row :: todo) done => db.removeRow t purge row todo done
    | _ => db
  | .commit t => db.commit t (db.txs t)
  | .rollback t recorded => db.rollback t recorded (db.txs t)

/-! ## What a log says -/

/-- one event on the sessions that there are -/
def apply (sessions : List Row) : Event → List Row
  | .created row => sessions ++ [row]
  | .admitted row now =>
    if now = row.session.lastSeenAt then sessions
    else sessions.map fun r => if r.id = row.id then r.touch now else r
  | .revoked _ _ _ => sessions
  | .removed row _ => sessions.filter fun r => r.id ≠ row.id

def replay (log : List Event) : List Row := log.foldl apply []

/-- the time at which the event sees its session -/
def Event.seenAt : Event → Option Int
  | .created row => some row.session.createdAt
  | .admitted _ now => some now
  | _ => none

/-- a session as the login created it -/
def IsLogin (session : AuthSession) : Prop :=
  ∃ identity sessionId csrfToken now, session = createAuthSession settings identity sessionId csrfToken now

/-- the log has a creation of the session, and an event that saw it at its `last_seen_at` -/
structure Known (log : List Event) (row : Row) : Prop where
  login : ∃ first, .created first ∈ log ∧ first.id = row.id ∧ IsLogin settings first.session ∧
    row.session = { first.session with lastSeenAt := row.session.lastSeenAt }
  seen : ∃ e ∈ log, e.row.id = row.id ∧ e.seenAt = some row.session.lastSeenAt

/-- what holds of an event, given the events before it -/
def EventOk (earlier : List Event) : Event → Prop
  | .created row => IsLogin settings row.session ∧ ∀ e ∈ earlier, e.row.id ≠ row.id
  | .admitted row now =>
    Known settings earlier row ∧ now < row.session.createdAt + settings.absoluteTimeout ∧
      now < row.session.lastSeenAt + settings.idleTimeout ∧
      ∀ gone purge, .removed gone purge ∈ earlier → gone.id = row.id → now = row.session.lastSeenAt
  | .revoked row now reason => Known settings earlier row ∧ expiry settings row.session now = some reason
  | .removed row purge =>
    Known settings earlier row ∧ ∀ now, purge = some now → row.session.createdAt + settings.absoluteTimeout ≤ now

/-- what an open transaction has read and tested, and the locks that it holds -/
def TxOk (log : List Event) (locks : List (Nat × Nat)) (t : Nat) : Tx → Prop
  | .created session => IsLogin settings session
  | .valid row now => Known settings log row ∧ expiry settings row.session now = none
  | .expired row now reason => Known settings log row ∧ expiry settings row.session now = some reason
  | .touched row now =>
    Known settings log row ∧ expiry settings row.session now = none ∧
      (now ≠ row.session.lastSeenAt → (row.id, t) ∈ locks)
  | .refused row now reason => Known settings log row ∧ expiry settings row.session now = some reason
  | .removing purge todo done =>
    (∀ row ∈ todo ++ done, Known settings log row ∧ ∀ now, purge = some now → row.session.absoluteExpiresAt ≤ now) ∧
      ∀ row ∈ done, (row.id, t) ∈ locks
  | _ => True

structure Inv (db : Db) : Prop where
  fresh : ∀ e ∈ db.log, e.row.id < db.next
  unique : (db.table.map Row.id).Nodup
  known : ∀ row ∈ db.table, Known settings db.log row
  gone : ∀ row purge, .removed row purge ∈ db.log → ∀ r ∈ db.table, r.id ≠ row.id
  locked : ∀ p ∈ db.locks, ∃ row ∈ db.table, row.id = p.1
  lockedOnce : (db.locks.map Prod.fst).Nodup
  txs : ∀ t, TxOk settings db.log db.locks t (db.txs t)
  replays : db.table = replay db.log
  lawful : Lawful (EventOk settings) db.log

/-! ## What a step preserves -/

variable {settings} {db : Db} {t id : Nat} {tx : Tx} {row : Row} {now : Int} {log log' events : List Event}
  {locks locks' : List (Nat × Nat)}

theorem Known.mono (h : Known settings log row) (hlog : log ⊆ log') : Known settings log' row where
  login := by
    obtain ⟨first, hfirst, h⟩ := h.login
    exact ⟨first, hlog hfirst, h⟩
  seen := by
    obtain ⟨e, he, h⟩ := h.seen
    exact ⟨e, hlog he, h⟩

theorem Known.absolute (h : Known settings log row) :
    row.session.absoluteExpiresAt = row.session.createdAt + settings.absoluteTimeout := by
  obtain ⟨first, -, -, ⟨identity, sessionId, csrfToken, now, hfirst⟩, hrow⟩ := h.login
  rw [hrow, hfirst]
  rfl

theorem Known.touch (h : Known settings log row) {e : Event} (he : e ∈ log) (hid : e.row.id = row.id)
    (hseen : e.seenAt = some now) : Known settings log (row.touch now) where
  login := by
    obtain ⟨first, hfirst, hid, hlogin, hrow⟩ := h.login
    refine ⟨first, hfirst, hid, hlogin, ?_⟩
    rw [Row.touch, hrow]
  seen := ⟨e, he, hid, hseen⟩

theorem expiry_none {session : AuthSession} (h : expiry settings session now = none) :
    now < session.absoluteExpiresAt ∧ now < session.lastSeenAt + settings.idleTimeout := by
  rw [expiry] at h
  split_ifs at h with habsolute hidle
  exact ⟨not_le.1 habsolute, not_le.1 hidle⟩

theorem TxOk.mono (h : TxOk settings log locks t tx) (hlog : log ⊆ log')
    (hlocks : ∀ id, (id, t) ∈ locks → (id, t) ∈ locks') : TxOk settings log' locks' t tx := by
  cases tx with
  | valid row now => exact ⟨h.1.mono hlog, h.2⟩
  | expired row now reason => exact ⟨h.1.mono hlog, h.2⟩
  | touched row now => exact ⟨h.1.mono hlog, h.2.1, fun hne => hlocks _ (h.2.2 hne)⟩
  | refused row now reason => exact ⟨h.1.mono hlog, h.2⟩
  | removing purge todo done =>
    exact ⟨fun row hrow => ⟨(h.1 row hrow).1.mono hlog, (h.1 row hrow).2⟩, fun row hrow => hlocks _ (h.2 row hrow)⟩
  | _ => exact h

theorem inv_start : Inv settings start where
  fresh _ h := absurd h List.not_mem_nil
  unique := List.nodup_nil
  known _ h := absurd h List.not_mem_nil
  gone _ _ h := absurd h List.not_mem_nil
  locked _ h := absurd h List.not_mem_nil
  lockedOnce := List.nodup_nil
  txs _ := trivial
  replays := rfl
  lawful := lawful_nil

theorem txs_update (h : ∀ t', TxOk settings log locks t' (db.txs t')) (htx : TxOk settings log locks t tx) :
    ∀ t', TxOk settings log locks t' (Function.update db.txs t tx t') := by
  intro t'
  by_cases heq : t' = t
  · subst heq
    rw [Function.update_self]
    exact htx
  · rw [Function.update_of_ne heq]
    exact h t'

/-- a step that changes the transaction only -/
theorem Inv.set (h : Inv settings db) (tx : Tx) (htx : TxOk settings db.log db.locks t tx) :
    Inv settings (db.set t tx) :=
  { h with txs := txs_update h.txs htx }

/-- a step that locks a row -/
theorem Inv.lock (h : Inv settings db) (hfree : ¬db.locked id = true) (hhas : db.has id = true)
    (htx : TxOk settings db.log ((id, t) :: db.locks) t tx) : Inv settings (db.lock t id tx) :=
  { h with
    locked := by
      intro p hp
      rcases List.mem_cons.1 hp with rfl | hp
      · obtain ⟨row, hrow, hid⟩ := List.any_eq_true.1 hhas
        exact ⟨row, hrow, by simpa using hid⟩
      · exact h.locked p hp
    lockedOnce := by
      refine List.nodup_cons.2 ⟨fun hmem => hfree ?_, h.lockedOnce⟩
      obtain ⟨p, hp, rfl⟩ := List.mem_map.1 hmem
      exact List.any_eq_true.2 ⟨p, hp, by simp⟩
    txs := txs_update (fun t' => (h.txs t').mono (fun _ he => he) fun _ hmem => List.mem_cons_of_mem _ hmem) htx }

theorem mem_close {p : Nat × Nat} : p ∈ (db.close t).locks ↔ p ∈ db.locks ∧ p.2 ≠ t := by
  simp [Db.close]

theorem txs_close (h : Inv settings db) (hlog : db.log ⊆ log) :
    ∀ t', TxOk settings log (db.close t).locks t' ((db.close t).txs t') := by
  intro t'
  by_cases heq : t' = t
  · simp [Db.close, Db.set, heq, TxOk]
  · have htx : (db.close t).txs t' = db.txs t' := by simp [Db.close, Db.set, heq]
    rw [htx]
    exact (h.txs t').mono hlog fun id hmem => mem_close.2 ⟨hmem, heq⟩

theorem lockedOnce_close (h : Inv settings db) : ((db.close t).locks.map Prod.fst).Nodup :=
  h.lockedOnce.sublist (List.filter_sublist.map Prod.fst)

theorem Inv.close (h : Inv settings db) : Inv settings (db.close t) :=
  { h with
    locked := fun p hp => h.locked p (mem_close.1 hp).1
    lockedOnce := lockedOnce_close h
    txs := txs_close h fun _ he => he }

theorem replay_snoc (log : List Event) (e : Event) : replay (log ++ [e]) = apply (replay log) e := by
  simp [replay]

theorem replay_removed (log : List Event) (done : List Row) (purge : Option Int) :
    replay (log ++ done.map fun row => .removed row purge) =
      (replay log).filter fun r => r.id ∉ done.map Row.id := by
  induction done generalizing log with
  | nil => simp
  | cons row done ih =>
    rw [List.map_cons, List.append_cons, ih, replay_snoc, apply, List.filter_filter]
    refine List.filter_congr fun r _ => ?_
    by_cases hid : r.id = row.id <;> simp [hid]

/-- a transaction that commits one event and leaves the rows that there are, but for their times -/
theorem Inv.recorded (h : Inv settings db) {e : Event} (he : EventOk settings db.log e) (hfresh : e.row.id < db.next)
    (hkept : ∀ row purge, e ≠ .removed row purge) {table : List Row} (hids : table.map Row.id = db.table.map Row.id)
    (hknown : ∀ row ∈ table, Known settings (db.log ++ [e]) row) (hreplays : table = apply db.table e) :
    Inv settings { db.close t with table := table, log := db.log ++ [e] } where
  fresh := by
    intro e' he'
    rcases List.mem_append.1 he' with he' | he'
    · exact h.fresh e' he'
    · rwa [List.mem_singleton.1 he']
  unique := by
    rw [hids]
    exact h.unique
  known := hknown
  gone := by
    intro row purge hremoved r hr
    rcases List.mem_append.1 hremoved with hremoved | hremoved
    · obtain ⟨r', hr', hid⟩ := List.mem_map.1 (hids ▸ List.mem_map_of_mem hr)
      exact ne_of_eq_of_ne hid.symm (h.gone row purge hremoved r' hr')
    · exact absurd (List.mem_singleton.1 hremoved).symm (hkept row purge)
  locked := by
    intro p hp
    obtain ⟨row, hrow, hid⟩ := h.locked p (mem_close.1 hp).1
    obtain ⟨row', hrow', hid'⟩ := List.mem_map.1 (hids.symm ▸ List.mem_map_of_mem (f := Row.id) hrow)
    exact ⟨row', hrow', hid'.trans hid⟩
  lockedOnce := lockedOnce_close h
  txs := txs_close h (List.subset_append_left _ _)
  replays := by
    rw [replay_snoc, ← h.replays]
    exact hreplays
  lawful := h.lawful.snoc he

theorem known_of_mem (h : Inv settings db) (events : List Event) (hrow : row ∈ db.table) :
    Known settings (db.log ++ events) row :=
  (h.known row hrow).mono (List.subset_append_left _ _)

theorem inv_insert (h : Inv settings db) {session : AuthSession} (hlogin : IsLogin settings session) :
    Inv settings (db.insert t session) := by
  rw [Db.insert]
  split_ifs
  · exact h
  · exact h.set .closed trivial
  · exact { h.set (.created session) hlogin with }

theorem inv_select (h : Inv settings db) (sessionId : Nat) : Inv settings (db.select settings t sessionId now) := by
  rw [Db.select]
  split
  · exact { h.set .closed trivial with }
  · rename_i row hfind
    have hknown : Known settings db.log row := h.known row (List.mem_of_find?_eq_some hfind)
    split
    · rename_i reason hreason
      exact { h.set (.expired row now reason) ⟨hknown, hreason⟩ with }
    · rename_i hnone
      exact { h.set (.valid row now) ⟨hknown, hnone⟩ with }

theorem inv_flush (h : Inv settings db) (htx : TxOk settings db.log db.locks t tx) : Inv settings (db.flush t tx) := by
  cases tx with
  | valid row now =>
    rw [Db.flush]
    split_ifs with heq hlocked hhas
    · exact h.set (.touched row now) ⟨htx.1, htx.2, fun hne => absurd heq hne⟩
    · exact h
    · exact h.lock hlocked hhas ⟨htx.1, htx.2, fun _ => List.mem_cons_self⟩
    · exact h.close
  | expired row now reason =>
    rw [Db.flush]
    split_ifs with hlocked hhas
    · exact h
    · exact h.lock hlocked hhas htx
    · exact h.set (.refused row now reason) htx
  | _ => exact h

theorem inv_removeRow (h : Inv settings db) {purge : Option Int} {todo done : List Row}
    (htx : TxOk settings db.log db.locks t (.removing purge (row :: todo) done)) :
    Inv settings (db.removeRow t purge row todo done) := by
  rw [Db.removeRow]
  split_ifs with hlocked hhas
  · exact h
  · refine h.lock hlocked hhas ⟨fun r hr => htx.1 r ?_, fun r hr => ?_⟩
    · simp only [List.mem_append, List.mem_cons] at hr ⊢
      tauto
    · rcases List.mem_cons.1 hr with rfl | hr
      · exact List.mem_cons_self
      · exact List.mem_cons_of_mem _ (htx.2 r hr)
  · refine h.set (.removing purge todo done) ⟨fun r hr => htx.1 r ?_, htx.2⟩
    rw [List.cons_append]
    exact List.mem_cons_of_mem _ hr

theorem inv_commit_created (h : Inv settings db) {session : AuthSession} (hlogin : IsLogin settings session) :
    Inv settings (db.commit t (.created session)) where
  fresh := by
    intro e he
    rcases List.mem_append.1 he with he | he
    · exact Nat.lt_succ_of_lt (h.fresh e he)
    · rw [List.mem_singleton.1 he]
      exact Nat.lt_succ_self _
  unique := by
    rw [Db.commit, List.map_append]
    refine h.unique.append (List.nodup_singleton _) fun id hid hnext => ?_
    obtain ⟨row, hrow, rfl⟩ := List.mem_map.1 hid
    obtain ⟨e, he, heq, -⟩ := (h.known row hrow).seen
    have hlt := h.fresh e he
    simp only [List.map_cons, List.map_nil, List.mem_singleton] at hnext
    omega
  known := by
    intro row hrow
    rcases List.mem_append.1 hrow with hrow | hrow
    · exact known_of_mem h _ hrow
    · rw [List.mem_singleton.1 hrow]
      have hmem : Event.created ⟨db.next, session⟩ ∈ db.log ++ [Event.created ⟨db.next, session⟩] :=
        List.mem_append_right _ (List.mem_singleton_self _)
      refine ⟨⟨_, hmem, rfl, hlogin, rfl⟩, _, hmem, rfl, ?_⟩
      obtain ⟨identity, sessionId, csrfToken, now, rfl⟩ := hlogin
      rfl
  gone := by
    intro row purge hremoved r hr
    have hlog : Event.removed row purge ∈ db.log := by
      rw [Db.commit] at hremoved
      simpa using hremoved
    rcases List.mem_append.1 hr with hr | hr
    · exact h.gone row purge hlog r hr
    · rw [List.mem_singleton.1 hr]
      exact (h.fresh _ hlog).ne'
  locked := by
    intro p hp
    obtain ⟨row, hrow, hid⟩ := h.locked p (mem_close.1 hp).1
    exact ⟨row, List.mem_append_left _ hrow, hid⟩
  lockedOnce := lockedOnce_close h
  txs := txs_close h (List.subset_append_left _ _)
  replays := by
    rw [Db.commit, replay_snoc, ← h.replays]
    rfl
  lawful := h.lawful.snoc ⟨hlogin, fun e he => (h.fresh e he).ne⟩

theorem map_touch_ids (rows : List Row) (id : Nat) (now : Int) :
    (rows.map fun r => if r.id = id then r.touch now else r).map Row.id = rows.map Row.id := by
  rw [List.map_map]
  refine List.map_congr_left fun r _ => ?_
  rw [Function.comp]
  split_ifs <;> rfl

theorem inv_commit_touched (h : Inv settings db) (htx : TxOk settings db.log db.locks t (.touched row now)) :
    Inv settings (db.commit t (.touched row now)) := by
  obtain ⟨hknown, hexpiry, hlock⟩ := htx
  have hlimits := expiry_none hexpiry
  have hgone : ∀ gone purge, .removed gone purge ∈ db.log → gone.id = row.id → now = row.session.lastSeenAt := by
    intro gone purge hremoved hid
    by_contra hne
    obtain ⟨row', hrow', hid'⟩ := h.locked _ (hlock hne)
    exact h.gone gone purge hremoved row' hrow' (hid'.trans hid.symm)
  obtain ⟨e, he, hid, -⟩ := hknown.seen
  have hfresh : row.id < db.next := hid ▸ h.fresh e he
  have hok : EventOk settings db.log (.admitted row now) := by
    refine ⟨hknown, ?_, hlimits.2, hgone⟩
    rw [← hknown.absolute]
    exact hlimits.1
  rw [Db.commit]
  refine h.recorded hok hfresh (fun _ _ => Event.noConfusion) ?_ (fun r hr => ?_) rfl
  · split_ifs
    · rfl
    · exact map_touch_ids _ _ _
  · split_ifs at hr
    · exact known_of_mem h _ hr
    · obtain ⟨r', hr', rfl⟩ := List.mem_map.1 hr
      split_ifs with hid
      · exact (known_of_mem h _ hr').touch (List.mem_append_right _ (List.mem_singleton_self _)) hid.symm rfl
      · exact known_of_mem h _ hr'

theorem inv_commit_removing (h : Inv settings db) {purge : Option Int} {done : List Row}
    (htx : TxOk settings db.log db.locks t (.removing purge [] done)) :
    Inv settings (db.commit t (.removing purge [] done)) where
  fresh := by
    intro e he
    rcases List.mem_append.1 he with he | he
    · exact h.fresh e he
    · obtain ⟨row, hrow, rfl⟩ := List.mem_map.1 he
      obtain ⟨e, he, hid, -⟩ := (htx.1 row hrow).1.seen
      exact hid ▸ h.fresh e he
  unique := h.unique.sublist (List.filter_sublist.map Row.id)
  known r hr := known_of_mem h _ (List.mem_of_mem_filter hr)
  gone := by
    intro row purge' hremoved r hr hid
    rcases List.mem_append.1 hremoved with hremoved | hremoved
    · exact h.gone row purge' hremoved r (List.mem_of_mem_filter hr) hid
    · obtain ⟨row', hrow', heq⟩ := List.mem_map.1 hremoved
      cases heq
      have hnot : r.id ∉ done.map Row.id := by simpa using (List.mem_filter.1 hr).2
      exact hnot (hid ▸ List.mem_map_of_mem (f := Row.id) hrow')
  locked := by
    intro p hp
    obtain ⟨hp, hne⟩ := mem_close.1 hp
    obtain ⟨row, hrow, hid⟩ := h.locked p hp
    refine ⟨row, List.mem_filter.2 ⟨hrow, decide_eq_true fun hmem => ?_⟩, hid⟩
    obtain ⟨row', hrow', hid'⟩ := List.mem_map.1 hmem
    have heq : p = (row'.id, t) :=
      List.inj_on_of_nodup_map h.lockedOnce hp (htx.2 row' hrow') (hid.symm.trans hid'.symm)
    exact hne (congrArg Prod.snd heq)
  lockedOnce := lockedOnce_close h
  txs := txs_close h (List.subset_append_left _ _)
  replays := by
    rw [Db.commit, replay_removed, ← h.replays]
  lawful := by
    refine h.lawful.append fun e he l => ?_
    obtain ⟨row, hrow, rfl⟩ := List.mem_map.1 he
    obtain ⟨hknown, hpurge⟩ := htx.1 row hrow
    exact ⟨hknown.mono (List.subset_append_left _ _), hknown.absolute ▸ hpurge⟩

theorem inv_commit (h : Inv settings db) (htx : TxOk settings db.log db.locks t tx) :
    Inv settings (db.commit t tx) := by
  cases tx with
  | created session => exact inv_commit_created h htx
  | touched row now => exact inv_commit_touched h htx
  | removing purge todo done =>
    cases todo with
    | nil => exact inv_commit_removing h htx
    | cons row todo => exact h
  | _ => exact h

theorem inv_rollback (h : Inv settings db) (recorded : Bool) (htx : TxOk settings db.log db.locks t tx) :
    Inv settings (db.rollback t recorded tx) := by
  cases tx with
  | refused row now reason =>
    rw [Db.rollback]
    split_ifs
    · obtain ⟨e, he, hid, -⟩ := htx.1.seen
      have hok : EventOk settings db.log (.revoked row now reason) := htx
      have hfresh : row.id < db.next := hid ▸ h.fresh e he
      exact h.recorded hok hfresh (fun _ _ => Event.noConfusion) rfl (fun r hr => known_of_mem h _ hr) rfl
    · exact h.close
  | _ => exact h.close

/-- a removal starts with rows of the table -/
theorem inv_removing (h : Inv settings db) {purge : Option Int} {p : Row → Bool}
    (hpurge : ∀ row, p row = true → ∀ now, purge = some now → row.session.absoluteExpiresAt ≤ now) :
    Inv settings (db.set t (.removing purge (db.table.filter p) [])) := by
  refine h.set _ ⟨fun row hrow => ?_, fun row hrow => absurd hrow List.not_mem_nil⟩
  rw [List.append_nil] at hrow
  obtain ⟨hrow, hp⟩ := List.mem_filter.1 hrow
  exact ⟨h.known row hrow, hpurge row hp⟩

theorem Inv.step (h : Inv settings db) (o : Op) : Inv settings (step settings db o) := by
  cases o with
  | insert t identity sessionId csrfToken now =>
    rw [PortalSessions.step]
    split_ifs
    · exact inv_insert h ⟨identity, sessionId, csrfToken, now, rfl⟩
    · exact h
  | select t sessionId now =>
    rw [PortalSessions.step]
    split_ifs
    · exact inv_select h sessionId
    · exact h
  | flush t => exact inv_flush h (h.txs t)
  | logout t sessionId =>
    rw [PortalSessions.step]
    split_ifs
    · exact inv_removing h fun _ _ _ hnone => absurd hnone (Option.some_ne_none _).symm
    · exact h
  | purge t now =>
    rw [PortalSessions.step]
    split_ifs
    · refine inv_removing h fun row hrow now' heq => ?_
      cases heq
      simpa using hrow
    · exact h
  | removeRow t =>
    have htx := h.txs t
    rw [PortalSessions.step]
    split
    · rename_i hdb
      rw [hdb] at htx
      exact inv_removeRow h htx
    · exact h
  | commit t => exact inv_commit h (h.txs t)
  | rollback t recorded => exact inv_rollback h recorded (h.txs t)

variable (settings)

theorem inv_run (ops : List Op) : Inv settings (Runs.run (step settings) start ops) :=
  Runs.run_inv (fun _ o h => h.step o) inv_start ops

/-- **Requests are let in within the deadlines.** In every run, with transactions interleaved in any way: the principal
is that of a session which a login created, the request is before the absolute deadline of that login and within the
idle timeout of an earlier event that saw the session, and a session that was removed lets nobody in, but for a request
that read it at the very time at which it was last seen. The purge removes sessions past their absolute deadline only,
and the table is what the events make of it: nothing that a refused request did is in it. -/
theorem sessions_lawful (ops : List Op) :
    Lawful (EventOk settings) (Runs.run (step settings) start ops).log ∧
      (Runs.run (step settings) start ops).table = replay (Runs.run (step settings) start ops).log :=
  ⟨(inv_run settings ops).lawful, (inv_run settings ops).replays⟩

end AtoService.PortalSessions
