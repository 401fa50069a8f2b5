/-
Login states of the portal: created before the redirect, consumed by the callback, purged when they have expired.

Each call is a transaction of its own, at the level read committed, and transactions interleave statement by statement.
`consume_oidc_login_state` reads the row, tests its expiry and deletes it in a second statement; the delete sees the
rows that are committed when it starts, waits while another transaction has the row deleted, and then matches it or not.
The session only warns when it matches no row. An operation that cannot be taken leaves the state as it is: a statement
that waits, or one that its transaction has not come to. Rows are numbered as they are committed.

- `step_inv`: what a step preserves while every delete of a callback matches the row that was read.
- `login_states_single_use`: in such a run a login state is returned once, before it expires, and never after it was
  consumed or purged.
Witness `two_callbacks`: two callbacks with one state token, both of which pass.
-/
import AtoService.Lib.Runs

namespace AtoService.Auth

/-! ## Tables and transactions -/

structure LoginState where
  stateToken : String
  codeVerifier : String
  nonce : String
  createdAt : Int
  expiresAt : Int
deriving DecidableEq, Repr

/-- a committed login state -/
structure Row where
  id : Nat
  state : LoginState
deriving DecidableEq, Repr

/-- microseconds of `OIDC_LOGIN_STATE_TTL_MINUTES` -/
def loginStateTtl : Int := 10 * 60 * 1000000

inductive Tx where
  | idle
  /-- `create_oidc_login_state` after its flush -/
  | inserted (state : LoginState)
  /-- `consume_oidc_login_state` after its select and its test -/
  | selected (row : Row) (now : Int)
  /-- its delete has started, and has seen this row -/
  | deleting (row : Row) (now : Int) (target : Option Nat)
  /-- it has returned the row -/
  | returned (row : Row) (now : Int)
  /-- `purge_expired_auth_artifacts`, with the rows it has seen and not come to, and those it has deleted -/
  | purging (todo done : List Row)
  | closed
deriving DecidableEq, Repr

inductive Event where
  | consumed (row : Row) (now : Int)
  | purged (row : Row)
deriving DecidableEq, Repr

def Event.id : Event → Nat
  | .consumed row _ => row.id
  | .purged row => row.id

def Event.isReturn : Event → Bool
  | .consumed _ _ => true
  | .purged _ => false

structure Db where
  table : List Row
  /-- the number of the next row -/
  next : Nat
  /-- the tokens that open transactions have inserted -/
  inserts : List (String × Nat)
  /-- the rows that open transactions have deleted -/
  deletes : List (Nat × Nat)
  txs : Nat → Tx
  /-- what committed transactions have consumed and purged -/
  log : List Event

def start : Db := ⟨[], 0, [], [], fun _ => .idle, []⟩

inductive Op where
  | insert (t : Nat) (stateToken codeVerifier nonce : String) (now : Int)
  | select (t : Nat) (stateToken : String) (now : Int)
  | delete (t : Nat)
  | endDelete (t : Nat)
  | purge (t : Nat) (now : Int)
  | purgeRow (t : Nat)
  | commit (t : Nat)
  | rollback (t : Nat)
deriving DecidableEq, Repr

/-! ## Statements -/

def Db.set (db : Db) (t : Nat) (tx : Tx) : Db := { db with txs := Function.update db.txs t tx }

/-- an open transaction has deleted the row -/
def Db.locked (db : Db) (id : Nat) : Bool := db.deletes.any fun p => p.1 = id

def Db.has (db : Db) (id : Nat) : Bool := db.table.any fun row => row.id = id

/-- another transaction decides whether the token is free -/
def Db.contended (db : Db) (stateToken : String) : Bool :=
  db.inserts.any (fun p => p.1 = stateToken) ||
    db.table.any fun row => row.state.stateToken = stateToken && db.locked row.id

def Db.insert (db : Db) (t : Nat) (stateToken codeVerifier nonce : String) (now : Int) : Db :=
  if db.contended stateToken then db
  else if db.table.any fun row => row.state.stateToken = stateToken then db.set t .closed
  else { db.set t (.inserted ⟨stateToken, codeVerifier, nonce, now, now + loginStateTtl⟩) with
    inserts := (stateToken, t) :: db.inserts }

def Db.select (db : Db) (t : Nat) (stateToken : String) (now : Int) : Db :=
  match db.table.find? fun row => row.state.stateToken = stateToken with
  | none => db.set t .closed
  | some row => if row.state.expiresAt ≤ now then db.set t .closed else db.set t (.selected row now)

def Db.endDelete (db : Db) (t : Nat) (row : Row) (now : Int) : Option Nat → Db
  | none => db.set t (.returned row now)
  | some id =>
    if db.locked id then db
    else if db.has id then { db.set t (.returned row now) with deletes := (id, t) :: db.deletes }
    else db.set t (.returned row now)

def Db.purgeRow (db : Db) (t : Nat) (row : Row) (todo done : List Row) : Db :=
  if db.locked row.id then db
  else if db.has row.id then { db.set t (.purging todo (row :: done)) with deletes := (row.id, t) :: db.deletes }
  else db.set t (.purging todo done)

/-- the transaction ends, and with it its locks -/
def Db.close (db : Db) (t : Nat) : Db :=
  { db.set t .closed with
    inserts := db.inserts.filter fun p => p.2 ≠ t
    deletes := db.deletes.filter fun p => p.2 ≠ t }

/-- the rows without those that the transaction has deleted -/
def Db.remaining (db : Db) (t : Nat) : List Row := db.table.filter fun row => (row.id, t) ∉ db.deletes

def Db.commit (db : Db) (t : Nat) : Tx → Db
  | .inserted state => { db.close t with table := db.table ++ [⟨db.next, state⟩], next := db.next + 1 }
  | .returned row now => { db.close t with table := db.remaining t, log := db.log ++ [.consumed row now] }
  | .purging [] done => { db.close t with table := db.remaining t, log := db.log ++ done.map .purged }
  | _ => db

def step (db : Db) : Op → Db
  | .insert t stateToken codeVerifier nonce now =>
    if db.txs t = .idle then db.insert t stateToken codeVerifier nonce now else db
  | .select t stateToken now => if db.txs t = .idle then db.select t stateToken now else db
  | .delete t =>
    match db.txs t with
    | .selected row now =>
      db.set t (.deleting row now
        ((db.table.find? fun r => r.state.stateToken = row.state.stateToken).map Row.id))
    | _ => db
  | .endDelete t =>
    match db.txs t with
    | .deleting row now target => db.endDelete t row now target
    | _ => db
  | .purge t now =>
    if db.txs t = .idle then db.set t (.purging (db.table.filter fun row => row.state.expiresAt ≤ now) []) else db
  | .purgeRow t =>
    match db.txs t with
    | .purging (row :: todo) done => db.purgeRow t row todo done
    | _ => db
  | .commit t => db.commit t (db.txs t)
  | .rollback t => db.close t

/-! ## Single use -/

/-- Whatever has been consumed or purged is not returned by a later commit, nor by a call that is still open; and a
login state is returned before it expires only. -/
structure SingleUse (db : Db) : Prop where
  once : db.log.Pairwise fun e e' => e'.isReturn = true → e.id ≠ e'.id
  openOnce : ∀ t row now, db.txs t = .returned row now → ∀ e ∈ db.log, e.id ≠ row.id
  unexpired : ∀ row now, .consumed row now ∈ db.log → now < row.state.expiresAt
  openUnexpired : ∀ t row now, db.txs t = .returned row now → now < row.state.expiresAt

/-- the delete of a callback waits, or the row that the callback has read is the one it has seen, and is still there -/
def matched (db : Db) : Op → Bool
  | .endDelete t =>
    match db.txs t with
    | .deleting row _ target => target.any db.locked || (target = some row.id && db.has row.id)
    | _ => true
  | _ => true

/-! ## What a step preserves -/

/-- what an open transaction has tested, and the locks that it holds -/
def TxOk (deletes : List (Nat × Nat)) (t : Nat) : Tx → Prop
  | .selected row now => now < row.state.expiresAt
  | .deleting row now _ => now < row.state.expiresAt
  | .returned row now => (row.id, t) ∈ deletes ∧ now < row.state.expiresAt
  | .purging _ done => ∀ row ∈ done, (row.id, t) ∈ deletes
  | _ => True

structure Inv (db : Db) : Prop where
  tableFresh : ∀ row ∈ db.table, row.id < db.next
  logFresh : ∀ e ∈ db.log, e.id < db.next
  gone : ∀ e ∈ db.log, ∀ row ∈ db.table, e.id ≠ row.id
  locked : ∀ p ∈ db.deletes, ∃ row ∈ db.table, row.id = p.1
  lockedOnce : (db.deletes.map Prod.fst).Nodup
  txs : ∀ t, TxOk db.deletes t (db.txs t)
  once : db.log.Pairwise fun e e' => e'.isReturn = true → e.id ≠ e'.id
  unexpired : ∀ row now, .consumed row now ∈ db.log → now < row.state.expiresAt

variable {db : Db} {t : Nat} {tx : Tx} {id : Nat}

theorem TxOk.mono {deletes deletes' : List (Nat × Nat)} (h : TxOk deletes t tx)
    (hmono : ∀ id, (id, t) ∈ deletes → (id, t) ∈ deletes') : TxOk deletes' t tx := by
  cases tx with
  | returned row now => exact ⟨hmono _ h.1, h.2⟩
  | purging todo done => exact fun row hrow => hmono _ (h row hrow)
  | _ => exact h

theorem inv_start : Inv start where
  tableFresh _ h := absurd h List.not_mem_nil
  logFresh _ h := absurd h List.not_mem_nil
  gone _ h := absurd h List.not_mem_nil
  locked _ h := absurd h List.not_mem_nil
  lockedOnce := List.nodup_nil
  txs _ := trivial
  once := List.Pairwise.nil
  unexpired _ _ h := absurd h List.not_mem_nil

theorem txs_update {deletes : List (Nat × Nat)} (h : ∀ t', TxOk deletes t' (db.txs t')) (htx : TxOk deletes t tx) :
    ∀ t', TxOk deletes t' (Function.update db.txs t tx t') := by
  intro t'
  by_cases heq : t' = t
  · subst heq
    rw [Function.update_self]
    exact htx
  · rw [Function.update_of_ne heq]
    exact h t'

/-- a step that changes the transaction only -/
theorem Inv.set (h : Inv db) (htx : TxOk db.deletes t tx) : Inv (db.set t tx) :=
  { h with txs := txs_update h.txs htx }

/-- a step that deletes a row -/
theorem Inv.lock (h : Inv db) (hfree : db.locked id = false) (hhas : db.has id = true)
    (htx : TxOk ((id, t) :: db.deletes) t tx) :
    Inv { db.set t tx with deletes := (id, t) :: db.deletes } where
  tableFresh := h.tableFresh
  logFresh := h.logFresh
  gone := h.gone
  locked := by
    intro p hp
    rcases List.mem_cons.1 hp with rfl | hp
    · obtain ⟨row, hrow, hid⟩ := List.any_eq_true.1 hhas
      exact ⟨row, hrow, by simpa using hid⟩
    · exact h.locked p hp
  lockedOnce := by
    refine List.nodup_cons.2 ⟨fun hmem => ?_, h.lockedOnce⟩
    obtain ⟨p, hp, rfl⟩ := List.mem_map.1 hmem
    have hany := List.any_eq_false.1 hfree p hp
    simp at hany
  txs := txs_update (fun t' => (h.txs t').mono fun _ hmem => List.mem_cons_of_mem _ hmem) htx
  once := h.once
  unexpired := h.unexpired

theorem mem_close {p : Nat × Nat} : p ∈ (db.close t).deletes ↔ p ∈ db.deletes ∧ p.2 ≠ t := by
  simp [Db.close]

theorem txs_close (h : Inv db) : ∀ t', TxOk (db.close t).deletes t' ((db.close t).txs t') := by
  intro t'
  by_cases heq : t' = t
  · rw [show (db.close t).txs t' = .closed by rw [heq]; exact Function.update_self _ _ _]
    exact trivial
  · rw [show (db.close t).txs t' = db.txs t' from Function.update_of_ne heq _ _]
    exact (h.txs t').mono fun id hid => mem_close.2 ⟨hid, heq⟩

theorem lockedOnce_close (h : Inv db) : ((db.close t).deletes.map Prod.fst).Nodup :=
  h.lockedOnce.sublist (List.filter_sublist.map _)

theorem Inv.close (h : Inv db) : Inv (db.close t) :=
  { h with
    locked := fun p hp => h.locked p (mem_close.1 hp).1
    lockedOnce := lockedOnce_close h
    txs := txs_close h }

/-- a login state is committed -/
theorem Inv.inserted (h : Inv db) (state : LoginState) :
    Inv { db.close t with table := db.table ++ [⟨db.next, state⟩], next := db.next + 1 } where
  tableFresh := by
    intro row hrow
    rcases List.mem_append.1 hrow with hrow | hrow
    · exact Nat.lt_succ_of_lt (h.tableFresh row hrow)
    · rw [List.mem_singleton.1 hrow]
      exact Nat.lt_succ_self _
  logFresh := fun e he => Nat.lt_succ_of_lt (h.logFresh e he)
  gone := by
    intro e he row hrow
    rcases List.mem_append.1 hrow with hrow | hrow
    · exact h.gone e he row hrow
    · rw [List.mem_singleton.1 hrow]
      exact (h.logFresh e he).ne
  locked := by
    intro p hp
    obtain ⟨row, hrow, hid⟩ := h.locked p (mem_close.1 hp).1
    exact ⟨row, List.mem_append_left _ hrow, hid⟩
  lockedOnce := lockedOnce_close h
  txs := txs_close h
  once := h.once
  unexpired := h.unexpired

theorem mem_remaining {row : Row} : row ∈ db.remaining t ↔ row ∈ db.table ∧ (row.id, t) ∉ db.deletes := by
  simp [Db.remaining]

/-- the deletions of a transaction are committed -/
theorem Inv.removed (h : Inv db) {events : List Event} (hlocked : ∀ e ∈ events, (e.id, t) ∈ db.deletes)
    (honce : events.Pairwise fun e e' => e'.isReturn = true → e.id ≠ e'.id)
    (hunexpired : ∀ row now, .consumed row now ∈ events → now < row.state.expiresAt) :
    Inv { db.close t with table := db.remaining t, log := db.log ++ events } where
  tableFresh := fun row hrow => h.tableFresh row (mem_remaining.1 hrow).1
  logFresh := by
    intro e he
    rcases List.mem_append.1 he with he | he
    · exact h.logFresh e he
    · obtain ⟨row, hrow, hid⟩ := h.locked _ (hlocked e he)
      exact lt_of_eq_of_lt hid.symm (h.tableFresh row hrow)
  gone := by
    intro e he row hrow
    obtain ⟨hrow, hfree⟩ := mem_remaining.1 hrow
    rcases List.mem_append.1 he with he | he
    · exact h.gone e he row hrow
    · exact fun heq => hfree (heq ▸ hlocked e he)
  locked := by
    intro p hp
    obtain ⟨hp, hother⟩ := mem_close.1 hp
    obtain ⟨row, hrow, hid⟩ := h.locked p hp
    refine ⟨row, mem_remaining.2 ⟨hrow, fun hmine => hother ?_⟩, hid⟩
    -- a row is deleted by one open transaction at most
    exact congrArg Prod.snd (List.inj_on_of_nodup_map h.lockedOnce hp hmine hid.symm)
  lockedOnce := lockedOnce_close h
  txs := txs_close h
  once := by
    refine List.pairwise_append.2 ⟨h.once, honce, fun e he e' he' _ heq => ?_⟩
    obtain ⟨row, hrow, hid⟩ := h.locked _ (hlocked e' he')
    exact h.gone e he row hrow (heq.trans hid.symm)
  unexpired := by
    intro row now hmem
    rcases List.mem_append.1 hmem with hmem | hmem
    · exact h.unexpired row now hmem
    · exact hunexpired row now hmem

theorem inv_insert (h : Inv db) (stateToken codeVerifier nonce : String) (now : Int) :
    Inv (db.insert t stateToken codeVerifier nonce now) := by
  rw [Db.insert]
  split_ifs
  · exact h
  · exact h.set trivial
  · exact { h with txs := txs_update h.txs trivial }

theorem inv_select (h : Inv db) (stateToken : String) (now : Int) : Inv (db.select t stateToken now) := by
  rw [Db.select]
  split
  · exact h.set trivial
  · split_ifs with hexpired
    · exact h.set trivial
    · exact h.set (not_le.1 hexpired)

theorem inv_endDelete (h : Inv db) {row : Row} {now : Int} {target : Option Nat} (hnow : now < row.state.expiresAt)
    (hmatched : (target.any db.locked || (target = some row.id && db.has row.id)) = true) :
    Inv (db.endDelete t row now target) := by
  cases target with
  | none => cases hmatched
  | some id =>
    rw [Db.endDelete]
    by_cases hlocked : db.locked id = true
    · rw [if_pos hlocked]
      exact h
    · rw [Option.any_some, Bool.or_eq_true, or_iff_right hlocked, Bool.and_eq_true, decide_eq_true_eq] at hmatched
      obtain rfl := Option.some.inj hmatched.1
      rw [if_neg hlocked, if_pos hmatched.2]
      exact h.lock (Bool.eq_false_iff.2 hlocked) hmatched.2 ⟨List.mem_cons_self, hnow⟩

theorem inv_purgeRow (h : Inv db) {row : Row} {todo done : List Row} (hdone : ∀ r ∈ done, (r.id, t) ∈ db.deletes) :
    Inv (db.purgeRow t row todo done) := by
  rw [Db.purgeRow]
  split_ifs with hlocked hhas
  · exact h
  · refine h.lock (Bool.eq_false_iff.2 hlocked) hhas fun r hr => ?_
    rcases List.mem_cons.1 hr with rfl | hr
    · exact List.mem_cons_self
    · exact List.mem_cons_of_mem _ (hdone r hr)
  · exact h.set hdone

theorem inv_commit (h : Inv db) : Inv (db.commit t (db.txs t)) := by
  have htx := h.txs t
  cases hdb : db.txs t with
  | inserted state => exact h.inserted state
  | returned row now =>
    rw [hdb] at htx
    refine h.removed (fun e he => ?_) (List.pairwise_singleton _ _) fun row' now' hmem => ?_
    · rw [List.mem_singleton.1 he]
      exact htx.1
    · obtain ⟨rfl, rfl⟩ := Event.consumed.inj (List.mem_singleton.1 hmem)
      exact htx.2
  | purging todo done =>
    cases todo with
    | nil =>
      rw [hdb] at htx
      refine h.removed (fun e he => ?_) (List.pairwise_map.2 ?_) fun row now hmem => ?_
      · obtain ⟨row, hrow, rfl⟩ := List.mem_map.1 he
        exact htx row hrow
      · exact List.pairwise_of_forall fun _ _ hreturn => absurd hreturn Bool.false_ne_true
      · obtain ⟨_, _, heq⟩ := List.mem_map.1 hmem
        cases heq
    | cons row todo => exact h
  | _ => exact h

theorem step_inv (h : Inv db) (o : Op) (hmatched : matched db o = true) : Inv (step db o) := by
  cases o with
  | insert t stateToken codeVerifier nonce now =>
    rw [step]
    split_ifs
    · exact inv_insert h _ _ _ _
    · exact h
  | select t stateToken now =>
    rw [step]
    split_ifs
    · exact inv_select h _ _
    · exact h
  | delete t =>
    have htx := h.txs t
    rw [step]
    split
    · rename_i row now hdb
      rw [hdb] at htx
      exact h.set htx
    · exact h
  | endDelete t =>
    have htx := h.txs t
    rw [matched] at hmatched
    rw [step]
    split
    · rename_i row now target hdb
      rw [hdb] at htx
      rw [hdb] at hmatched
      exact inv_endDelete h htx hmatched
    · exact h
  | purge t now =>
    rw [step]
    split_ifs
    · exact h.set fun row hrow => absurd hrow List.not_mem_nil
    · exact h
  | purgeRow t =>
    have htx := h.txs t
    rw [step]
    split
    · rename_i row todo done hdb
      rw [hdb] at htx
      exact inv_purgeRow h htx
    · exact h
  | commit t => exact inv_commit h
  | rollback t => exact h.close

theorem singleUse_of_inv (h : Inv db) : SingleUse db where
  once := h.once
  openOnce := by
    intro t row now hreturned e he
    have htx := h.txs t
    rw [hreturned] at htx
    obtain ⟨r, hr, hid⟩ := h.locked _ htx.1
    exact ne_of_ne_of_eq (h.gone e he r hr) hid
  unexpired := h.unexpired
  openUnexpired := by
    intro t row now hreturned
    have htx := h.txs t
    rw [hreturned] at htx
    exact htx.2

/-- **Login states are single use** in every run in which each delete of a callback matches the row it has read. -/
theorem login_states_single_use (ops : List Op) (h : Runs.Along step (fun db o => matched db o = true) start ops) :
    SingleUse (Runs.run step start ops) :=
  singleUse_of_inv (Runs.run_inv_along (P := Inv) (fun _ o hs hG => step_inv hs o hG) inv_start h)

namespace Samples

def stateToken : String := "0123456789abcdef"

def created : List Op := [.insert 0 stateToken "verifier" "nonce" 0, .commit 0]

/-- a login that its browser does not come back from -/
def abandoned : List Op := [.insert 3 "fedcba9876543210" "verifier" "nonce" 0, .commit 3]

/-- a callback of the token, a second one once it has committed, and the purge of what is left -/
def callback : List Op :=
  [.select 1 stateToken 1, .delete 1, .endDelete 1, .commit 1, .select 2 stateToken 2, .delete 2, .endDelete 2, .commit 2,
    .purge 4 loginStateTtl, .purgeRow 4, .commit 4]

/-- the second callback reads the row before the first has committed -/
def callbacks : List Op :=
  [.select 1 stateToken 1, .select 2 stateToken 1, .delete 1, .endDelete 1, .delete 2, .commit 1, .endDelete 2,
    .commit 2]

end Samples

open Samples in
/-- the token is used up by its first callback, and the other login state is purged -/
theorem login_states_callback :
    SingleUse (Runs.run step start (created ++ abandoned ++ callback)) ∧
      (Runs.run step start (created ++ abandoned ++ callback)).log =
        [.consumed ⟨0, ⟨stateToken, "verifier", "nonce", 0, loginStateTtl⟩⟩ 1,
          .purged ⟨1, ⟨"fedcba9876543210", "verifier", "nonce", 0, loginStateTtl⟩⟩] :=
  ⟨login_states_single_use (created ++ abandoned ++ callback) (by decide), by decide⟩

open Samples in
/-- the second delete matches no row, and the callback passes all the same -/
theorem two_callbacks : ¬∀ ops, SingleUse (Runs.run step start ops) := by
  intro h
  have hlog : (Runs.run step start (created ++ callbacks)).log =
      [.consumed ⟨0, ⟨stateToken, "verifier", "nonce", 0, loginStateTtl⟩⟩ 1,
        .consumed ⟨0, ⟨stateToken, "verifier", "nonce", 0, loginStateTtl⟩⟩ 1] := by
    decide
  have honce := (h (created ++ callbacks)).once
  rw [hlog] at honce
  exact (List.pairwise_cons.1 honce).1 _ (List.mem_singleton_self _) rfl rfl

end AtoService.Auth
