/-
Revocations of portal sessions: what the audit trail says of a session, and the requests that are let in with it.

A session is recorded as revoked by a request that is refused, and stays in the table. So it is its deadlines that keep
later requests out, and a request that has read the session earlier may still be under way.

- `RevokedInv.step`: a session that was found expired is used by no open request and stays expired.
- `revoked_stays_refused`: with lookups in the order of their times, and no other request under way with a session when
  it is looked up, a session that was recorded as revoked never lets a request in again.
Witness `revoked_and_admitted`: a request that is under way when the session is recorded as revoked.
-/
import AtoService.Auth.PortalSessions

namespace AtoService.PortalSessions

open EventLogs

variable (settings : ResolvedSessionSettings) {db : Db} {t id : Nat} {tx : Tx} {row : Row} {now : Int}
  {events : List Event}

/-- lookups come in the order of their times, and no other request with the session is under way -/
def ordered (db : Db) : Op → Bool
  | .select _ sessionId now =>
    db.clock ≤ now && !db.table.any fun row => row.session.sessionId = sessionId && db.passing.any fun p => p.1 = row.id
  | _ => true

/-- no request is let in with a session after it was recorded as revoked -/
def Refusing (earlier : List Event) : Event → Prop
  | .admitted row _ => ∀ r now reason, .revoked r now reason ∈ earlier → r.id ≠ row.id
  | _ => True

/-- a session that can let no request in -/
structure Stale (db : Db) (id : Nat) : Prop where
  expired : ∀ row ∈ db.table, row.id = id → expiry settings row.session db.clock ≠ none
  unused : ∀ p ∈ db.passing, p.1 ≠ id
  old : id < db.next

structure RevokedInv (db : Db) : Prop where
  inv : Inv settings db
  passing : ∀ t row now, db.txs t = .valid row now ∨ db.txs t = .touched row now → (row.id, t) ∈ db.passing
  stale : ∀ t row now reason, db.txs t = .expired row now reason ∨ db.txs t = .refused row now reason →
    Stale settings db row.id
  revoked : ∀ row now reason, .revoked row now reason ∈ db.log → Stale settings db row.id
  refusing : Lawful Refusing db.log

variable {settings} {db' : Db}

theorem expiry_mono {session : AuthSession} {now' : Int} (h : expiry settings session now ≠ none) (hle : now ≤ now') :
    expiry settings session now' ≠ none := by
  intro hnone
  obtain ⟨habsolute, hidle⟩ := expiry_none hnone
  refine h ?_
  rw [expiry, if_neg (by omega), if_neg (by omega)]

/-- a step that keeps the rows of the session, and lets no request pass with it -/
theorem Stale.mono (h : Stale settings db id) (htable : ∀ row ∈ db'.table, row.id = id → row ∈ db.table)
    (hpassing : ∀ p ∈ db'.passing, p.1 = id → p ∈ db.passing) (hclock : db.clock ≤ db'.clock)
    (hnext : db.next ≤ db'.next) : Stale settings db' id where
  expired row hrow hid := expiry_mono (h.expired row (htable row hrow hid) hid) hclock
  unused p hp hid := h.unused p (hpassing p hp hid) hid
  old := h.old.trans_le hnext

theorem revokedInv_start : RevokedInv settings start where
  inv := inv_start
  passing t row now h := by simp [start] at h
  stale t row now reason h := by simp [start] at h
  revoked _ _ _ h := absurd h List.not_mem_nil
  refusing := lawful_nil

/-- what a step has to show, whose transaction becomes `tx` and which adds `events` -/
theorem RevokedInv.next (h : RevokedInv settings db) (tx : Tx) (hinv : Inv settings db')
    (htxs : db'.txs = Function.update db.txs t tx) (hlog : db'.log = db.log ++ events)
    (hstale : ∀ id, Stale settings db id → Stale settings db' id)
    (hpassing : ∀ p ∈ db.passing, p.2 ≠ t → p ∈ db'.passing)
    (hvalid : ∀ row now, tx = .valid row now ∨ tx = .touched row now → (row.id, t) ∈ db'.passing)
    (hexpired : ∀ row now reason, tx = .expired row now reason ∨ tx = .refused row now reason →
      Stale settings db' row.id)
    (hrevoked : ∀ row now reason, .revoked row now reason ∈ events → Stale settings db' row.id)
    (hrefusing : Lawful Refusing (db.log ++ events)) : RevokedInv settings db' where
  inv := hinv
  passing := by
    intro t' row now htx
    by_cases heq : t' = t
    · subst heq
      rw [htxs, Function.update_self] at htx
      exact hvalid row now htx
    · rw [htxs, Function.update_of_ne heq] at htx
      exact hpassing _ (h.passing t' row now htx) heq
  stale := by
    intro t' row now reason htx
    by_cases heq : t' = t
    · subst heq
      rw [htxs, Function.update_self] at htx
      exact hexpired row now reason htx
    · rw [htxs, Function.update_of_ne heq] at htx
      exact hstale _ (h.stale t' row now reason htx)
  revoked := by
    intro row now reason hmem
    rw [hlog] at hmem
    rcases List.mem_append.1 hmem with hmem | hmem
    · exact hstale _ (h.revoked row now reason hmem)
    · exact hrevoked row now reason hmem
  refusing := by
    rw [hlog]
    exact hrefusing

/-- a step that changes the transaction and its locks only -/
theorem RevokedInv.set (h : RevokedInv settings db) (hinv : Inv settings db') (tx : Tx)
    (hdb : db' = { db.set t tx with inserts := db'.inserts, locks := db'.locks })
    (hvalid : ∀ row now, tx = .valid row now ∨ tx = .touched row now → (row.id, t) ∈ db.passing)
    (hexpired : ∀ row now reason, tx = .expired row now reason ∨ tx = .refused row now reason →
      Stale settings db row.id) : RevokedInv settings db' := by
  have hstale : ∀ id, Stale settings db id → Stale settings db' id := by
    intro id hid
    rw [hdb]
    exact hid.mono (fun _ hrow _ => hrow) (fun _ hp _ => hp) le_rfl le_rfl
  have hpassing : db'.passing = db.passing := by rw [hdb]; rfl
  have hlog : db'.log = db.log := by rw [hdb]; rfl
  refine h.next tx hinv (by rw [hdb]; rfl) (hlog.trans (List.append_nil _).symm) hstale ?_ ?_ ?_ ?_ ?_
  · intro p hp _
    rwa [hpassing]
  · rwa [hpassing]
  · exact fun row now reason htx => hstale _ (hexpired row now reason htx)
  · exact fun _ _ _ hmem => absurd hmem List.not_mem_nil
  · rw [List.append_nil]
    exact h.refusing

/-- a transaction that ends, with its events -/
theorem RevokedInv.close (h : RevokedInv settings db) {table : List Row} {next : Nat}
    (hinv : Inv settings { db.close t with table := table, next := next, log := db.log ++ events })
    (htable : ∀ id, Stale settings db id → ∀ row ∈ table, row.id = id → row ∈ db.table) (hnext : db.next ≤ next)
    (hrevoked : ∀ row now reason, .revoked row now reason ∈ events → Stale settings db row.id)
    (hrefusing : Lawful Refusing (db.log ++ events)) :
    RevokedInv settings { db.close t with table := table, next := next, log := db.log ++ events } := by
  have hstale : ∀ id, Stale settings db id →
      Stale settings { db.close t with table := table, next := next, log := db.log ++ events } id :=
    fun id hid => hid.mono (htable id hid) (fun _ hp _ => List.mem_of_mem_filter hp) le_rfl hnext
  refine h.next .closed hinv rfl rfl hstale ?_ ?_ ?_ ?_ hrefusing
  · intro p hp hne
    exact List.mem_filter.2 ⟨hp, decide_eq_true hne⟩
  · exact fun _ _ htx => htx.elim Tx.noConfusion Tx.noConfusion
  · exact fun _ _ _ htx => htx.elim Tx.noConfusion Tx.noConfusion
  · exact fun row now reason hmem => hstale _ (hrevoked row now reason hmem)

theorem revoked_insert (h : RevokedInv settings db) {session : AuthSession}
    (hinv : Inv settings (db.insert t session)) : RevokedInv settings (db.insert t session) := by
  rw [Db.insert] at hinv ⊢
  split_ifs at hinv ⊢
  · exact h
  · exact h.set hinv .closed rfl (by simp) (by simp)
  · exact h.set hinv (.created session) rfl (by simp) (by simp)

theorem revoked_select (h : RevokedInv settings db) {sessionId : Nat} (hordered : ordered db (.select t sessionId now))
    (hinv : Inv settings (db.select settings t sessionId now)) :
    RevokedInv settings (db.select settings t sessionId now) := by
  rw [ordered, Bool.and_eq_true, decide_eq_true_eq, Bool.not_eq_true', List.any_eq_false] at hordered
  obtain ⟨hclock, hfree⟩ := hordered
  rw [Db.select] at hinv ⊢
  split
  · rename_i hfind
    simp only [hfind] at hinv
    have hstale : ∀ id, Stale settings db id →
        Stale settings { db.set t .closed with clock := max db.clock now } id :=
      fun id hid => hid.mono (fun _ hrow _ => hrow) (fun _ hp _ => hp) (le_max_left _ _) le_rfl
    exact h.next .closed hinv rfl (List.append_nil _).symm hstale (fun _ hp _ => hp) (by simp) (by simp)
      (by simp) (by simpa using h.refusing)
  · rename_i row hfind
    have hrow := List.mem_of_find?_eq_some hfind
    have hid : row.session.sessionId = sessionId := by simpa using List.find?_some hfind
    simp only [hfind] at hinv
    split
    · rename_i reason hreason
      simp only [hreason] at hinv
      have hstale : ∀ id, Stale settings db id →
          Stale settings { db.set t (.expired row now reason) with clock := max db.clock now } id :=
        fun id hid => hid.mono (fun _ hrow _ => hrow) (fun _ hp _ => hp) (le_max_left _ _) le_rfl
      -- no request that could still touch the row is under way
      have hunused : ∀ p ∈ db.passing, p.1 ≠ row.id := by
        intro p hp hpid
        have hnot := hfree row hrow
        simp only [hid, decide_true, Bool.true_and] at hnot
        exact hnot (List.any_eq_true.2 ⟨p, hp, decide_eq_true hpid⟩)
      refine h.next (.expired row now reason) hinv rfl (List.append_nil _).symm hstale (fun _ hp _ => hp) (by simp)
        ?_ (by simp) (by simpa using h.refusing)
      intro row' now' reason' htx
      obtain ⟨rfl, rfl, rfl⟩ : row = row' ∧ now = now' ∧ reason = reason' := by simpa using htx
      refine ⟨fun r hr hrid => ?_, hunused, ?_⟩
      · rw [List.inj_on_of_nodup_map h.inv.unique hr hrow hrid]
        refine expiry_mono ?_ (le_max_right db.clock now)
        rw [hreason]
        exact Option.some_ne_none reason
      · obtain ⟨e, he, heq, -⟩ := (h.inv.known row hrow).seen
        exact heq ▸ h.inv.fresh e he
    · rename_i hnone
      simp only [hnone] at hinv
      refine h.next (.valid row now) hinv rfl (List.append_nil _).symm ?_
        (fun _ hp _ => List.mem_cons_of_mem _ hp) ?_ (by simp) (by simp) (by simpa using h.refusing)
      · intro id hstale
        refine hstale.mono (fun _ hrow _ => hrow) (fun p hp hpid => ?_) (le_max_left _ _) le_rfl
        rcases List.mem_cons.1 hp with rfl | hp
        · exact absurd hnone (expiry_mono (hstale.expired row hrow hpid) hclock)
        · exact hp
      · intro row' now' htx
        obtain ⟨rfl, rfl⟩ : row = row' ∧ now = now' := by simpa using htx
        exact List.mem_cons_self

theorem revoked_close (h : RevokedInv settings db) (hinv : Inv settings (db.close t)) :
    RevokedInv settings (db.close t) := by
  have hlog : db.log = db.log ++ [] := (List.append_nil _).symm
  have hdb : db.close t = { db.close t with table := db.table, next := db.next, log := db.log ++ [] } := by
    rw [← hlog]
    rfl
  rw [hdb] at hinv ⊢
  exact h.close hinv (fun _ _ _ hrow _ => hrow) le_rfl (by simp) (by simpa using h.refusing)

theorem revoked_flush (h : RevokedInv settings db) (htx : db.txs t = tx) (hinv : Inv settings (db.flush t tx)) :
    RevokedInv settings (db.flush t tx) := by
  cases tx with
  | valid row now =>
    have hpassing : ∀ row' now', Tx.touched row now = .valid row' now' ∨ Tx.touched row now = .touched row' now' →
        (row'.id, t) ∈ db.passing := by
      rintro row' now' (heq | heq) <;> cases heq
      exact h.passing t row now (Or.inl htx)
    rw [Db.flush] at hinv ⊢
    split_ifs at hinv ⊢
    · exact h.set hinv (.touched row now) rfl hpassing (by simp)
    · exact h
    · exact h.set hinv (.touched row now) rfl hpassing (by simp)
    · exact revoked_close h hinv
  | expired row now reason =>
    have hstale : ∀ row' now' reason', Tx.refused row now reason = .expired row' now' reason' ∨
        Tx.refused row now reason = .refused row' now' reason' → Stale settings db row'.id := by
      rintro row' now' reason' (heq | heq) <;> cases heq
      exact h.stale t row now reason (Or.inl htx)
    rw [Db.flush] at hinv ⊢
    split_ifs at hinv ⊢
    · exact h
    · exact h.set hinv (.refused row now reason) rfl (by simp) hstale
    · exact h.set hinv (.refused row now reason) rfl (by simp) hstale
  | _ => exact h

theorem revoked_removeRow (h : RevokedInv settings db) {purge : Option Int} {todo done : List Row}
    (hinv : Inv settings (db.removeRow t purge row todo done)) :
    RevokedInv settings (db.removeRow t purge row todo done) := by
  rw [Db.removeRow] at hinv ⊢
  split_ifs at hinv ⊢
  · exact h
  · exact h.set hinv _ rfl (by simp) (by simp)
  · exact h.set hinv _ rfl (by simp) (by simp)

theorem revoked_commit (h : RevokedInv settings db) (htx : db.txs t = tx) (hinv : Inv settings (db.commit t tx)) :
    RevokedInv settings (db.commit t tx) := by
  cases tx with
  | created session =>
    refine h.close hinv (fun id hid row hrow heq => ?_) (Nat.le_succ _) (by simp) (h.refusing.snoc trivial)
    rcases List.mem_append.1 hrow with hrow | hrow
    · exact hrow
    · rw [List.mem_singleton.1 hrow] at heq
      exact absurd heq hid.old.ne'
  | touched row now =>
    have hmem : (row.id, t) ∈ db.passing := h.passing t row now (Or.inr htx)
    refine h.close hinv (fun id hid r hr heq => ?_) le_rfl (by simp) (h.refusing.snoc fun r now' reason hrevoked => ?_)
    · split_ifs at hr
      · exact hr
      · obtain ⟨r', hr', rfl⟩ := List.mem_map.1 hr
        split_ifs at heq ⊢ with hid'
        · exact absurd (hid'.symm.trans heq) (hid.unused _ hmem)
        · exact hr'
    · exact ((h.revoked r now' reason hrevoked).unused _ hmem).symm
  | removing purge todo done =>
    cases todo with
    | nil =>
      refine h.close hinv (fun _ _ _ hrow _ => List.mem_of_mem_filter hrow) le_rfl (by simp) ?_
      refine h.refusing.append fun e he l => ?_
      obtain ⟨row, -, rfl⟩ := List.mem_map.1 he
      trivial
    | cons row todo => exact h
  | _ => exact h

theorem revoked_rollback (h : RevokedInv settings db) {recorded : Bool} (htx : db.txs t = tx)
    (hinv : Inv settings (db.rollback t recorded tx)) : RevokedInv settings (db.rollback t recorded tx) := by
  cases tx with
  | refused row now reason =>
    rw [Db.rollback] at hinv ⊢
    split_ifs at hinv ⊢
    · refine h.close hinv (fun _ _ _ hrow _ => hrow) le_rfl (fun row' now' reason' hmem => ?_) (h.refusing.snoc trivial)
      cases List.mem_singleton.1 hmem
      exact h.stale t row now reason (Or.inr htx)
    · exact revoked_close h hinv
  | _ => exact revoked_close h hinv

theorem RevokedInv.step (h : RevokedInv settings db) (o : Op) (hordered : ordered db o = true) :
    RevokedInv settings (step settings db o) := by
  have hinv := h.inv.step o
  cases o with
  | insert t identity sessionId csrfToken now =>
    rw [PortalSessions.step] at hinv ⊢
    split_ifs at hinv ⊢
    · exact revoked_insert h hinv
    · exact h
  | select t sessionId now =>
    rw [PortalSessions.step] at hinv ⊢
    split_ifs at hinv ⊢
    · exact revoked_select h hordered hinv
    · exact h
  | flush t => exact revoked_flush h rfl hinv
  | logout t sessionId =>
    rw [PortalSessions.step] at hinv ⊢
    split_ifs at hinv ⊢
    · exact h.set hinv _ rfl (by simp) (by simp)
    · exact h
  | purge t now =>
    rw [PortalSessions.step] at hinv ⊢
    split_ifs at hinv ⊢
    · exact h.set hinv _ rfl (by simp) (by simp)
    · exact h
  | removeRow t =>
    rw [PortalSessions.step] at hinv ⊢
    split at hinv
    · exact revoked_removeRow h hinv
    · exact h
  | commit t => exact revoked_commit h rfl hinv
  | rollback t recorded => exact revoked_rollback h rfl hinv

variable (settings)

/-- **A revoked session stays refused**, with lookups in the order of their times, one request of a session at once. -/
theorem revoked_stays_refused (ops : List Op)
    (h : Runs.Along (step settings) (fun db o => ordered db o = true) start ops) :
    Lawful Refusing (Runs.run (step settings) start ops).log :=
  (Runs.run_inv_along (P := RevokedInv settings) (fun _ o hs hG => hs.step o hG) revokedInv_start h).refusing

namespace Samples

def portal : ResolvedSessionSettings := ⟨"https://portal.example", 30 * 60 * 1000000, 8 * 60 * 60 * 1000000⟩

def login : List Op := [.insert 0 ⟨"actor", ["reviewers"]⟩ 7 "token" 0, .commit 0]

/-- a request in time, one that comes after the idle timeout, and one after that -/
def requests : List Op :=
  [.select 1 7 60000000, .flush 1, .commit 1, .select 2 7 (31 * 60 * 1000000), .flush 2, .rollback 2 true,
    .select 3 7 (32 * 60 * 1000000), .flush 3, .rollback 3 true]

/-- the first request reads the session in time, and commits when the second has found it idle -/
def overlapping : List Op :=
  [.select 1 7 60000000, .select 2 7 (30 * 60 * 1000000), .flush 2, .rollback 2 true, .flush 1, .commit 1]

end Samples

open Samples in
theorem revoked_stays_refused_requests :
    Lawful Refusing (Runs.run (step portal) start (login ++ requests)).log :=
  revoked_stays_refused portal (login ++ requests) (by decide)

open Samples in
/-- a request that is under way when the session is recorded as revoked goes through after that -/
theorem revoked_and_admitted : ¬∀ ops, Lawful Refusing (Runs.run (step portal) start ops).log := by
  intro h
  have hlog : ∃ row now reason, (Runs.run (step portal) start (login ++ overlapping)).log =
      [.created row, .revoked row now reason] ++ [.admitted row 60000000] :=
    ⟨⟨0, createAuthSession portal ⟨"actor", ["reviewers"]⟩ 7 "token" 0⟩, 30 * 60 * 1000000, .idleTimeout,
      by decide⟩
  obtain ⟨row, now, reason, hlog⟩ := hlog
  exact h _ _ _ [] hlog row now reason (by simp) rfl

end AtoService.PortalSessions
