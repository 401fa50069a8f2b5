/-
Replay-safe mutations, in transactions that interleave.

A call takes an advisory lock on its scope, reads the row, and answers with what is stored, refuses, or goes on; its change
of the domain and its row are committed together, and every transaction may be rolled back instead. The lock is held to the
end of the transaction, and another call with the same lock waits. Clocks are free: a call may carry any time.

`log` is a record for the statements. The domain is any type: what a mutation does there is an argument of its call.

- `Inv.step`, `inv_run`: what every step preserves.
- `mutations_once`: two executions of a scope are a retention apart, replays answer what an execution has stored, and the
  domain is what the executions have made of it.
-/
import AtoService.Lib.EventLogs
import AtoService.Lib.Runs
import AtoService.Storage.Idempotency

namespace AtoService.Idempotency

open EventLogs Results

/-! ## Transactions -/

/-- one request of a mutation: what it changes in the domain that it reads, and its response; or it raises -/
structure Call (D : Type) where
  scope : Scope
  requestDigest : String
  now : Int
  body : D → Option ((D → D) × Response)

inductive Tx (D : Type) where
  | idle
  /-- no row was found, or one that has expired and is deleted -/
  | working (call : Call D) (expired : Option IdempotencyRecord)
  /-- the outcome is recorded -/
  | recorded (call : Call D) (expired : Option IdempotencyRecord) (change : D → D) (row : IdempotencyRecord)
  | replaying (call : Call D) (response : Response)
  | closed

inductive Event (D : Type) where
  | executed (call : Call D) (change : D → D) (row : IdempotencyRecord)
  | replayed (call : Call D) (response : Response)
  | conflicted (call : Call D)

structure Db (D : Type) where
  table : List IdempotencyRecord
  domain : D
  /-- the advisory locks of open transactions -/
  locks : List (List Char × Nat)
  txs : Nat → Tx D
  log : List (Event D)

inductive Op (D : Type) where
  | load (t : Nat) (call : Call D)
  | work (t : Nat)
  | commit (t : Nat)
  | rollback (t : Nat)

section

variable {D : Type}

def start (domain : D) : Db D := ⟨[], domain, [], fun _ => .idle, []⟩

def Db.set (db : Db D) (t : Nat) (tx : Tx D) : Db D := { db with txs := Function.update db.txs t tx }

/-- the transaction ends, and with it its lock -/
def Db.close (db : Db D) (t : Nat) : Db D := { db.set t .closed with locks := db.locks.filter fun p => p.2 ≠ t }

def Db.lock (db : Db D) (t : Nat) (scope : Scope) (tx : Tx D) : Db D :=
  { db.set t tx with locks := (idempotencyAdvisoryLockKeys scope, t) :: db.locks }

def Db.locked (db : Db D) (scope : Scope) : Bool := db.locks.any fun p => p.1 = idempotencyAdvisoryLockKeys scope

def Db.load (db : Db D) (t : Nat) (call : Call D) : Db D :=
  match requireRequest call.scope call.requestDigest with
  | .error _ => db.close t
  | .ok () =>
    if db.locked call.scope then db
    else match loadIdempotencyReplay call.scope call.requestDigest call.now db.table with
      | .absent expired => db.lock t call.scope (.working call expired)
      | .replay response => db.lock t call.scope (.replaying call response)
      | .conflict _ => { db.close t with log := db.log ++ [.conflicted call] }

def Db.work (pyRepr : String → String) (db : Db D) (t : Nat) (call : Call D) (expired : Option IdempotencyRecord) : Db D :=
  match call.body db.domain with
  | none => db.close t
  | some (change, response) =>
    match recordIdempotencyOutcome pyRepr call.scope call.requestDigest response call.now with
    | .error _ => db.close t
    | .ok row => db.set t (.recorded call expired change row)

/-- the rows without the one that has expired -/
def Db.remaining (db : Db D) (scope : Scope) (expired : Option IdempotencyRecord) : List IdempotencyRecord :=
  if expired.isSome then db.table.filter fun row => row.scope ≠ scope else db.table

def Db.commit (db : Db D) (t : Nat) : Tx D → Db D
  | .recorded call expired change row =>
    -- the unique constraint
    if (rowOf call.scope (db.remaining call.scope expired)).isSome then db.close t
    else { db.close t with
      table := db.remaining call.scope expired ++ [row]
      domain := change db.domain
      log := db.log ++ [.executed call change row] }
  | .replaying call response => { db.close t with log := db.log ++ [.replayed call response] }
  | _ => db

def step (pyRepr : String → String) (db : Db D) : Op D → Db D
  | .load t call =>
    match db.txs t with
    | .idle => db.load t call
    | _ => db
  | .work t =>
    match db.txs t with
    | .working call expired => db.work pyRepr t call expired
    | _ => db
  | .commit t => db.commit t (db.txs t)
  | .rollback t => db.close t

/-! ## What a log says -/

def Event.apply (domain : D) : Event D → D
  | .executed _ change _ => change domain
  | _ => domain

/-- the changes of the executions, in the order in which they were committed -/
def changed (domain : D) (log : List (Event D)) : D := log.foldl Event.apply domain

/-- an execution of the scope is the last one before -/
def LastOf (earlier : List (Event D)) (scope : Scope) (call : Call D) (row : IdempotencyRecord) : Prop :=
  (∃ change, .executed call change row ∈ earlier) ∧ call.scope = scope ∧
    ∀ call' change' row', .executed call' change' row' ∈ earlier → call'.scope = scope → call'.now ≤ call.now

/-- executions of a scope are a retention apart; what is replayed or refused meets the last of them within it -/
def Event.Ok (earlier : List (Event D)) : Event D → Prop
  | .executed call _ _ => ∀ call' change' row', .executed call' change' row' ∈ earlier → call'.scope = call.scope →
      call'.now + idempotencyRetention ≤ call.now
  | .replayed call response => ∃ call' row, LastOf earlier call.scope call' row ∧ row.response = response ∧
      call'.requestDigest = call.requestDigest ∧ call.now < call'.now + idempotencyRetention
  | .conflicted call => ∃ call' row, LastOf earlier call.scope call' row ∧ call'.requestDigest ≠ call.requestDigest ∧
      call.now < call'.now + idempotencyRetention

/-! ## Invariant -/

/-- the row that a call has read is still the row of its scope -/
def Stale (db : Db D) (call : Call D) (expired : Option IdempotencyRecord) : Prop :=
  rowOf call.scope db.table = expired ∧ ∀ row ∈ expired, row.expiresAt ≤ call.now

def Holds (db : Db D) (t : Nat) (scope : Scope) : Prop := (idempotencyAdvisoryLockKeys scope, t) ∈ db.locks

/-- the row is the one that a call records -/
structure RowFor (call : Call D) (row : IdempotencyRecord) : Prop where
  scope : row.scope = call.scope
  requestDigest : row.requestDigest = call.requestDigest
  expiresAt : row.expiresAt = call.now + idempotencyRetention

/-- what an open transaction knows -/
def Tx.Knows (db : Db D) (t : Nat) : Tx D → Prop
  | .working call expired => Holds db t call.scope ∧ Stale db call expired
  | .recorded call expired _ row => Holds db t call.scope ∧ Stale db call expired ∧ RowFor call row
  | .replaying call response => Holds db t call.scope ∧ ∃ row, rowOf call.scope db.table = some row ∧
      row.requestDigest = call.requestDigest ∧ row.response = response ∧ call.now < row.expiresAt
  | _ => True

structure Inv (domain : D) (db : Db D) : Prop where
  exclusive : ∀ k t t', (k, t) ∈ db.locks → (k, t') ∈ db.locks → t = t'
  knows : ∀ t, (db.txs t).Knows db t
  made : ∀ call change row, .executed call change row ∈ db.log → RowFor call row
  /-- a row is that of an execution, and its scope has none that is kept longer -/
  rows : ∀ scope row, rowOf scope db.table = some row → ∃ call change, .executed call change row ∈ db.log ∧
    call.scope = scope
  kept : ∀ call change row, .executed call change row ∈ db.log → ∃ row', rowOf call.scope db.table = some row' ∧
    row.expiresAt ≤ row'.expiresAt
  domain_eq : db.domain = changed domain db.log
  lawful : Lawful Event.Ok db.log

variable {domain : D} {db : Db D} {t : Nat} {scope : Scope} {pyRepr : String → String}

theorem rowFor_of_record {call : Call D} {response : Response} {row : IdempotencyRecord}
    (h : recordIdempotencyOutcome pyRepr call.scope call.requestDigest response call.now = .ok row) : RowFor call row := by
  simp only [recordIdempotencyOutcome, bind_eq_ok, pure_eq_ok] at h
  obtain ⟨-, -, -, -, -, -, -, -, rfl⟩ := h
  exact ⟨rfl, rfl, rfl⟩

/-- what a transaction knows it goes on knowing while its lock and the row of its scope stay -/
theorem Tx.Knows.frame {tx : Tx D} {db' : Db D} (h : tx.Knows db t)
    (hlocks : ∀ k, (k, t) ∈ db.locks → (k, t) ∈ db'.locks)
    (hrows : ∀ scope, Holds db t scope → rowOf scope db'.table = rowOf scope db.table) : tx.Knows db' t := by
  cases tx with
  | idle => trivial
  | closed => trivial
  | working call expired =>
    obtain ⟨hlock, hrow, hexpired⟩ := h
    exact ⟨hlocks _ hlock, (hrows _ hlock).trans hrow, hexpired⟩
  | recorded call expired change row =>
    obtain ⟨hlock, ⟨hrow, hexpired⟩, hfor⟩ := h
    exact ⟨hlocks _ hlock, ⟨(hrows _ hlock).trans hrow, hexpired⟩, hfor⟩
  | replaying call response =>
    obtain ⟨hlock, row, hrow, hrest⟩ := h
    exact ⟨hlocks _ hlock, row, (hrows _ hlock).trans hrow, hrest⟩

/-- another transaction keeps its lock when one is closed -/
theorem mem_locks_close {k : List Char} {t' : Nat} (hne : t' ≠ t) (h : (k, t') ∈ db.locks) : (k, t') ∈ (db.close t).locks :=
  List.mem_filter.2 ⟨h, decide_eq_true hne⟩

theorem Inv.close (h : Inv domain db) (t : Nat) : Inv domain (db.close t) := by
  refine ⟨?_, ?_, h.made, h.rows, h.kept, h.domain_eq, h.lawful⟩
  · intro k a b ha hb
    exact h.exclusive k a b (List.mem_of_mem_filter ha) (List.mem_of_mem_filter hb)
  · intro t'
    by_cases hne : t' = t
    · subst hne
      simp [Db.close, Db.set, Tx.Knows]
    · have htx : (db.close t).txs t' = db.txs t' := Function.update_of_ne hne _ _
      rw [htx]
      exact (h.knows t').frame (fun k hk => mem_locks_close hne hk) fun _ _ => rfl

/-- a transaction takes a free lock, and knows something of the row that it reads -/
theorem Inv.lock (h : Inv domain db) {tx : Tx D} (hfree : db.locked scope = false)
    (hknows : tx.Knows (db.lock t scope tx) t) : Inv domain (db.lock t scope tx) := by
  have hnone : ∀ a, (idempotencyAdvisoryLockKeys scope, a) ∉ db.locks := by
    intro a ha
    have hany : db.locked scope = true := List.any_eq_true.2 ⟨_, ha, decide_eq_true rfl⟩
    rw [hfree] at hany
    cases hany
  refine ⟨?_, ?_, h.made, h.rows, h.kept, h.domain_eq, h.lawful⟩
  · intro k a b ha hb
    rcases List.mem_cons.1 ha with hnew | hold <;> rcases List.mem_cons.1 hb with hnew' | hold'
    · exact (Prod.mk.inj hnew).2.trans (Prod.mk.inj hnew').2.symm
    · exact absurd ((Prod.mk.inj hnew).1 ▸ hold') (hnone b)
    · exact absurd ((Prod.mk.inj hnew').1 ▸ hold) (hnone a)
    · exact h.exclusive k a b hold hold'
  · intro t'
    by_cases hne : t' = t
    · subst hne
      have htx : (db.lock t' scope tx).txs t' = tx := Function.update_self _ _ _
      rw [htx]
      exact hknows
    · have htx : (db.lock t scope tx).txs t' = db.txs t' := Function.update_of_ne hne _ _
      rw [htx]
      exact (h.knows t').frame (fun k hk => List.mem_cons_of_mem _ hk) fun _ _ => rfl

/-- the log grows by an event that leaves the table and the domain as they are -/
theorem Inv.note (h : Inv domain db) {e : Event D} (he : ∀ call change row, e ≠ .executed call change row)
    (hok : e.Ok db.log) : Inv domain { db with log := db.log ++ [e] } := by
  have hold : ∀ {call change row}, Event.executed call change row ∈ db.log ++ [e] →
      Event.executed call change row ∈ db.log := by
    intro call change row hmem
    rcases List.mem_append.1 hmem with hmem | hmem
    · exact hmem
    · exact absurd (List.mem_singleton.1 hmem).symm (he call change row)
  refine ⟨h.exclusive, ?_, fun call change row hmem => h.made call change row (hold hmem), ?_,
    fun call change row hmem => h.kept call change row (hold hmem), ?_, h.lawful.snoc hok⟩
  · intro t
    exact (h.knows t).frame (fun _ hk => hk) fun _ _ => rfl
  · intro scope row hrow
    obtain ⟨call, change, hmem, hscope⟩ := h.rows scope row hrow
    exact ⟨call, change, List.mem_append_left _ hmem, hscope⟩
  · rw [changed, List.foldl_append]
    change db.domain = Event.apply (changed domain db.log) e
    rw [← h.domain_eq]
    cases e with
    | executed call change row => exact absurd rfl (he call change row)
    | replayed call response => rfl
    | conflicted call => rfl

/-- the row of a scope is that of its last execution -/
theorem Inv.last (h : Inv domain db) {row : IdempotencyRecord} (hrow : rowOf scope db.table = some row) :
    ∃ call, LastOf db.log scope call row ∧ RowFor call row := by
  obtain ⟨call, change, hmem, hscope⟩ := h.rows scope row hrow
  refine ⟨call, ⟨⟨change, hmem⟩, hscope, ?_⟩, h.made call change row hmem⟩
  intro call' change' row' hmem' hscope'
  obtain ⟨latest, hlatest, hle⟩ := h.kept call' change' row' hmem'
  rw [hscope', hrow] at hlatest
  obtain rfl := Option.some.inj hlatest
  rw [(h.made _ _ _ hmem).expiresAt, (h.made _ _ _ hmem').expiresAt] at hle
  exact le_of_add_le_add_right hle

theorem Inv.load (h : Inv domain db) (call : Call D) : Inv domain (db.load t call) := by
  unfold Db.load
  split
  · exact h.close t
  · split_ifs with hlocked
    · exact h
    · have hfree : db.locked call.scope = false := Bool.eq_false_iff.2 hlocked
      have hholds : ∀ tx, Holds (db.lock t call.scope tx) t call.scope := fun tx => List.mem_cons_self
      unfold loadIdempotencyReplay
      split
      · next expired hload =>
        refine h.lock hfree ⟨hholds _, ?_⟩
        split at hload
        · next hnone =>
          obtain rfl := Lookup.absent.inj hload
          exact ⟨hnone, fun row hrow => absurd hrow (Option.not_mem_none row)⟩
        · next row hrow =>
          split_ifs at hload with hexpired
          · obtain rfl := Lookup.absent.inj hload
            exact ⟨hrow, fun row' hrow' => Option.mem_some_iff.1 hrow' ▸ hexpired⟩
      · next response hload =>
        refine h.lock hfree ⟨hholds _, ?_⟩
        split at hload
        · cases hload
        · next row hrow =>
          split_ifs at hload with hexpired hdigest
          · obtain rfl := Lookup.replay.inj hload
            exact ⟨row, hrow, hdigest, rfl, not_le.1 hexpired⟩
      · next refused hload =>
        split at hload
        · cases hload
        · next row hrow =>
          split_ifs at hload with hexpired hdigest
          obtain ⟨call', hlast, hfor⟩ := h.last hrow
          refine (h.close t).note (fun _ _ _ hne => by cases hne) ⟨call', row, hlast, ?_, ?_⟩
          · rwa [← hfor.requestDigest]
          · rw [← hfor.expiresAt]
            exact not_le.1 hexpired

theorem Inv.set (h : Inv domain db) {tx : Tx D} (hknows : tx.Knows db t) : Inv domain (db.set t tx) := by
  refine ⟨h.exclusive, ?_, h.made, h.rows, h.kept, h.domain_eq, h.lawful⟩
  intro t'
  by_cases hne : t' = t
  · subst hne
    have htx : (db.set t' tx).txs t' = tx := Function.update_self _ _ _
    rw [htx]
    exact hknows.frame (fun _ hk => hk) fun _ _ => rfl
  · have htx : (db.set t tx).txs t' = db.txs t' := Function.update_of_ne hne _ _
    rw [htx]
    exact (h.knows t').frame (fun _ hk => hk) fun _ _ => rfl

theorem Inv.work (h : Inv domain db) {call : Call D} {expired : Option IdempotencyRecord}
    (htx : db.txs t = .working call expired) : Inv domain (db.work pyRepr t call expired) := by
  have hknows := h.knows t
  rw [htx] at hknows
  unfold Db.work
  split
  · exact h.close t
  · split
    · exact h.close t
    · next row hrecord => exact h.set ⟨hknows.1, hknows.2, rowFor_of_record hrecord⟩

/-- the rows after a commit: that of the scope is the new one, the others are as they were -/
theorem rowOf_committed {expired : Option IdempotencyRecord} {row : IdempotencyRecord} (hrow : row.scope = scope)
    (hfree : rowOf scope (db.remaining scope expired) = none) (scope' : Scope) :
    rowOf scope' (db.remaining scope expired ++ [row]) = if scope' = scope then some row else rowOf scope' db.table := by
  unfold rowOf at hfree ⊢
  rw [List.find?_append]
  split_ifs with hscope
  · subst hscope
    rw [hfree, Option.none_or]
    simp [hrow]
  · have hnew : [row].find? (fun r => decide (r.scope = scope')) = none := by simp [hrow, Ne.symm hscope]
    rw [hnew, Option.or_none]
    unfold Db.remaining
    split_ifs
    · rw [List.find?_filter]
      refine List.find?_congr fun r _ => ?_
      by_cases heq : r.scope = scope'
      · simp [heq, hscope]
      · simp [heq]
    · rfl

theorem Inv.commit (h : Inv domain db) : Inv domain (db.commit t (db.txs t)) := by
  have hknows := h.knows t
  cases htx : db.txs t with
  | idle => exact h
  | working call expired => exact h
  | closed => exact h
  | replaying call response =>
    rw [htx] at hknows
    obtain ⟨-, row, hrow, hdigest, hresponse, hnow⟩ := hknows
    obtain ⟨call', hlast, hfor⟩ := h.last hrow
    refine (h.close t).note (fun _ _ _ hne => by cases hne) ⟨call', row, hlast, hresponse, ?_, ?_⟩
    · rw [← hfor.requestDigest, hdigest]
    · rwa [← hfor.expiresAt]
  | recorded call expired change row =>
    rw [htx] at hknows
    obtain ⟨hlock, ⟨hread, hexpired⟩, hfor⟩ := hknows
    unfold Db.commit
    dsimp only
    split_ifs with htaken
    · exact h.close t
    · have hrows := rowOf_committed hfor.scope (Option.not_isSome_iff_eq_none.1 htaken)
      -- every earlier execution of the scope is kept by the row that has expired
      have hapart : ∀ call' change' row', .executed call' change' row' ∈ db.log → call'.scope = call.scope →
          call'.now + idempotencyRetention ≤ call.now := by
        intro call' change' row' hmem hscope
        obtain ⟨latest, hlatest, hle⟩ := h.kept call' change' row' hmem
        rw [hscope, hread] at hlatest
        rw [← (h.made _ _ _ hmem).expiresAt]
        exact hle.trans (hexpired latest hlatest)
      refine ⟨(h.close t).exclusive, ?_, ?_, ?_, ?_, ?_, h.lawful.snoc hapart⟩
      · intro t'
        by_cases hne : t' = t
        · subst hne
          have hclosed : (db.close t').txs t' = .closed := Function.update_self _ _ _
          change Tx.Knows _ t' ((db.close t').txs t')
          rw [hclosed]
          trivial
        · have hsame : (db.close t).txs t' = db.txs t' := Function.update_of_ne hne _ _
          change Tx.Knows _ t' ((db.close t).txs t')
          rw [hsame]
          refine (h.knows t').frame (fun k hk => mem_locks_close hne hk) fun scope' hholds => ?_
          -- the scope of another transaction is another one, since its lock is
          refine (hrows scope').trans (if_neg fun heq => ?_)
          subst heq
          exact hne (h.exclusive _ _ _ hholds hlock)
      · intro call' change' row' hmem
        rcases List.mem_append.1 hmem with hmem | hmem
        · exact h.made _ _ _ hmem
        · obtain ⟨rfl, -, rfl⟩ := Event.executed.inj (List.mem_singleton.1 hmem)
          exact hfor
      · intro scope' row' hrow'
        rw [hrows scope'] at hrow'
        split_ifs at hrow' with hscope
        · obtain rfl := Option.some.inj hrow'
          exact ⟨call, change, List.mem_append_right _ (List.mem_singleton.2 rfl), hscope.symm⟩
        · obtain ⟨call', change', hmem, heq⟩ := h.rows scope' row' hrow'
          exact ⟨call', change', List.mem_append_left _ hmem, heq⟩
      · intro call' change' row' hmem
        rcases List.mem_append.1 hmem with hmem | hmem
        · by_cases hscope : call'.scope = call.scope
          · refine ⟨row, (hrows _).trans (if_pos hscope), ?_⟩
            rw [(h.made _ _ _ hmem).expiresAt, hfor.expiresAt]
            have hbefore := hapart call' change' row' hmem hscope
            have hpositive : 0 ≤ idempotencyRetention := by decide
            omega
          · obtain ⟨latest, hlatest, hle⟩ := h.kept _ _ _ hmem
            exact ⟨latest, (hrows _).trans ((if_neg hscope).trans hlatest), hle⟩
        · obtain ⟨rfl, -, rfl⟩ := Event.executed.inj (List.mem_singleton.1 hmem)
          exact ⟨row', (hrows _).trans (if_pos rfl), le_refl _⟩
      · change change db.domain = changed domain (db.log ++ [.executed call change row])
        rw [changed, List.foldl_append, h.domain_eq]
        rfl

theorem Inv.step (h : Inv domain db) (op : Op D) : Inv domain (step pyRepr db op) := by
  cases op with
  | load t call =>
    unfold Idempotency.step
    dsimp only
    split
    · exact h.load call
    · exact h
  | work t =>
    unfold Idempotency.step
    dsimp only
    split
    · next call expired htx => exact h.work htx
    · exact h
  | commit t => exact h.commit
  | rollback t => exact h.close t

theorem inv_start (domain : D) : Inv domain (start domain) where
  exclusive := fun _ _ _ h => absurd h List.not_mem_nil
  knows := fun _ => trivial
  made := fun _ _ _ h => absurd h List.not_mem_nil
  rows := fun _ _ h => by cases h
  kept := fun _ _ _ h => absurd h List.not_mem_nil
  domain_eq := rfl
  lawful := lawful_nil

theorem inv_run (pyRepr : String → String) (domain : D) (ops : List (Op D)) :
    Inv domain (Runs.run (step pyRepr) (start domain) ops) :=
  Runs.run_inv (fun _ op h => h.step op) (inv_start domain) ops

end

/-! ## Facts about the domain -/

section

variable {D : Type} {pyRepr : String → String}

/-- the call comes with its request, and its body gives the change of a state that is good -/
structure Sourced (P : Call D → Prop) (Q : D → Prop) (call : Call D) (change : D → D) : Prop where
  request : P call
  body : ∃ d response, Q d ∧ call.body d = some (change, response)

def Tx.Sound (P : Call D → Prop) (Q : D → Prop) : Tx D → Prop
  | .working call _ => P call
  | .recorded call _ change _ => Sourced P Q call change
  | _ => True

/-- only such calls are open or executed, and the domain is good -/
structure Sound (P : Call D → Prop) (Q : D → Prop) (db : Db D) : Prop where
  txs : ∀ t, (db.txs t).Sound P Q
  executed : ∀ call change row, .executed call change row ∈ db.log → Sourced P Q call change
  domain : Q db.domain

variable {P : Call D → Prop} {Q : D → Prop} {db db' : Db D}

theorem Sound.set (h : Sound P Q db) (t : Nat) (tx : Tx D) (htx : tx.Sound P Q)
    (htxs : db'.txs = Function.update db.txs t tx) (hdomain : db'.domain = db.domain)
    (hlog : ∀ call change row, .executed call change row ∈ db'.log → .executed call change row ∈ db.log) :
    Sound P Q db' := by
  refine ⟨?_, fun call change row hmem => h.executed call change row (hlog call change row hmem), hdomain ▸ h.domain⟩
  intro t'
  rw [htxs]
  by_cases hne : t' = t
  · subst hne
    rwa [Function.update_self]
  · rw [Function.update_of_ne hne]
    exact h.txs t'

theorem Sound.close (h : Sound P Q db) (t : Nat) : Sound P Q (db.close t) :=
  h.set t .closed trivial rfl rfl fun _ _ _ hmem => hmem

theorem Sound.load (h : Sound P Q db) {call : Call D} (hcall : P call) (t : Nat) : Sound P Q (db.load t call) := by
  unfold Db.load
  split
  · exact h.close t
  · split_ifs
    · exact h
    · split
      · exact h.set t (.working call _) hcall rfl rfl fun _ _ _ hmem => hmem
      · exact h.set t (.replaying call _) trivial rfl rfl fun _ _ _ hmem => hmem
      · refine h.set t .closed trivial rfl rfl fun call' change row hmem => ?_
        rcases List.mem_append.1 hmem with hmem | hmem
        · exact hmem
        · cases List.mem_singleton.1 hmem

theorem Sound.work (h : Sound P Q db) {t : Nat} {call : Call D} {expired : Option IdempotencyRecord}
    (htx : db.txs t = .working call expired) : Sound P Q (db.work pyRepr t call expired) := by
  have hcall := h.txs t
  rw [htx] at hcall
  unfold Db.work
  split
  · exact h.close t
  · next change response hbody =>
    split
    · exact h.close t
    · next row _ =>
      exact h.set t (.recorded call expired change row) ⟨hcall, db.domain, response, h.domain, hbody⟩ rfl rfl
        fun _ _ _ hmem => hmem

theorem Sound.commit (h : Sound P Q db)
    (hchange : ∀ call change, Sourced P Q call change → ∀ d, Q d → Q (change d)) (t : Nat) :
    Sound P Q (db.commit t (db.txs t)) := by
  have htx := h.txs t
  cases hopen : db.txs t with
  | idle => exact h
  | working call expired => exact h
  | closed => exact h
  | replaying call response =>
    refine h.set t .closed trivial rfl rfl fun call' change row hmem => ?_
    rcases List.mem_append.1 hmem with hmem | hmem
    · exact hmem
    · cases List.mem_singleton.1 hmem
  | recorded call expired change row =>
    rw [hopen] at htx
    unfold Db.commit
    dsimp only
    split_ifs
    · exact h.close t
    · refine ⟨(h.close t).txs, fun call' change' row' hmem => ?_, hchange call change htx _ h.domain⟩
      rcases List.mem_append.1 hmem with hmem | hmem
      · exact h.executed call' change' row' hmem
      · obtain ⟨rfl, rfl, -⟩ := Event.executed.inj (List.mem_singleton.1 hmem)
        exact htx

/-- the loads of a run meet a condition -/
def Loads (P : Call D → Prop) (ops : List (Op D)) : Prop := ∀ t call, .load t call ∈ ops → P call

/-- a fact about the domain that the changes of the calls keep holds in every state -/
theorem Sound.run (h : Sound P Q db) (hchange : ∀ call change, Sourced P Q call change → ∀ d, Q d → Q (change d))
    {ops : List (Op D)} (hloads : Loads P ops) : Sound P Q (Runs.run (step pyRepr) db ops) := by
  induction ops generalizing db with
  | nil => exact h
  | cons op ops ih =>
    refine ih ?_ fun t call hmem => hloads t call (List.mem_cons_of_mem _ hmem)
    cases op with
    | load t call =>
      unfold Idempotency.step
      dsimp only
      split
      · exact h.load (hloads t call List.mem_cons_self) t
      · exact h
    | work t =>
      unfold Idempotency.step
      dsimp only
      split
      · next call expired htx => exact h.work htx
      · exact h
    | commit t => exact h.commit hchange t
    | rollback t => exact h.close t

theorem sound_start {domain : D} (hdomain : Q domain) : Sound P Q (start domain) :=
  ⟨fun _ => trivial, fun _ _ _ h => absurd h List.not_mem_nil, hdomain⟩

end

/-- however calls interleave, wait, fail and are rolled back, and whatever their clocks say -/
theorem mutations_once {D : Type} (pyRepr : String → String) (domain : D) (ops : List (Op D)) :
    Lawful Event.Ok (Runs.run (step pyRepr) (start domain) ops).log ∧
      (Runs.run (step pyRepr) (start domain) ops).domain =
        changed domain (Runs.run (step pyRepr) (start domain) ops).log :=
  ⟨(inv_run pyRepr domain ops).lawful, (inv_run pyRepr domain ops).domain_eq⟩

end AtoService.Idempotency
