/-
Work queues with leases: rows that workers claim for a time, and the attempts made at them.

`Shape` says where a table keeps a row's status, lease and number of attempts. `Moves` is what one operation may do to a
row and its attempts: nothing, a claim, an extension of the lease, or the end of the lease. `Advances` is an operation on
the tables, in which every row moves; `C k` says that the row `k` may be claimed.

- `Inv`, `inv_advances`, `inv_enqueue`: the joint invariant of rows and attempts.
- `Final`, `final_advances`: a row in a terminal status keeps its value and its attempts.
- `unclaimed_advances`: a row that may not be claimed makes no further attempt.
- `advances_put`: an operation that writes one row, and at most one attempt, advances the tables; `advances_claim`,
  `advances_extend`, `advances_settle` and `advances_abandon` are its kinds.
-/
import AtoService.Lib.Rows

namespace AtoService.LeaseQueue

inductive Status where
  | available | leased | completed | failed | reconciliationRequired
deriving DecidableEq, Repr

def Status.terminal : Status → Bool
  | .available | .leased => false
  | .completed | .failed | .reconciliationRequired => true

/-- how the rows `ρ` and the attempts `α` of a queue are read; `τ` is what identifies the holder of a lease -/
structure Shape (κ τ ρ α : Type) where
  rowKey : ρ → κ
  status : ρ → Status
  attemptCount : ρ → Nat
  /-- the holder of the lease, if every lease field is set -/
  holder : ρ → Option τ
  /-- no lease field is set -/
  unheld : ρ → Bool
  owner : α → κ
  number : α → Nat
  active : α → Bool
  attemptedBy : α → τ

structure Tables (ρ α : Type) where
  rows : List ρ
  attempts : List α

variable {κ τ ρ α : Type} [DecidableEq κ] (Q : Shape κ τ ρ α)

/-- the attempts at a row -/
def attemptsOf (t : Tables ρ α) (k : κ) : List α := t.attempts.filter fun a => Q.owner a = k

@[simp] theorem mem_attemptsOf {t : Tables ρ α} {k : κ} {a : α} :
    a ∈ attemptsOf Q t k ↔ a ∈ t.attempts ∧ Q.owner a = k := by
  rw [attemptsOf, List.mem_filter, decide_eq_true_eq]

/-! ## What holds of a row and its attempts -/

/-- `M` bounds the number of attempts, and an available row has made fewer than `N`, unless `N` is zero -/
structure Ok (M N : Nat) (r : ρ) (as : List α) : Prop where
  held : Q.status r = .leased → (Q.holder r).isSome
  unheld : Q.status r ≠ .leased → Q.unheld r = true
  numbered : as.map Q.number = List.range' 1 (Q.attemptCount r)
  bounded : Q.attemptCount r ≤ M
  spare : Q.status r = .available → 1 ≤ N → Q.attemptCount r < N
  active : ∀ a ∈ as, Q.active a = true → Q.status r = .leased ∧ Q.holder r = some (Q.attemptedBy a)
  single : ∀ a ∈ as, ∀ a' ∈ as, Q.active a = true → Q.active a' = true → a = a'

/-- the attempts after the active one has ended -/
def Settled (as as' : List α) : Prop :=
  List.Forall₂ (fun a a' => Q.number a' = Q.number a ∧ Q.active a' = false ∧ (Q.active a = false → a' = a)) as as'

inductive Moves (M N : Nat) (C : Prop) : ρ → List α → ρ → List α → Prop
  | stay (r : ρ) (as : List α) : Moves M N C r as r as
  | claim {r r' : ρ} {a : α} (as : List α) (hC : C) (available : Q.status r = .available) (leased : Q.status r' = .leased)
      (spare : Q.attemptCount r < M) (count : Q.attemptCount r' = Q.attemptCount r + 1)
      (number : Q.number a = Q.attemptCount r + 1) (active : Q.active a = true)
      (holder : Q.holder r' = some (Q.attemptedBy a)) : Moves M N C r as r' (as ++ [a])
  | extend {r r' : ρ} (as : List α) (leased : Q.status r = .leased) (leased' : Q.status r' = .leased)
      (count : Q.attemptCount r' = Q.attemptCount r) (holder : Q.holder r' = Q.holder r) : Moves M N C r as r' as
  | settle {r r' : ρ} {as as' : List α} (leased : Q.status r = .leased) (ended : Q.status r' ≠ .leased)
      (unheld : Q.unheld r' = true) (count : Q.attemptCount r' = Q.attemptCount r)
      (spare : Q.status r' = .available → 1 ≤ N → Q.attemptCount r < N)
      (attempts : Settled Q as as') : Moves M N C r as r' as'

variable {Q} {M N : Nat} {C : Prop}

theorem Settled.number {as as' : List α} (h : Settled Q as as') : as'.map Q.number = as.map Q.number := by
  induction h with
  | nil => rfl
  | cons hab _ ih => rw [List.map_cons, List.map_cons, hab.1, ih]

theorem Settled.active {as as' : List α} (h : Settled Q as as') : ∀ a ∈ as', Q.active a = false := by
  induction h with
  | nil => exact fun _ ha => absurd ha List.not_mem_nil
  | cons hab _ ih =>
    intro a ha
    rcases List.mem_cons.1 ha with rfl | ha
    · exact hab.2.1
    · exact ih a ha

/-- **A move keeps a row and its attempts in step.** -/
theorem Ok.moves {r r' : ρ} {as as' : List α} (h : Ok Q M N r as) (hm : Moves Q M N C r as r' as') : Ok Q M N r' as' := by
  cases hm with
  | stay => exact h
  | claim as hC available leased spare count number active holder =>
    -- the attempts at an available row have ended
    have hidle : ∀ a ∈ as, Q.active a = false := by
      intro a ha
      by_contra hactive
      obtain ⟨hleased, -⟩ := h.active a ha (by simpa using hactive)
      rw [available] at hleased
      cases hleased
    refine ⟨fun _ => by rw [holder]; rfl, fun hne => absurd leased hne, ?_, count ▸ spare, ?_, fun a ha hactive => ?_,
      fun a ha a' ha' hactive hactive' => ?_⟩
    · rw [List.map_append, h.numbered, count, List.range'_concat, List.map_singleton, number]
      simp [Nat.add_comm]
    · intro havailable
      rw [leased] at havailable
      cases havailable
    · rcases List.mem_append.1 ha with ha | ha
      · rw [hidle a ha] at hactive
        cases hactive
      · rw [List.mem_singleton.1 ha]
        exact ⟨leased, holder⟩
    · rcases List.mem_append.1 ha with ha | ha
      · rw [hidle a ha] at hactive
        cases hactive
      · rcases List.mem_append.1 ha' with ha' | ha'
        · rw [hidle a' ha'] at hactive'
          cases hactive'
        · rw [List.mem_singleton.1 ha, List.mem_singleton.1 ha']
  | extend as leased leased' count holder =>
    refine ⟨fun _ => holder ▸ h.held leased, fun hne => absurd leased' hne, by rw [h.numbered, count],
      count ▸ h.bounded, ?_, fun a ha hactive => ⟨leased', holder ▸ (h.active a ha hactive).2⟩, h.single⟩
    intro havailable
    rw [leased'] at havailable
    cases havailable
  | settle leased ended unheld count spare attempts =>
    refine ⟨fun hl => absurd hl ended, fun _ => unheld, by rw [attempts.number, h.numbered, count], count ▸ h.bounded,
      fun havailable hN => count ▸ spare havailable hN, fun a ha hactive => ?_, fun a ha a' _ hactive => ?_⟩
    · rw [attempts.active a ha] at hactive
      cases hactive
    · rw [attempts.active a ha] at hactive
      cases hactive

/-- a row has at most one active attempt -/
theorem Ok.active_le_one {r : ρ} {as : List α} (h : Ok Q M N r as) : (as.filter Q.active).length ≤ 1 := by
  have hnodup : (as.filter Q.active).Nodup := by
    refine List.Nodup.filter _ (List.Nodup.of_map Q.number ?_)
    exact h.numbered ▸ List.nodup_range'
  rcases hlist : as.filter Q.active with _ | ⟨a, _ | ⟨b, rest⟩⟩
  · exact Nat.zero_le _
  · exact le_refl _
  · have hmem : ∀ x ∈ a :: b :: rest, x ∈ as ∧ Q.active x = true := fun x hx => List.mem_filter.1 (hlist ▸ hx)
    obtain ⟨ha, haa⟩ := hmem a List.mem_cons_self
    obtain ⟨hb, hbb⟩ := hmem b (List.mem_cons_of_mem _ List.mem_cons_self)
    rw [hlist, h.single a ha b hb haa hbb] at hnodup
    exact absurd List.mem_cons_self (List.nodup_cons.1 hnodup).1

/-- a row that is not leased moves only by a claim -/
theorem Moves.of_not_leased {r r' : ρ} {as as' : List α} (hm : Moves Q M N C r as r' as') (hr : Q.status r ≠ .leased) :
    (r' = r ∧ as' = as) ∨ C ∧ Q.status r = .available := by
  cases hm with
  | stay => exact Or.inl ⟨rfl, rfl⟩
  | claim as hC available => exact Or.inr ⟨hC, available⟩
  | extend as leased => exact absurd leased hr
  | settle leased => exact absurd leased hr

/-- without a claim the number of attempts stays -/
theorem Moves.count {r r' : ρ} {as as' : List α} (hm : Moves Q M N C r as r' as') (hC : ¬C) :
    Q.attemptCount r' = Q.attemptCount r := by
  cases hm with
  | stay => rfl
  | claim as h => exact absurd h hC
  | extend as leased leased' count => exact count
  | settle leased ended unheld count => exact count

/-! ## What holds of the tables -/

variable (Q)

structure Inv (M N : Nat) (t : Tables ρ α) : Prop where
  keys : (t.rows.map Q.rowKey).Nodup
  entries : ∀ r ∈ t.rows, Ok Q M N r (attemptsOf Q t (Q.rowKey r))
  owned : ∀ a ∈ t.attempts, Q.owner a ∈ t.rows.map Q.rowKey

/-- an operation on the tables; `C k`: the row `k` may be claimed -/
structure Advances (M N : Nat) (C : κ → Prop) (t t' : Tables ρ α) : Prop where
  keys : t'.rows.map Q.rowKey = t.rows.map Q.rowKey
  moved : ∀ r ∈ t.rows, ∀ r' ∈ t'.rows, Q.rowKey r' = Q.rowKey r →
    Moves Q M N (C (Q.rowKey r)) r (attemptsOf Q t (Q.rowKey r)) r' (attemptsOf Q t' (Q.rowKey r))
  owned : ∀ a ∈ t'.attempts, Q.owner a ∈ t.rows.map Q.rowKey

/-- rows in a terminal status stay, with their attempts -/
def Final (t t' : Tables ρ α) : Prop :=
  ∀ r ∈ t.rows, (Q.status r).terminal = true →
    r ∈ t'.rows ∧ attemptsOf Q t' (Q.rowKey r) = attemptsOf Q t (Q.rowKey r)

variable {Q}

theorem inv_empty (M N : Nat) : Inv Q M N ⟨[], []⟩ where
  keys := List.nodup_nil
  entries _ h := absurd h List.not_mem_nil
  owned _ h := absurd h List.not_mem_nil

variable {C : κ → Prop} {t t' t'' : Tables ρ α}

/-- the row that another row's key names after an operation -/
theorem Advances.row (h : Advances Q M N C t t') {r' : ρ} (hr : r' ∈ t'.rows) :
    ∃ r ∈ t.rows, Q.rowKey r = Q.rowKey r' := by
  have hmem : Q.rowKey r' ∈ t.rows.map Q.rowKey := h.keys ▸ List.mem_map_of_mem hr
  obtain ⟨r, hr, heq⟩ := List.mem_map.1 hmem
  exact ⟨r, hr, heq⟩

theorem Advances.row' (h : Advances Q M N C t t') {r : ρ} (hr : r ∈ t.rows) :
    ∃ r' ∈ t'.rows, Q.rowKey r' = Q.rowKey r := by
  have hmem : Q.rowKey r ∈ t'.rows.map Q.rowKey := h.keys ▸ List.mem_map_of_mem hr
  obtain ⟨r', hr', heq⟩ := List.mem_map.1 hmem
  exact ⟨r', hr', heq⟩

theorem inv_advances (hi : Inv Q M N t) (h : Advances Q M N C t t') : Inv Q M N t' where
  keys := h.keys ▸ hi.keys
  entries r' hr' := by
    obtain ⟨r, hr, heq⟩ := h.row hr'
    rw [← heq]
    exact (hi.entries r hr).moves (h.moved r hr r' hr' heq.symm)
  owned a ha := h.keys ▸ h.owned a ha

/-- a new row, to which no attempt belongs -/
theorem inv_enqueue (hi : Inv Q M N t) {r : ρ} (hnew : Q.rowKey r ∉ t.rows.map Q.rowKey)
    (havailable : Q.status r = .available) (hunheld : Q.unheld r = true) (hcount : Q.attemptCount r = 0) :
    Inv Q M N ⟨t.rows ++ [r], t.attempts⟩ where
  keys := by
    rw [List.map_append, List.nodup_append]
    refine ⟨hi.keys, List.nodup_singleton _, fun k hk k' hk' heq => ?_⟩
    rw [List.map_singleton, List.mem_singleton] at hk'
    exact hnew (hk' ▸ heq ▸ hk)
  entries r' hr' := by
    rcases List.mem_append.1 hr' with hr' | hr'
    · exact hi.entries r' hr'
    · rw [List.mem_singleton.1 hr']
      have hnone : attemptsOf Q t (Q.rowKey r) = [] := by
        rw [attemptsOf, List.filter_eq_nil_iff]
        intro a ha howner
        exact hnew (of_decide_eq_true howner ▸ hi.owned a ha)
      show Ok Q M N r (attemptsOf Q t (Q.rowKey r))
      rw [hnone]
      refine ⟨fun h => ?_, fun _ => hunheld, by rw [hcount]; rfl, by omega, fun _ h => by omega,
        fun _ h => absurd h List.not_mem_nil, fun _ h => absurd h List.not_mem_nil⟩
      rw [havailable] at h
      cases h
  owned a ha := by
    rw [List.map_append]
    exact List.mem_append_left _ (hi.owned a ha)

theorem Final.refl (t : Tables ρ α) : Final Q t t := fun _ hr _ => ⟨hr, rfl⟩

theorem Final.trans (h : Final Q t t') (h' : Final Q t' t'') : Final Q t t'' := by
  intro r hr hterminal
  obtain ⟨hr', heq⟩ := h r hr hterminal
  obtain ⟨hr'', heq'⟩ := h' r hr' hterminal
  exact ⟨hr'', heq'.trans heq⟩

theorem Final.enqueue (t : Tables ρ α) (r : ρ) : Final Q t ⟨t.rows ++ [r], t.attempts⟩ :=
  fun _ hr _ => ⟨List.mem_append_left _ hr, rfl⟩

/-- **A row in a terminal status never changes again.** -/
theorem final_advances (h : Advances Q M N C t t') : Final Q t t' := by
  intro r hr hterminal
  obtain ⟨r', hr', heq⟩ := h.row' hr
  have hne : Q.status r ≠ .leased := by
    intro hs
    rw [hs] at hterminal
    cases hterminal
  rcases (h.moved r hr r' hr' heq).of_not_leased hne with ⟨rfl, has⟩ | ⟨-, hs⟩
  · exact ⟨hr', has⟩
  · rw [hs] at hterminal
    cases hterminal

/-- **A row that may not be claimed** makes no further attempt, and stays as it is once it is not leased. -/
theorem unclaimed_advances (h : Advances Q M N C t t') {r r' : ρ} (hr : r ∈ t.rows) (hr' : r' ∈ t'.rows)
    (hk : Q.rowKey r' = Q.rowKey r) (hC : ¬C (Q.rowKey r)) :
    Q.attemptCount r' = Q.attemptCount r ∧ (Q.status r ≠ .leased → r' = r) := by
  have hm := h.moved r hr r' hr' hk
  refine ⟨hm.count hC, fun hne => ?_⟩
  rcases hm.of_not_leased hne with ⟨heq, -⟩ | ⟨hc, -⟩
  · exact heq
  · exact absurd hc hC

/-! ## Operations on one row -/

variable (Q) in
/-- the key of an attempt -/
def attemptKey (a : α) : κ × Nat := (Q.owner a, Q.number a)

/-- **An operation on one row** advances the tables, if the row moves and the other rows keep their attempts. -/
theorem advances_put (hi : Inv Q M N t) {r r' : ρ} (hr : r ∈ t.rows) (hk : Q.rowKey r' = Q.rowKey r) {as : List α}
    (hm : Moves Q M N (C (Q.rowKey r)) r (attemptsOf Q t (Q.rowKey r)) r' (attemptsOf Q ⟨[], as⟩ (Q.rowKey r)))
    (hothers : ∀ k, k ≠ Q.rowKey r → attemptsOf Q ⟨[], as⟩ k = attemptsOf Q t k)
    (howned : ∀ a ∈ as, a ∈ t.attempts ∨ Q.owner a = Q.rowKey r) :
    Advances Q M N C t ⟨Rows.put Q.rowKey r' t.rows, as⟩ where
  keys := Rows.keys_put r' t.rows
  moved r₁ h₁ r₂ h₂ heq := by
    have hmem : Q.rowKey r' ∈ t.rows.map Q.rowKey := hk ▸ List.mem_map_of_mem hr
    rcases (Rows.mem_put hmem).1 h₂ with rfl | ⟨h₂, hne⟩
    · obtain rfl := Rows.eq_of_mem hi.keys h₁ hr (heq.symm.trans hk)
      exact hm
    · obtain rfl := Rows.eq_of_mem hi.keys h₂ h₁ heq
      rw [hk] at hne
      show Moves Q M N _ r₂ _ r₂ (attemptsOf Q ⟨[], as⟩ (Q.rowKey r₂))
      rw [hothers _ hne]
      exact .stay _ _
  owned a ha := by
    rcases howned a ha with ha | ha
    · exact hi.owned a ha
    · rw [ha]
      exact List.mem_map_of_mem hr

/-- the attempts at a row after one of another row was written -/
theorem attemptsOf_put_other (t : Tables ρ α) (a : α) {k : κ} (hk : k ≠ Q.owner a) :
    attemptsOf Q ⟨[], Rows.put (attemptKey Q) a t.attempts⟩ k = attemptsOf Q t k := by
  refine Rows.filter_put_of_false a t.attempts _ (fun x hx => ?_) ?_
  · rw [decide_eq_false_iff_not, show Q.owner x = Q.owner a from congrArg Prod.fst hx]
    exact Ne.symm hk
  · rw [decide_eq_false_iff_not]
    exact Ne.symm hk

/-- **The active attempt of a row ends.** -/
theorem settled_put {r : ρ} {a a' : α} (ho : Ok Q M N r (attemptsOf Q t (Q.rowKey r)))
    (ha : a ∈ attemptsOf Q t (Q.rowKey r)) (hactive : Q.active a = true) (howner : Q.owner a' = Q.owner a)
    (hnumber : Q.number a' = Q.number a) (hended : Q.active a' = false) :
    Settled Q (attemptsOf Q t (Q.rowKey r))
      (attemptsOf Q ⟨[], Rows.put (attemptKey Q) a' t.attempts⟩ (Q.rowKey r)) := by
  have hkey : Q.owner a = Q.rowKey r := ((mem_attemptsOf Q).1 ha).2
  have hput : attemptsOf Q ⟨[], Rows.put (attemptKey Q) a' t.attempts⟩ (Q.rowKey r) =
      Rows.put (attemptKey Q) a' (attemptsOf Q t (Q.rowKey r)) := by
    refine Rows.filter_put a' t.attempts _ fun x hx => ?_
    rw [show Q.owner x = Q.owner a' from congrArg Prod.fst hx]
  rw [hput, Rows.put]
  -- the attempts of a row are told apart by their numbers
  have hdistinct : ((attemptsOf Q t (Q.rowKey r)).map Q.number).Nodup := by
    rw [ho.numbered]
    exact List.nodup_range'
  refine List.forall₂_map_right_iff.2 (List.forall₂_same.2 fun x hx => ?_)
  have howner' : Q.owner x = Q.rowKey r := ((mem_attemptsOf Q).1 hx).2
  split_ifs with h
  · have hsame : x = a := List.inj_on_of_nodup_map hdistinct hx ha ((congrArg Prod.snd h).trans hnumber)
    refine ⟨by rw [hsame, hnumber], hended, fun hidle => ?_⟩
    rw [hsame, hactive] at hidle
    cases hidle
  · refine ⟨rfl, ?_, fun _ => rfl⟩
    by_contra hx'
    have hsame := ho.single x hx a ha (by simpa using hx') hactive
    refine h ?_
    rw [attemptKey, attemptKey, hsame, howner, hnumber]

/-- a row without an active attempt -/
theorem settled_refl {as : List α} (h : ∀ a ∈ as, Q.active a = false) : Settled Q as as :=
  List.forall₂_same.2 fun a ha => ⟨rfl, h a ha, fun _ => rfl⟩

/-- a claim adds an attempt to its row -/
theorem attemptsOf_append (t : Tables ρ α) (a : α) (k : κ) :
    attemptsOf Q ⟨[], t.attempts ++ [a]⟩ k = attemptsOf Q t k ++ if Q.owner a = k then [a] else [] := by
  rw [attemptsOf, List.filter_append, attemptsOf, List.filter_singleton]
  by_cases h : Q.owner a = k <;> simp [h]

/-! ## The kinds of operations on one row -/

/-- a row is claimed for a new attempt -/
theorem advances_claim (hi : Inv Q M N t) {r r' : ρ} {a : α} (hr : r ∈ t.rows) (hk : Q.rowKey r' = Q.rowKey r)
    (hC : C (Q.rowKey r)) (havailable : Q.status r = .available) (hleased : Q.status r' = .leased)
    (hspare : Q.attemptCount r < M) (hcount : Q.attemptCount r' = Q.attemptCount r + 1) (howner : Q.owner a = Q.rowKey r)
    (hnumber : Q.number a = Q.attemptCount r + 1) (hactive : Q.active a = true)
    (hholder : Q.holder r' = some (Q.attemptedBy a)) :
    Advances Q M N C t ⟨Rows.put Q.rowKey r' t.rows, t.attempts ++ [a]⟩ := by
  refine advances_put hi hr hk ?_ (fun k hne => ?_) fun x hx => ?_
  · rw [attemptsOf_append, if_pos howner]
    exact .claim _ hC havailable hleased hspare hcount hnumber hactive hholder
  · rw [attemptsOf_append, if_neg fun heq => hne (heq.symm.trans howner), List.append_nil]
  · rcases List.mem_append.1 hx with hx | hx
    · exact Or.inl hx
    · exact Or.inr (List.mem_singleton.1 hx ▸ howner)

/-- the holder of a row extends its lease -/
theorem advances_extend (hi : Inv Q M N t) {r r' : ρ} (hr : r ∈ t.rows) (hk : Q.rowKey r' = Q.rowKey r)
    (hleased : Q.status r = .leased) (hleased' : Q.status r' = .leased) (hcount : Q.attemptCount r' = Q.attemptCount r)
    (hholder : Q.holder r' = Q.holder r) : Advances Q M N C t ⟨Rows.put Q.rowKey r' t.rows, t.attempts⟩ :=
  advances_put hi hr hk (.extend _ hleased hleased' hcount hholder) (fun _ _ => rfl) fun _ ha => Or.inl ha

/-- the lease of a row ends, and its active attempt with it -/
theorem advances_settle (hi : Inv Q M N t) {r r' : ρ} {a a' : α} (hr : r ∈ t.rows) (hk : Q.rowKey r' = Q.rowKey r)
    (hleased : Q.status r = .leased) (hended : Q.status r' ≠ .leased) (hunheld : Q.unheld r' = true)
    (hcount : Q.attemptCount r' = Q.attemptCount r)
    (hspare : Q.status r' = .available → 1 ≤ N → Q.attemptCount r < N)
    (ha : a ∈ attemptsOf Q t (Q.rowKey r)) (hactive : Q.active a = true) (howner : Q.owner a' = Q.owner a)
    (hnumber : Q.number a' = Q.number a) (hdone : Q.active a' = false) :
    Advances Q M N C t ⟨Rows.put Q.rowKey r' t.rows, Rows.put (attemptKey Q) a' t.attempts⟩ := by
  obtain ⟨hmem, hkey⟩ := (mem_attemptsOf Q).1 ha
  refine advances_put hi hr hk ?_ (fun k hne => ?_) fun x hx => ?_
  · exact .settle hleased hended hunheld hcount hspare
      (settled_put (hi.entries r hr) ha hactive howner hnumber hdone)
  · exact attemptsOf_put_other t a' fun heq => hne (heq.trans (howner.trans hkey))
  · have hkeys : attemptKey Q a' ∈ t.attempts.map (attemptKey Q) := by
      rw [attemptKey, howner, hnumber]
      exact List.mem_map_of_mem hmem
    rcases (Rows.mem_put hkeys).1 hx with rfl | ⟨hx, -⟩
    · exact Or.inr (howner.trans hkey)
    · exact Or.inl hx

/-- the lease of a row ends, whose attempts have all ended -/
theorem advances_abandon (hi : Inv Q M N t) {r r' : ρ} (hr : r ∈ t.rows) (hk : Q.rowKey r' = Q.rowKey r)
    (hleased : Q.status r = .leased) (hended : Q.status r' ≠ .leased) (hunheld : Q.unheld r' = true)
    (hcount : Q.attemptCount r' = Q.attemptCount r)
    (hspare : Q.status r' = .available → 1 ≤ N → Q.attemptCount r < N)
    (hidle : ∀ a ∈ attemptsOf Q t (Q.rowKey r), Q.active a = false) :
    Advances Q M N C t ⟨Rows.put Q.rowKey r' t.rows, t.attempts⟩ :=
  advances_put hi hr hk (.settle hleased hended hunheld hcount hspare (settled_refl hidle)) (fun _ _ => rfl)
    fun _ ha => Or.inl ha

/-- nothing is written -/
theorem advances_refl (hi : Inv Q M N t) : Advances Q M N C t t where
  keys := rfl
  moved r hr r' hr' heq := by
    rw [Rows.eq_of_mem hi.keys hr' hr heq]
    exact .stay _ _
  owned := hi.owned

end AtoService.LeaseQueue
