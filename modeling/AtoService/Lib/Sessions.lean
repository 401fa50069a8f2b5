/-
Computations on the rows that a database session holds: what they return or raise, and the rows as they leave them.

A statement that raises ends the computation; what was written before stays in the session, until the caller rolls back or
commits. `Returns` and `Raises` read a computation, and the lemmas follow its text statement by statement. `ReadOnly`
marks the computations that only read, so that their rows need not be followed.
-/
import AtoService.Lib.Results

namespace AtoService

/-- a computation on rows `σ` that returns `α` or raises `ε` -/
def Session (σ ε α : Type) := σ → Except ε α × σ

namespace Session

variable {σ ε α β : Type}

instance : Monad (Session σ ε) where
  pure a s := (.ok a, s)
  bind x f s :=
    match x s with
    | (.ok a, s') => f a s'
    | (.error e, s') => (.error e, s')

def raise (e : ε) : Session σ ε α := fun s => (.error e, s)

/-- a query -/
def read (f : σ → α) : Session σ ε α := fun s => (.ok (f s), s)

/-- a write -/
def modify (f : σ → σ) : Session σ ε Unit := fun s => (.ok (), f s)

/-- a check of values that were read before -/
def lift (x : Except ε α) : Session σ ε α := fun s => (x, s)

/-- `if not p: raise e` -/
def ensure (p : Prop) [Decidable p] (e : ε) : Session σ ε Unit := lift (Results.ensure p e)

/-- the value of an optional row, or the error for a missing one -/
def orRaise (x : Option α) (e : ε) : Session σ ε α := lift (Results.orRaise x e)

/-- `scalar_one_or_none()` -/
def scalarOneOrNone (rows : List α) (multiple : ε) : Session σ ε (Option α) :=
  match rows with
  | [] => lift (.ok none)
  | [a] => lift (.ok (some a))
  | _ => raise multiple

/-- `try: x except e: handler e`, for the exceptions that `handler` takes -/
def handle (x : Session σ ε α) (handler : ε → Option (Session σ ε α)) : Session σ ε α := fun s =>
  match x s with
  | (.ok a, s') => (.ok a, s')
  | (.error e, s') =>
    match handler e with
    | none => (.error e, s')
    | some y => y s'

/-- a computation on a part of the rows, its errors wrapped -/
def zoom {τ δ : Type} (get : σ → τ) (put : τ → σ → σ) (wrap : δ → ε) (x : Session τ δ α) : Session σ ε α := fun s =>
  match x (get s) with
  | (.ok a, t) => (.ok a, put t s)
  | (.error e, t) => (.error (wrap e), put t s)

/-- a transaction: the commit, or the rollback when the computation raises -/
def transaction (x : Session σ ε α) (s : σ) : σ :=
  match x s with
  | (.ok _, s') => s'
  | (.error _, _) => s

/-! ## Reading a computation -/

def Returns (x : Session σ ε α) (s : σ) (a : α) (s' : σ) : Prop := x s = (.ok a, s')

def Raises (x : Session σ ε α) (s : σ) (e : ε) (s' : σ) : Prop := x s = (.error e, s')

theorem returns_or_raises (x : Session σ ε α) (s : σ) : (∃ a s', Returns x s a s') ∨ ∃ e s', Raises x s e s' := by
  cases h : x s with
  | mk r s' =>
    cases r with
    | ok a => exact Or.inl ⟨a, s', h⟩
    | error e => exact Or.inr ⟨e, s', h⟩

@[simp] theorem returns_pure {a b : α} {s s' : σ} : Returns (pure a : Session σ ε α) s b s' ↔ a = b ∧ s = s' := by
  simp [Returns, pure]

@[simp] theorem raises_pure {a : α} {e : ε} {s s' : σ} : Raises (pure a : Session σ ε α) s e s' ↔ False := by
  simp [Raises, pure]

@[simp] theorem returns_raise {e : ε} {a : α} {s s' : σ} : Returns (raise e : Session σ ε α) s a s' ↔ False := by
  simp [Returns, raise]

@[simp] theorem raises_raise {e e' : ε} {s s' : σ} : Raises (raise e : Session σ ε α) s e' s' ↔ e = e' ∧ s = s' := by
  simp [Raises, raise]

@[simp] theorem returns_read {f : σ → α} {a : α} {s s' : σ} :
    Returns (read f : Session σ ε α) s a s' ↔ f s = a ∧ s = s' := by
  simp [Returns, read]

@[simp] theorem raises_read {f : σ → α} {e : ε} {s s' : σ} : Raises (read f : Session σ ε α) s e s' ↔ False := by
  simp [Raises, read]

@[simp] theorem returns_modify {f : σ → σ} {u : Unit} {s s' : σ} :
    Returns (modify f : Session σ ε Unit) s u s' ↔ f s = s' := by
  simp [Returns, modify]

@[simp] theorem raises_modify {f : σ → σ} {e : ε} {s s' : σ} :
    Raises (modify f : Session σ ε Unit) s e s' ↔ False := by
  simp [Raises, modify]

@[simp] theorem returns_lift {x : Except ε α} {a : α} {s s' : σ} :
    Returns (lift x) s a s' ↔ x = .ok a ∧ s = s' := by
  simp [Returns, lift]

@[simp] theorem raises_lift {x : Except ε α} {e : ε} {s s' : σ} :
    Raises (lift x) s e s' ↔ x = .error e ∧ s = s' := by
  simp [Raises, lift]

@[simp] theorem returns_ensure {p : Prop} [Decidable p] {e : ε} {u : Unit} {s s' : σ} :
    Returns (ensure p e) s u s' ↔ p ∧ s = s' := by
  simp [ensure, Results.ensure_eq_ok]

@[simp] theorem raises_ensure {p : Prop} [Decidable p] {e e' : ε} {s s' : σ} :
    Raises (ensure p e) s e' s' ↔ ¬p ∧ e = e' ∧ s = s' := by
  by_cases h : p <;> simp [ensure, Results.ensure, h]

@[simp] theorem returns_orRaise {x : Option α} {e : ε} {a : α} {s s' : σ} :
    Returns (orRaise x e) s a s' ↔ x = some a ∧ s = s' := by
  simp [orRaise, Results.orRaise_eq_ok]

@[simp] theorem raises_orRaise {x : Option α} {e e' : ε} {s s' : σ} :
    Raises (orRaise x e : Session σ ε α) s e' s' ↔ x = none ∧ e = e' ∧ s = s' := by
  cases x <;> simp [orRaise, Results.orRaise]

@[simp] theorem returns_scalarOneOrNone {rows : List α} {multiple : ε} {x : Option α} {s s' : σ} :
    Returns (scalarOneOrNone rows multiple) s x s' ↔ rows = x.toList ∧ s = s' := by
  rcases rows with _ | ⟨a, _ | ⟨b, rows⟩⟩ <;> cases x <;> simp [scalarOneOrNone]

@[simp] theorem raises_scalarOneOrNone {rows : List α} {multiple e : ε} {s s' : σ} :
    Raises (scalarOneOrNone rows multiple) s e s' ↔ 1 < rows.length ∧ multiple = e ∧ s = s' := by
  rcases rows with _ | ⟨a, _ | ⟨b, rows⟩⟩ <;> simp [scalarOneOrNone]

theorem returns_bind {x : Session σ ε α} {f : α → Session σ ε β} {s s' : σ} {b : β} :
    Returns (x >>= f) s b s' ↔ ∃ a s₁, Returns x s a s₁ ∧ Returns (f a) s₁ b s' := by
  simp only [Returns, bind]
  cases x s with
  | mk r s₁ => cases r <;> simp

theorem raises_bind {x : Session σ ε α} {f : α → Session σ ε β} {s s' : σ} {e : ε} :
    Raises (x >>= f) s e s' ↔ Raises x s e s' ∨ ∃ a s₁, Returns x s a s₁ ∧ Raises (f a) s₁ e s' := by
  simp only [Raises, Returns, bind]
  cases x s with
  | mk r s₁ => cases r <;> simp

theorem returns_zoom {τ δ : Type} {get : σ → τ} {put : τ → σ → σ} {wrap : δ → ε} {x : Session τ δ α} {s s' : σ} {a : α} :
    Returns (zoom get put wrap x) s a s' ↔ ∃ t, Returns x (get s) a t ∧ put t s = s' := by
  simp only [Returns, zoom]
  cases x (get s) with
  | mk r t => cases r <;> simp [and_comm]

theorem raises_zoom {τ δ : Type} {get : σ → τ} {put : τ → σ → σ} {wrap : δ → ε} {x : Session τ δ α} {s s' : σ} {e : ε} :
    Raises (zoom get put wrap x) s e s' ↔ ∃ e' t, Raises x (get s) e' t ∧ wrap e' = e ∧ put t s = s' := by
  simp only [Raises, zoom]
  cases x (get s) with
  | mk r t => cases r <;> simp [and_comm, and_assoc]

theorem returns_handle {x : Session σ ε α} {handler : ε → Option (Session σ ε α)} {s s' : σ} {a : α} : Returns (handle x handler) s a s' ↔
    Returns x s a s' ∨ ∃ e s₁ y, Raises x s e s₁ ∧ handler e = some y ∧ Returns y s₁ a s' := by
  unfold Returns Raises handle
  cases h : x s with
  | mk r s₁ =>
    cases r with
    | ok b => simp
    | error e =>
      cases hy : handler e with
      | none => simp [hy]
      | some y => simp [hy]

theorem Returns.transaction {x : Session σ ε α} {s s' : σ} {a : α} (h : Returns x s a s') : transaction x s = s' := by
  rw [Session.transaction, show x s = _ from h]

theorem Raises.transaction {x : Session σ ε α} {s s' : σ} {e : ε} (h : Raises x s e s') : transaction x s = s := by
  rw [Session.transaction, show x s = _ from h]

theorem Returns.unique {x : Session σ ε α} {s s₁ s₂ : σ} {a b : α} (h : Returns x s a s₁) (h' : Returns x s b s₂) :
    a = b ∧ s₁ = s₂ := by
  rw [Returns, show x s = _ from h] at h'
  simpa using h'

/-! ## Computations that only read -/

/-- the rows stay as they are -/
def ReadOnly (x : Session σ ε α) : Prop := ∀ s, (x s).2 = s

theorem ReadOnly.returns {x : Session σ ε α} (h : ReadOnly x) {s s' : σ} {a : α} (hx : Returns x s a s') : s' = s := by
  have := h s
  rwa [show x s = _ from hx] at this

theorem ReadOnly.raises {x : Session σ ε α} (h : ReadOnly x) {s s' : σ} {e : ε} (hx : Raises x s e s') : s' = s := by
  have := h s
  rwa [show x s = _ from hx] at this

@[simp] theorem readOnly_pure (a : α) : ReadOnly (pure a : Session σ ε α) := fun _ => rfl

@[simp] theorem readOnly_read (f : σ → α) : ReadOnly (read f : Session σ ε α) := fun _ => rfl

@[simp] theorem readOnly_lift (x : Except ε α) : ReadOnly (lift x : Session σ ε α) := fun _ => rfl

@[simp] theorem readOnly_ensure (p : Prop) [Decidable p] (e : ε) : ReadOnly (ensure p e : Session σ ε Unit) := fun _ => rfl

@[simp] theorem readOnly_orRaise (x : Option α) (e : ε) : ReadOnly (orRaise x e : Session σ ε α) := fun _ => rfl

@[simp] theorem readOnly_scalarOneOrNone (rows : List α) (multiple : ε) :
    ReadOnly (scalarOneOrNone rows multiple : Session σ ε (Option α)) := by
  intro s
  rcases rows with _ | ⟨a, _ | ⟨b, rows⟩⟩ <;> rfl

theorem readOnly_bind {x : Session σ ε α} {f : α → Session σ ε β} (hx : ReadOnly x) (hf : ∀ a, ReadOnly (f a)) :
    ReadOnly (x >>= f) := by
  intro s
  rcases returns_or_raises (x >>= f) s with ⟨b, s', hr⟩ | ⟨e, s', hr⟩
  · obtain ⟨a, s₁, ha, hb⟩ := returns_bind.1 hr
    rw [show (x >>= f) s = _ from hr, (hf a).returns hb, hx.returns ha]
  · rw [show (x >>= f) s = _ from hr]
    rcases raises_bind.1 hr with hraises | ⟨a, s₁, ha, hraises⟩
    · exact hx.raises hraises
    · rw [(hf a).raises hraises, hx.returns ha]

/-! ## What a computation that raises has written -/

/-- if the computation raises, it has written nothing -/
def Unchanged (x : Session σ ε α) (s : σ) : Prop := ∀ e s', Raises x s e s' → s' = s

/-- the computation does not raise -/
def Never (x : Session σ ε α) (s : σ) : Prop := ∀ e s', ¬Raises x s e s'

theorem Never.unchanged {x : Session σ ε α} {s : σ} (h : Never x s) : Unchanged x s :=
  fun e s' hr => absurd hr (h e s')

/-- a statement that only reads comes before those that write -/
theorem unchanged_bind {x : Session σ ε α} {f : α → Session σ ε β} {s : σ} (hx : ReadOnly x)
    (hf : ∀ a, Returns x s a s → Unchanged (f a) s) : Unchanged (x >>= f) s := by
  intro e s' h
  rcases raises_bind.1 h with hraises | ⟨a, s₁, ha, hraises⟩
  · exact hx.raises hraises
  · have heq := hx.returns ha
    rw [heq] at ha hraises
    exact hf a ha e s' hraises

theorem never_bind {x : Session σ ε α} {f : α → Session σ ε β} {s : σ} (hx : Never x s)
    (hf : ∀ a s₁, Returns x s a s₁ → Never (f a) s₁) : Never (x >>= f) s := by
  intro e s' h
  rcases raises_bind.1 h with h | ⟨a, s₁, ha, h⟩
  · exact hx e s' h
  · exact hf a s₁ ha e s' h

@[simp] theorem never_pure (a : α) (s : σ) : Never (pure a : Session σ ε α) s := fun _ _ h => raises_pure.1 h

@[simp] theorem never_modify (f : σ → σ) (s : σ) : Never (modify f : Session σ ε Unit) s := fun _ _ h => raises_modify.1 h

theorem never_ensure {p : Prop} [Decidable p] (h : p) (e : ε) (s : σ) : Never (ensure p e : Session σ ε Unit) s :=
  fun _ _ hr => (raises_ensure.1 hr).1 h

@[simp] theorem never_read (f : σ → α) (s : σ) : Never (read f : Session σ ε α) s := fun _ _ h => raises_read.1 h

end Session

end AtoService
