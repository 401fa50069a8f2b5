/-
Computations that may raise: what a successful `do` block and a successful loop went through.

`bind_eq_ok` peels a successful computation apart step by step, `ensure_eq_ok` reads a check, and `mapM_eq_ok` reads
`[f(x) for x in xs]` entry by entry; the lemmas on `error` do the same for one that raises.
-/
import Mathlib.Tactic

namespace AtoService.Results

variable {α β ε : Type}

theorem bind_eq_ok {x : Except ε α} {f : α → Except ε β} {b : β} :
    (x >>= f) = .ok b ↔ ∃ a, x = .ok a ∧ f a = .ok b := by
  cases x <;> simp [bind, Except.bind]

theorem bind_eq_error {x : Except ε α} {f : α → Except ε β} {e : ε} :
    (x >>= f) = .error e ↔ x = .error e ∨ ∃ a, x = .ok a ∧ f a = .error e := by
  cases x <;> simp [bind, Except.bind]

theorem mapError_eq_ok {δ : Type} {g : ε → δ} {x : Except ε α} {a : α} : x.mapError g = .ok a ↔ x = .ok a := by
  cases x <;> simp [Except.mapError]

theorem mapError_eq_error {δ : Type} {g : ε → δ} {x : Except ε α} {d : δ} :
    x.mapError g = .error d ↔ ∃ e, x = .error e ∧ g e = d := by
  cases x <;> simp [Except.mapError]

theorem ok_of_map_eq_ok {f : α → β} {x : Except ε α} {a : α} (h : f <$> x = f <$> (.ok a : Except ε α)) :
    ∃ b, x = .ok b ∧ f b = f a := by
  cases x with
  | error e => cases h
  | ok b => exact ⟨b, rfl, Except.ok.inj h⟩

/-- `if not p: raise e` -/
def ensure (p : Prop) [Decidable p] (e : ε) : Except ε Unit := if p then .ok () else .error e

theorem ensure_eq_ok {p : Prop} [Decidable p] {e : ε} {u : Unit} : ensure p e = .ok u ↔ p := by
  by_cases h : p <;> simp [ensure, h]

theorem ensure_eq_error {p : Prop} [Decidable p] {e d : ε} : ensure p e = .error d ↔ ¬p ∧ e = d := by
  by_cases h : p <;> simp [ensure, h]

/-- the value of an optional row, or the error for a missing one -/
def orRaise (x : Option α) (e : ε) : Except ε α :=
  match x with
  | none => .error e
  | some a => .ok a

theorem orRaise_eq_ok {x : Option α} {e : ε} {a : α} : orRaise x e = .ok a ↔ x = some a := by
  cases x <;> simp [orRaise]

theorem pure_ne_error {a : α} {e : ε} : (pure a : Except ε α) ≠ .error e := by
  simp [pure, Except.pure]

theorem pure_eq_ok {a b : α} : (pure a : Except ε α) = .ok b ↔ a = b := by
  simp [pure, Except.pure]

/-! ## Lists entry by entry -/

theorem exists_of_forall₂ {R : α → β → Prop} {l : List α} {l' : List β} (h : List.Forall₂ R l l') {b : β} (hb : b ∈ l') :
    ∃ a ∈ l, R a b := by
  induction h with
  | nil => exact absurd hb List.not_mem_nil
  | cons hab _ ih =>
    rcases List.mem_cons.1 hb with rfl | hb
    · exact ⟨_, List.mem_cons_self, hab⟩
    · obtain ⟨a, ha, hR⟩ := ih hb
      exact ⟨a, List.mem_cons_of_mem _ ha, hR⟩

theorem exists_of_forall₂' {R : α → β → Prop} {l : List α} {l' : List β} (h : List.Forall₂ R l l') {a : α} (ha : a ∈ l) :
    ∃ b ∈ l', R a b := exists_of_forall₂ h.flip ha

theorem forall₂_comp {γ : Type} {R : α → β → Prop} {S : β → γ → Prop} {xs : List α} {ys : List β} {zs : List γ}
    (hxy : List.Forall₂ R xs ys) (hyz : List.Forall₂ S ys zs) : List.Forall₂ (fun x z => ∃ y, R x y ∧ S y z) xs zs := by
  induction hxy generalizing zs with
  | nil =>
    cases hyz
    exact List.Forall₂.nil
  | cons hx _ ih =>
    cases hyz with
    | cons hy hrest => exact List.Forall₂.cons ⟨_, hx, hy⟩ (ih hrest)

theorem mapM_eq_ok {f : α → Except ε β} {xs : List α} {ys : List β} :
    xs.mapM f = .ok ys ↔ List.Forall₂ (fun x y => f x = .ok y) xs ys := by
  induction xs generalizing ys with
  | nil => simp [pure, Except.pure, eq_comm]
  | cons x xs ih =>
    simp only [List.mapM_cons, bind_eq_ok, pure_eq_ok, List.forall₂_cons_left_iff]
    constructor
    · rintro ⟨y, hy, ys, hys, rfl⟩
      exact ⟨y, ys, hy, ih.1 hys, rfl⟩
    · rintro ⟨y, ys, hy, hys, rfl⟩
      exact ⟨y, hy, ys, ih.2 hys, rfl⟩

/-- a loop succeeds where every entry does -/
theorem mapM_isOk {f : α → Except ε β} {xs : List α} : (∃ ys, xs.mapM f = .ok ys) ↔ ∀ x ∈ xs, ∃ y, f x = .ok y := by
  induction xs with
  | nil => exact iff_of_true ⟨[], rfl⟩ (by simp)
  | cons x xs ih =>
    simp only [List.mapM_cons, bind_eq_ok, pure_eq_ok, List.forall_mem_cons, ← ih]
    constructor
    · rintro ⟨_, y, hy, ys, hys, -⟩
      exact ⟨⟨y, hy⟩, ys, hys⟩
    · rintro ⟨⟨y, hy⟩, ys, hys⟩
      exact ⟨_, y, hy, ys, hys, rfl⟩

theorem exists_mapM_of_mem {f : α → Except ε β} {xs : List α} {ys : List β} (h : xs.mapM f = .ok ys) {x : α}
    (hx : x ∈ xs) : ∃ y ∈ ys, f x = .ok y := exists_of_forall₂' (mapM_eq_ok.1 h) hx

theorem mem_of_mapM {f : α → Except ε β} {xs : List α} {ys : List β} (h : xs.mapM f = .ok ys) :
    ∀ y ∈ ys, ∃ x ∈ xs, f x = .ok y := fun _ => exists_of_forall₂ (mapM_eq_ok.1 h)

/-- what holds of each result because of its entry holds of all -/
theorem forall_mapM_iff {f : α → Except ε β} {xs : List α} {ys : List β} (h : xs.mapM f = .ok ys) {P : β → Prop}
    {Q : α → Prop} (hiff : ∀ x y, f x = .ok y → (P y ↔ Q x)) : (∀ y ∈ ys, P y) ↔ ∀ x ∈ xs, Q x := by
  have hpairs := mapM_eq_ok.1 h
  clear h
  induction hpairs with
  | nil => simp
  | cons hxy _ ih => simp only [List.forall_mem_cons, ih, hiff _ _ hxy]

theorem optionMapM_eq_some {f : α → Option β} {xs : List α} {ys : List β} :
    xs.mapM f = some ys ↔ List.Forall₂ (fun x y => f x = some y) xs ys := by
  induction xs generalizing ys with
  | nil => simp [pure, eq_comm]
  | cons x xs ih =>
    simp only [List.mapM_cons, Option.bind_eq_bind, Option.bind_eq_some_iff, List.forall₂_cons_left_iff]
    constructor
    · rintro ⟨y, hy, ys', hys, heq⟩
      exact ⟨y, ys', hy, ih.1 hys, (Option.some.inj heq).symm⟩
    · rintro ⟨y, ys', hy, hys, rfl⟩
      exact ⟨y, hy, ys', ih.2 hys, rfl⟩

end AtoService.Results
