/-
Runs of a deterministic machine: `run step s ops` folds `step` over a list of operations.

`Along G` says that every step of a run meets the condition `G` in the state it is taken from. `run_inv` and
`run_inv_along` carry a step lemma to whole runs, unconditionally and under a condition on the steps taken.
-/
import Mathlib.Tactic

namespace AtoService.Runs

variable {σ α : Type} (step : σ → α → σ)

def run (s : σ) (ops : List α) : σ := ops.foldl step s

/-- every step of the run from `s` meets `G` in the state it is taken from -/
def Along (G : σ → α → Prop) : σ → List α → Prop
  | _, [] => True
  | s, o :: ops => G s o ∧ Along G (step s o) ops

variable {step}

instance decidableAlong {G : σ → α → Prop} [∀ s o, Decidable (G s o)] : ∀ s ops, Decidable (Along step G s ops)
  | _, [] => isTrue trivial
  | s, o :: ops => @instDecidableAnd _ _ _ (decidableAlong (step s o) ops)

theorem run_cons (s : σ) (o : α) (ops : List α) : run step s (o :: ops) = run step (step s o) ops := rfl

theorem run_append (s : σ) (l l' : List α) : run step s (l ++ l') = run step (run step s l) l' := by
  simp [run, List.foldl_append]

theorem run_inv {P : σ → Prop} (hstep : ∀ s o, P s → P (step s o)) {s : σ} (hs : P s) (ops : List α) :
    P (run step s ops) := by
  induction ops generalizing s with
  | nil => exact hs
  | cons o ops ih => exact ih (hstep s o hs)

theorem run_inv_along {P : σ → Prop} {G : σ → α → Prop} (hstep : ∀ s o, P s → G s o → P (step s o)) {s : σ}
    (hs : P s) {ops : List α} (hG : Along step G s ops) : P (run step s ops) := by
  induction ops generalizing s with
  | nil => exact hs
  | cons o ops ih => exact ih (hstep s o hs hG.1) hG.2

theorem along_append {G : σ → α → Prop} {s : σ} {l l' : List α} :
    Along step G s (l ++ l') ↔ Along step G s l ∧ Along step G (run step s l) l' := by
  induction l generalizing s with
  | nil => simp [Along, run]
  | cons o l ih => simp only [List.cons_append, Along, ih, run_cons, and_assoc]

end AtoService.Runs
