/-
Texts that are made of parts, each ended by a separator, and split again.

- `splitOnP_terminated`: the split of the whole is the splits of the parts, and an empty rest.
- `flatMap_splitOnP_of_free`: parts without separators come back as they are.
- `free_of_length`: only then are there as many pieces as parts.
-/
import Mathlib.Tactic

namespace AtoService.Separated

variable {α β : Type} {p : α → Bool} {sep : α} {f : β → List α} {xs : List β}

theorem splitOnP_terminated (hsep : p sep = true) (f : β → List α) (xs : List β) :
    (xs.flatMap fun x => f x ++ [sep]).splitOnP p = (xs.flatMap fun x => (f x).splitOnP p) ++ [[]] := by
  induction xs with
  | nil => rfl
  | cons x xs ih =>
    rw [List.flatMap_cons, List.flatMap_cons, List.append_assoc, List.singleton_append,
      List.splitOnP_append_cons _ _ hsep, ih, List.append_assoc]

theorem flatMap_splitOnP_of_free (h : ∀ x ∈ xs, ∀ a ∈ f x, p a = false) :
    (xs.flatMap fun x => (f x).splitOnP p) = xs.map f := by
  induction xs with
  | nil => rfl
  | cons x xs ih =>
    rw [List.flatMap_cons, List.map_cons, List.splitOnP_eq_singleton (h x List.mem_cons_self),
      ih fun y hy => h y (List.mem_cons_of_mem _ hy), List.singleton_append]

theorem one_le_length_splitOnP (as : List α) : 1 ≤ (as.splitOnP p).length :=
  List.length_pos_iff.2 (List.splitOnP_ne_nil p as)

/-- a list with a separator splits in two at least -/
theorem free_of_length_le_one {as : List α} (h : (as.splitOnP p).length ≤ 1) : ∀ a ∈ as, p a = false := by
  intro a ha
  by_contra hp
  obtain ⟨front, back, rfl⟩ := List.append_of_mem ha
  rw [List.splitOnP_append_cons _ _ (Bool.not_eq_false _ ▸ hp), List.length_append] at h
  have hfront := one_le_length_splitOnP (p := p) front
  have hback := one_le_length_splitOnP (p := p) back
  omega

theorem length_le_length_flatMap_splitOnP (f : β → List α) (xs : List β) :
    xs.length ≤ (xs.flatMap fun x => (f x).splitOnP p).length := by
  induction xs with
  | nil => exact le_rfl
  | cons x xs ih =>
    have hone := one_le_length_splitOnP (p := p) (f x)
    rw [List.flatMap_cons, List.length_append, List.length_cons]
    omega

theorem free_of_length (h : (xs.flatMap fun x => (f x).splitOnP p).length = xs.length) :
    ∀ x ∈ xs, ∀ a ∈ f x, p a = false := by
  induction xs with
  | nil => exact fun x hx => absurd hx List.not_mem_nil
  | cons x xs ih =>
    have hone := one_le_length_splitOnP (p := p) (f x)
    have hrest := length_le_length_flatMap_splitOnP (p := p) f xs
    rw [List.flatMap_cons, List.length_append, List.length_cons] at h
    intro y hy
    rcases List.mem_cons.1 hy with rfl | hy
    · exact free_of_length_le_one (by omega)
    · exact ih (by omega) y hy

end AtoService.Separated
