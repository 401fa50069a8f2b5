/-
Collecting a list while keeping the first value of each key, up to a cap.

`collect` is the loop: values whose key was seen are skipped, and the loop stops once `cap` values are collected.
`firsts` is the same without a cap, and `collect_eq_take` says that the loop returns the first `cap` of them.
`exists_mem_collect`: a value with a property is collected if and only if one is the first of its key and fewer than
`cap` keys come before it.
-/
import Mathlib.Tactic

namespace AtoService.FirstWins

variable {α κ : Type} [DecidableEq κ] (key : α → κ)

/-- the values that are the first of their key, when the keys in `seen` have come before -/
def firsts (seen : List κ) : List α → List α
  | [] => []
  | x :: xs => if key x ∈ seen then firsts seen xs else x :: firsts (key x :: seen) xs

/-- the loop: `merged` is what it has collected, `seen` the keys of that -/
def collect (cap : Nat) (merged : List α) (seen : List κ) : List α → List α
  | [] => merged
  | x :: xs =>
    if key x ∈ seen then collect cap merged seen xs
    else if cap ≤ (merged ++ [x]).length then merged ++ [x]
    else collect cap (merged ++ [x]) (key x :: seen) xs

variable {key}

theorem firsts_cons_seen {seen : List κ} {x : α} (h : key x ∈ seen) (xs : List α) :
    firsts key seen (x :: xs) = firsts key seen xs := if_pos h

theorem firsts_cons_new {seen : List κ} {x : α} (h : key x ∉ seen) (xs : List α) :
    firsts key seen (x :: xs) = x :: firsts key (key x :: seen) xs := if_neg h

theorem mem_keys_firsts {seen : List κ} {xs : List α} {k : κ} :
    k ∈ (firsts key seen xs).map key ↔ k ∈ xs.map key ∧ k ∉ seen := by
  induction xs generalizing seen with
  | nil => simp [firsts]
  | cons x xs ih =>
    by_cases h : key x ∈ seen
    · rw [firsts_cons_seen h, ih, List.map_cons, List.mem_cons]
      constructor
      · rintro ⟨hk, hs⟩
        exact ⟨Or.inr hk, hs⟩
      · rintro ⟨rfl | hk, hs⟩
        · exact absurd h hs
        · exact ⟨hk, hs⟩
    · rw [firsts_cons_new h, List.map_cons, List.mem_cons, ih, List.map_cons, List.mem_cons, List.mem_cons]
      constructor
      · rintro (rfl | ⟨hk, hs⟩)
        · exact ⟨Or.inl rfl, h⟩
        · exact ⟨Or.inr hk, fun hmem => hs (Or.inr hmem)⟩
      · rintro ⟨rfl | hk, hs⟩
        · exact Or.inl rfl
        · by_cases hx : k = key x
          · exact Or.inl hx
          · exact Or.inr ⟨hk, fun hmem => hmem.elim hx hs⟩

theorem nodup_keys_firsts (seen : List κ) (xs : List α) : ((firsts key seen xs).map key).Nodup := by
  induction xs generalizing seen with
  | nil => exact List.nodup_nil
  | cons x xs ih =>
    by_cases h : key x ∈ seen
    · rw [firsts_cons_seen h]
      exact ih seen
    · rw [firsts_cons_new h, List.map_cons, List.nodup_cons]
      refine ⟨fun hmem => ?_, ih _⟩
      exact (mem_keys_firsts.1 hmem).2 List.mem_cons_self

/-- as many values are first as there are keys -/
theorem length_firsts (xs : List α) : (firsts key [] xs).length = (xs.map key).toFinset.card := by
  have hset : ((firsts key [] xs).map key).toFinset = (xs.map key).toFinset := by
    ext k
    rw [List.mem_toFinset, List.mem_toFinset, mem_keys_firsts]
    simp
  rw [← hset, List.toFinset_card_of_nodup (nodup_keys_firsts [] xs), List.length_map]

/-- **The loop returns the first `cap` of the first values.** -/
theorem collect_eq_take {cap : Nat} {merged : List α} {seen : List κ} (h : merged.length < cap) (xs : List α) :
    collect key cap merged seen xs = merged ++ (firsts key seen xs).take (cap - merged.length) := by
  induction xs generalizing merged seen with
  | nil => simp [collect, firsts]
  | cons x xs ih =>
    rw [collect]
    by_cases hx : key x ∈ seen
    · rw [if_pos hx, ih h, firsts_cons_seen hx]
    · rw [if_neg hx, firsts_cons_new hx]
      have hlen : (merged ++ [x]).length = merged.length + 1 := List.length_append
      obtain ⟨n, hn⟩ : ∃ n, cap - merged.length = n + 1 := ⟨cap - merged.length - 1, by omega⟩
      rw [hn, List.take_succ_cons]
      split_ifs with hcap
      · have hn0 : n = 0 := by omega
        rw [hn0, List.take_zero]
      · rw [ih (by omega), hlen, List.append_assoc, List.singleton_append]
        congr 3
        omega

/-- a value is among the first `n` of the first values -/
theorem exists_mem_take_firsts {P : α → Prop} {n : Nat} {seen : List κ} {xs : List α} :
    (∃ x ∈ (firsts key seen xs).take n, P x) ↔ ∃ before x after, xs = before ++ x :: after ∧ P x ∧ key x ∉ seen ∧
      key x ∉ before.map key ∧ (firsts key seen before).length < n := by
  induction xs generalizing seen n with
  | nil => simp [firsts]
  | cons y ys ih =>
    by_cases hy : key y ∈ seen
    · -- `y` is skipped, so what is found comes after it
      rw [firsts_cons_seen hy, ih]
      constructor
      · rintro ⟨before, x, after, rfl, hP, hs, hb, hn⟩
        refine ⟨y :: before, x, after, rfl, hP, hs, ?_, by rwa [firsts_cons_seen hy]⟩
        rw [List.map_cons, List.mem_cons]
        rintro (heq | hmem)
        · exact hs (heq ▸ hy)
        · exact hb hmem
      · rintro ⟨before, x, after, heq, hP, hs, hb, hn⟩
        cases before with
        | nil =>
          obtain ⟨rfl, -⟩ := List.cons.inj heq
          exact absurd hy hs
        | cons z before =>
          obtain ⟨rfl, rfl⟩ := List.cons.inj heq
          rw [firsts_cons_seen hy] at hn
          exact ⟨before, x, after, rfl, hP, hs, fun hmem => hb (List.mem_cons_of_mem _ hmem), hn⟩
    · rw [firsts_cons_new hy]
      cases n with
      | zero => simp
      | succ n =>
        rw [List.take_succ_cons]
        constructor
        · rintro ⟨x, hx, hP⟩
          rcases List.mem_cons.1 hx with rfl | hx
          · exact ⟨[], x, ys, rfl, hP, hy, List.not_mem_nil, Nat.succ_pos n⟩
          · obtain ⟨before, x, after, rfl, hP, hs, hb, hn⟩ := ih.1 ⟨x, hx, hP⟩
            refine ⟨y :: before, x, after, rfl, hP, fun h => hs (List.mem_cons_of_mem _ h), ?_, ?_⟩
            · rw [List.map_cons, List.mem_cons]
              rintro (heq | hmem)
              · exact hs (heq ▸ List.mem_cons_self)
              · exact hb hmem
            · rw [firsts_cons_new hy, List.length_cons]
              exact Nat.succ_lt_succ hn
        · rintro ⟨before, x, after, heq, hP, hs, hb, hn⟩
          cases before with
          | nil =>
            obtain ⟨rfl, -⟩ := List.cons.inj heq
            exact ⟨y, List.mem_cons_self, hP⟩
          | cons z before =>
            obtain ⟨rfl, rfl⟩ := List.cons.inj heq
            rw [firsts_cons_new hy, List.length_cons] at hn
            rw [List.map_cons, List.mem_cons, not_or] at hb
            have hs' : key x ∉ key y :: seen := fun h => (List.mem_cons.1 h).elim hb.1 hs
            obtain ⟨x', hx', hP'⟩ := ih.2 ⟨before, x, after, rfl, hP, hs', hb.2, Nat.lt_of_succ_lt_succ hn⟩
            exact ⟨x', List.mem_cons_of_mem _ hx', hP'⟩

/-- **What the loop collects**: a value with the property, when it is the first of its key and fewer than `cap` keys
come before it. -/
theorem exists_mem_collect {P : α → Prop} {cap : Nat} (hcap : 0 < cap) {xs : List α} :
    (∃ x ∈ collect key cap [] [] xs, P x) ↔ ∃ before x after, xs = before ++ x :: after ∧ P x ∧
      key x ∉ before.map key ∧ (before.map key).toFinset.card < cap := by
  rw [collect_eq_take (by simpa using hcap), List.nil_append, List.length_nil, Nat.sub_zero, exists_mem_take_firsts]
  constructor
  · rintro ⟨before, x, after, heq, hP, -, hb, hn⟩
    rw [length_firsts] at hn
    exact ⟨before, x, after, heq, hP, hb, hn⟩
  · rintro ⟨before, x, after, heq, hP, hb, hn⟩
    rw [← length_firsts] at hn
    exact ⟨before, x, after, heq, hP, List.not_mem_nil, hb, hn⟩

end AtoService.FirstWins
