/-
Tables as lists of rows with a key: writing a row in place of the one with its key.
-/
import Mathlib.Tactic

namespace AtoService.Rows

variable {α κ : Type} [DecidableEq κ] (key : α → κ)

/-- the row with a key -/
def get? (k : κ) (xs : List α) : Option α := xs.find? fun x => key x = k

/-- write a row in place of the one with its key -/
def put (y : α) (xs : List α) : List α := xs.map fun x => if key x = key y then y else x

/-- a column that a session read as `held` and set to `new`, in a row that stores `stored` by now -/
def written {α : Type} [DecidableEq α] (held new stored : α) : α := if new = held then stored else new

/-- a column that nobody else wrote becomes what the session set -/
theorem written_held {α : Type} [DecidableEq α] (held new : α) : written held new held = new := by
  unfold written
  split_ifs with h
  · exact h.symm
  · rfl

variable {key}

theorem mem_of_get? {k : κ} {xs : List α} {x : α} (h : get? key k xs = some x) : x ∈ xs ∧ key x = k :=
  ⟨List.mem_of_find?_eq_some h, by simpa using List.find?_some h⟩

theorem get?_isSome {k : κ} {xs : List α} : (get? key k xs).isSome ↔ k ∈ xs.map key := by
  simp [get?]

/-- a key names one row -/
theorem eq_of_mem {xs : List α} (hd : (xs.map key).Nodup) {x y : α} (hx : x ∈ xs) (hy : y ∈ xs) (h : key x = key y) :
    x = y := List.inj_on_of_nodup_map hd hx hy h

theorem get?_eq_some {xs : List α} (hd : (xs.map key).Nodup) {k : κ} {x : α} :
    get? key k xs = some x ↔ x ∈ xs ∧ key x = k := by
  constructor
  · exact mem_of_get?
  · rintro ⟨hx, rfl⟩
    cases h : get? key (key x) xs with
    | none => simpa using List.find?_eq_none.1 h x hx
    | some y =>
      obtain ⟨hy, hk⟩ := mem_of_get? h
      rw [eq_of_mem hd hy hx hk]

@[simp] theorem keys_put (y : α) (xs : List α) : (put key y xs).map key = xs.map key := by
  rw [put, List.map_map]
  refine List.map_congr_left fun x _ => ?_
  rw [Function.comp_apply]
  split_ifs with h
  · exact h.symm
  · rfl

/-- a row after `y` was written: `y`, or another as it was -/
theorem mem_put {y : α} {xs : List α} (hy : key y ∈ xs.map key) {x : α} :
    x ∈ put key y xs ↔ x = y ∨ x ∈ xs ∧ key x ≠ key y := by
  rw [put, List.mem_map]
  constructor
  · rintro ⟨x', hx', rfl⟩
    split_ifs with h
    · exact Or.inl rfl
    · exact Or.inr ⟨hx', h⟩
  · rintro (rfl | ⟨hx, hne⟩)
    · obtain ⟨x', hx', hk⟩ := List.mem_map.1 hy
      exact ⟨x', hx', if_pos hk⟩
    · exact ⟨x, hx, if_neg hne⟩

/-- the other rows stay -/
theorem mem_put_of_ne {y x : α} {xs : List α} (hx : x ∈ xs) (hne : key x ≠ key y) : x ∈ put key y xs :=
  List.mem_map.2 ⟨x, hx, if_neg hne⟩

/-- a row that is written for itself -/
theorem put_eq_self {y : α} {xs : List α} (hne : ∀ x ∈ xs, key x ≠ key y) : put key y xs = xs := by
  rw [put]
  conv_rhs => rw [← List.map_id xs]
  exact List.map_congr_left fun x hx => if_neg (hne x hx)

/-- the rows, each beside what is in its place after `y` was written -/
theorem forall₂_put {R : α → α → Prop} {y : α} {xs : List α} (hothers : ∀ x ∈ xs, key x ≠ key y → R x x)
    (hput : ∀ x ∈ xs, key x = key y → R x y) : List.Forall₂ R xs (put key y xs) := by
  rw [put, List.forall₂_map_right_iff, List.forall₂_same]
  intro x hx
  split_ifs with h
  · exact hput x hx h
  · exact hothers x hx h

/-- how many rows are counted after one was written in place of another -/
theorem countP_put {x y : α} {xs : List α} (hd : (xs.map key).Nodup) (hx : x ∈ xs) (hk : key y = key x) (p : α → Bool) :
    (put key y xs).countP p + (p x).toNat = xs.countP p + (p y).toNat := by
  induction xs with
  | nil => exact absurd hx List.not_mem_nil
  | cons a xs ih =>
    rw [List.map_cons, List.nodup_cons] at hd
    have hone (q : Bool) : (if q = true then 1 else 0) = q.toNat := by cases q <;> rfl
    rcases List.mem_cons.1 hx with rfl | hx
    · -- the other rows have other keys
      have hrest : put key y xs = xs := put_eq_self fun z hz heq => hd.1 (hk ▸ heq ▸ List.mem_map_of_mem hz)
      rw [show put key y (x :: xs) = y :: put key y xs from by rw [put, List.map_cons, if_pos hk.symm, put], hrest,
        List.countP_cons, List.countP_cons, hone, hone]
      omega
    · have hne : key a ≠ key y := fun heq => hd.1 (heq.trans hk ▸ List.mem_map_of_mem hx)
      rw [show put key y (a :: xs) = a :: put key y xs from by rw [put, List.map_cons, if_neg hne, put],
        List.countP_cons, List.countP_cons, hone]
      have := ih hd.2 hx
      omega

/-- rows that are selected by their key stay selected -/
theorem filter_put (y : α) (xs : List α) (p : α → Bool) (hp : ∀ x, key x = key y → p x = p y) :
    (put key y xs).filter p = put key y (xs.filter p) := by
  induction xs with
  | nil => rfl
  | cons x xs ih =>
    rw [put, List.map_cons, List.filter_cons, List.filter_cons]
    by_cases hk : key x = key y
    · rw [if_pos hk, hp x hk]
      split_ifs
      · rw [put, List.map_cons, if_pos hk]
        exact congrArg _ ih
      · exact ih
    · rw [if_neg hk]
      split_ifs
      · rw [put, List.map_cons, if_neg hk]
        exact congrArg _ ih
      · exact ih

/-- writing a row that is not selected leaves the selected rows -/
theorem filter_put_of_false (y : α) (xs : List α) (p : α → Bool) (hp : ∀ x, key x = key y → p x = false)
    (hy : p y = false) : (put key y xs).filter p = xs.filter p := by
  rw [filter_put y xs p fun x hx => (hp x hx).trans hy.symm, put]
  conv_rhs => rw [← List.map_id (xs.filter p)]
  refine List.map_congr_left fun x hx => ?_
  rw [if_neg]
  · rfl
  · intro hk
    have hsel := (List.mem_filter.1 hx).2
    rw [hp x hk] at hsel
    cases hsel

/-! ## Writing the rows with a key -/

/-- the rows with a key may have been written, the others are as they were -/
def WrittenAt (key : α → κ) (k : κ) (xs ys : List α) : Prop :=
  ∃ f : α → α, (∀ x, key (f x) = key x) ∧ (∀ x, key x ≠ k → f x = x) ∧ ys = xs.map f

variable {k : κ} {xs ys zs : List α}

theorem WrittenAt.refl (xs : List α) : WrittenAt key k xs xs := ⟨id, fun _ => rfl, fun _ _ => rfl, (List.map_id xs).symm⟩

theorem WrittenAt.trans (h : WrittenAt key k xs ys) (h' : WrittenAt key k ys zs) : WrittenAt key k xs zs := by
  obtain ⟨f, hf, hother, rfl⟩ := h
  obtain ⟨g, hg, hother', rfl⟩ := h'
  refine ⟨g ∘ f, fun x => (hg _).trans (hf x), fun x hx => ?_, List.map_map⟩
  rw [Function.comp_apply, hother x hx, hother' x hx]

theorem writtenAt_put {y : α} (hy : key y = k) (xs : List α) : WrittenAt key k xs (put key y xs) := by
  refine ⟨fun x => if key x = key y then y else x, fun x => ?_, fun x hx => if_neg (hy ▸ hx), rfl⟩
  dsimp only
  split_ifs with h
  · exact h.symm
  · rfl

theorem WrittenAt.mem (h : WrittenAt key k xs ys) {x : α} (hx : key x ≠ k) : x ∈ ys ↔ x ∈ xs := by
  obtain ⟨f, hf, hother, rfl⟩ := h
  constructor
  · intro hmem
    obtain ⟨x', hx', rfl⟩ := List.mem_map.1 hmem
    rwa [hother x' (hf x' ▸ hx)]
  · intro hmem
    exact List.mem_map.2 ⟨x, hmem, hother x hx⟩

theorem WrittenAt.get? (h : WrittenAt key k xs ys) {k' : κ} (hk : k' ≠ k) : get? key k' ys = get? key k' xs := by
  obtain ⟨f, hf, hother, rfl⟩ := h
  induction xs with
  | nil => rfl
  | cons x xs ih =>
    simp only [Rows.get?, List.map_cons, List.find?_cons, hf] at ih ⊢
    by_cases hx : key x = k'
    · simp only [hx, decide_true]
      rw [hother x (hx ▸ hk)]
    · simp only [hx, decide_false]
      exact ih

/-- fewer rows pass, when those with the key no longer do and one of them did -/
theorem WrittenAt.countP_lt (h : WrittenAt key k xs ys) {p : α → Bool} (hys : ∀ y ∈ ys, key y = k → p y = false) {x : α}
    (hx : x ∈ xs) (hk : key x = k) (hp : p x = true) : ys.countP p < xs.countP p := by
  obtain ⟨f, hf, hother, rfl⟩ := h
  have hle : ∀ x' ∈ xs, p (f x') = true → p x' = true := by
    intro x' hx' hp'
    by_cases hk' : key x' = k
    · rw [hys (f x') (List.mem_map_of_mem hx') ((hf x').trans hk')] at hp'
      cases hp'
    · rwa [hother x' hk'] at hp'
  have hnot : p (f x) = false := hys (f x) (List.mem_map_of_mem hx) ((hf x).trans hk)
  rw [List.countP_map]
  obtain ⟨as, bs, rfl⟩ := List.append_of_mem hx
  have has : as.countP (p ∘ f) ≤ as.countP p :=
    List.countP_mono_left fun x' hx' => hle x' (List.mem_append_left _ hx')
  have hbs : bs.countP (p ∘ f) ≤ bs.countP p :=
    List.countP_mono_left fun x' hx' => hle x' (List.mem_append_right _ (List.mem_cons_of_mem _ hx'))
  rw [List.countP_append, List.countP_append, List.countP_cons_of_pos hp, List.countP_cons_of_neg (by simp [hnot])]
  omega

/-- the row that was written last -/
theorem get?_put {y x : α} {xs : List α} (hy : key y = k) (h : get? key k (put key y xs) = some x) : x = y := by
  subst hy
  obtain ⟨hmem, hk⟩ := mem_of_get? h
  obtain ⟨x', hx', rfl⟩ := List.mem_map.1 hmem
  by_cases hx : key x' = key y
  · exact if_pos hx
  · rw [if_neg hx] at hk
    exact absurd hk hx

/-! ## Queries with an order and a limit -/

theorem nodup_selected {xs : List α} (hd : (xs.map key).Nodup) (p : α → Bool) (order : α → α → Prop) [DecidableRel order]
    (n : Nat) : ((((xs.filter p).insertionSort order).take n).map key).Nodup := by
  have hsorted : (((xs.filter p).insertionSort order).map key).Nodup :=
    ((List.perm_insertionSort order (xs.filter p)).map key).nodup_iff.2 (hd.sublist (List.filter_sublist.map _))
  exact hsorted.sublist ((List.take_sublist _ _).map _)

theorem mem_selected {xs : List α} {p : α → Bool} {order : α → α → Prop} [DecidableRel order] {n : Nat} {x : α}
    (h : x ∈ ((xs.filter p).insertionSort order).take n) : x ∈ xs ∧ p x = true := by
  have hmem := List.mem_of_mem_take h
  rwa [List.mem_insertionSort, List.mem_filter] at hmem

theorem head_selected {xs : List α} {p : α → Bool} {order : α → α → Prop} [DecidableRel order] {x : α}
    (h : ((xs.filter p).insertionSort order).head? = some x) : x ∈ xs ∧ p x = true := by
  have hmem := List.mem_of_mem_head? h
  rwa [List.mem_insertionSort, List.mem_filter] at hmem

end AtoService.Rows
