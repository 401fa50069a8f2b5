/-
Insertion-ordered dictionaries whose values carry their own key, kept as lists: what `{key(x): x for x in xs}` builds,
what `d[key(x)] = x`, `d.pop(k)` and `tuple(d[k] for k in sorted(d))` do to it.

`get? key k xs` is the lookup. The results say what each operation does to every lookup:
- `get?_put`, `get?_erase`, `get?_update_of_notMem`: the changed key, and every other key unchanged;
- `get?_map`, `get?_filterMap`: rewriting each value in place under an unchanged key;
- `get?_sorted`, `ofList_eq`: sorting, and rebuilding the dictionary from its own values, change no lookup when the
  keys are distinct.
`find?_eq_of_pairwise` is the one order fact: what a scan finds first. `Rewrites W xs ys` says that a dictionary was
rewritten value by value under its own keys.
-/
import AtoService.Lib.PyText
import Mathlib.Tactic
import Mathlib.Data.List.Sort
import Mathlib.Data.String.Basic

namespace AtoService.KeyedList

variable {α : Type} (key : α → String)

/-! ## Operations -/

/-- the value stored under `k` -/
def get? (k : String) (xs : List α) : Option α := xs.find? fun x => key x == k

/-- `d[key(x)] = x`: replace in place, or append -/
def put (x : α) : List α → List α
  | [] => [x]
  | y :: ys => if key y = key x then x :: ys else y :: put x ys

/-- `d.pop(k, None)` -/
def erase (k : String) (xs : List α) : List α := xs.filter fun x => key x ≠ k

/-- assign every value of `ys` in order -/
def update (xs ys : List α) : List α := ys.foldl (fun d y => put key y d) xs

/-- `{key(x): x for x in xs}` -/
def ofList (xs : List α) : List α := update key [] xs

/-- `tuple(d[k] for k in sorted(d))` -/
def sorted (xs : List α) : List α := xs.insertionSort fun a b => key a ≤ key b

/-- no two values share a key -/
def Distinct (xs : List α) : Prop := (xs.map key).Nodup

instance (xs : List α) : Decidable (Distinct key xs) := inferInstanceAs (Decidable (List.Nodup _))

variable {key}

/-! ## Lookups -/

theorem get?_nil (k : String) : get? key k [] = none := rfl

theorem get?_cons (k : String) (x : α) (xs : List α) :
    get? key k (x :: xs) = if key x = k then some x else get? key k xs := by
  unfold get?
  rw [List.find?_cons]
  by_cases h : key x = k
  · simp [h]
  · simp [h, beq_false_of_ne h]

theorem key_of_get? {k : String} {xs : List α} {x : α} (h : get? key k xs = some x) : key x = k := by
  simpa using List.find?_some h

theorem mem_of_get? {k : String} {xs : List α} {x : α} (h : get? key k xs = some x) : x ∈ xs :=
  List.mem_of_find?_eq_some h

theorem get?_eq_none {k : String} {xs : List α} : get? key k xs = none ↔ ∀ x ∈ xs, key x ≠ k := by
  simp [get?, List.find?_eq_none]

theorem get?_isSome {k : String} {xs : List α} : (get? key k xs).isSome ↔ k ∈ xs.map key := by
  rw [← not_iff_not, Bool.not_eq_true, Option.isSome_eq_false_iff, Option.isNone_iff_eq_none, get?_eq_none]
  simp

/-- with distinct keys a lookup is membership -/
theorem get?_eq_some {k : String} {xs : List α} (hd : Distinct key xs) {x : α} :
    get? key k xs = some x ↔ x ∈ xs ∧ key x = k := by
  refine ⟨fun h => ⟨mem_of_get? h, key_of_get? h⟩, ?_⟩
  rintro ⟨hm, hk⟩
  induction xs with
  | nil => simp at hm
  | cons y ys ih =>
    rw [Distinct, List.map_cons, List.nodup_cons] at hd
    rw [get?_cons]
    rcases List.mem_cons.1 hm with rfl | hm
    · rw [if_pos hk]
    · have hne : key y ≠ k := fun hy => hd.1 (List.mem_map.2 ⟨x, hm, hk.trans hy.symm⟩)
      rw [if_neg hne]
      exact ih hd.2 hm

theorem get?_perm {k : String} {xs ys : List α} (hd : Distinct key xs) (hp : xs.Perm ys) :
    get? key k ys = get? key k xs := by
  have hd' : Distinct key ys := (hp.map key).nodup_iff.1 hd
  ext x
  rw [get?_eq_some hd', get?_eq_some hd, hp.mem_iff]

/-! ## Assignment -/

theorem get?_put (k : String) (x : α) (xs : List α) :
    get? key k (put key x xs) = if key x = k then some x else get? key k xs := by
  induction xs with
  | nil => simp [put, get?_cons, get?_nil]
  | cons y ys ih =>
    unfold put
    split_ifs with hyx hk
    · simp [get?_cons, hk]
    · have hy : key y ≠ k := fun h => hk (hyx ▸ h)
      simp [get?_cons, hk, hy]
    · rw [get?_cons, ih]; rename_i hk
      have hy : key y ≠ k := fun h => hyx (h.trans hk.symm)
      simp [hk, hy]
    · rw [get?_cons, ih, get?_cons]; rename_i hk
      simp [hk]

theorem keys_put (x : α) (xs : List α) :
    (put key x xs).map key = if key x ∈ xs.map key then xs.map key else xs.map key ++ [key x] := by
  induction xs with
  | nil => simp [put]
  | cons y ys ih =>
    unfold put
    by_cases hyx : key y = key x
    · simp [hyx]
    · have hxy : key x ≠ key y := fun h => hyx h.symm
      rw [if_neg hyx, List.map_cons, ih]
      by_cases hm : key x ∈ ys.map key
      · simp [hm]
      · simp only [List.map_cons, List.mem_cons, hxy, hm, or_self, if_false, List.cons_append]

theorem mem_keys_put {x : α} {xs : List α} {k : String} :
    k ∈ (put key x xs).map key ↔ k = key x ∨ k ∈ xs.map key := by
  rw [keys_put]
  split_ifs with h
  · exact ⟨Or.inr, fun hk => hk.elim (fun e => e ▸ h) id⟩
  · simp [or_comm]

theorem distinct_put {x : α} {xs : List α} (hd : Distinct key xs) : Distinct key (put key x xs) := by
  unfold Distinct at hd ⊢
  rw [keys_put]
  split_ifs with h
  · exact hd
  · exact List.nodup_append.2 ⟨hd, by simp, fun a ha b hb => by
      rw [List.mem_singleton] at hb; subst hb; exact fun e => h (e ▸ ha)⟩

theorem mem_put {x y : α} {xs : List α} (h : y ∈ put key x xs) : y = x ∨ y ∈ xs := by
  induction xs with
  | nil => exact Or.inl (by simpa [put] using h)
  | cons z zs ih =>
    unfold put at h
    split_ifs at h with hz
    · rcases List.mem_cons.1 h with rfl | h
      · exact Or.inl rfl
      · exact Or.inr (List.mem_cons_of_mem _ h)
    · rcases List.mem_cons.1 h with rfl | h
      · exact Or.inr List.mem_cons_self
      · exact (ih h).imp_right (List.mem_cons_of_mem _)

theorem mem_put_of_distinct {x y : α} {xs : List α} (hd : Distinct key xs) (h : y ∈ put key x xs) :
    y = x ∨ (y ∈ xs ∧ key y ≠ key x) := by
  have hy := (get?_eq_some (distinct_put hd)).2 ⟨h, rfl⟩
  rw [get?_put] at hy
  split_ifs at hy with hk
  · exact Or.inl (Option.some.inj hy).symm
  · exact Or.inr ⟨mem_of_get? hy, Ne.symm hk⟩

/-! ## Bulk assignment -/

theorem distinct_update {xs ys : List α} (hd : Distinct key xs) : Distinct key (update key xs ys) := by
  induction ys generalizing xs with
  | nil => exact hd
  | cons y ys ih => exact ih (distinct_put hd)

/-- a key that no new value has keeps its value -/
theorem get?_update_of_notMem {k : String} {xs ys : List α} (h : ∀ y ∈ ys, key y ≠ k) :
    get? key k (update key xs ys) = get? key k xs := by
  induction ys generalizing xs with
  | nil => rfl
  | cons y ys ih =>
    have hy : key y ≠ k := h y List.mem_cons_self
    refine (ih fun z hz => h z (List.mem_cons_of_mem _ hz)).trans ?_
    rw [get?_put, if_neg hy]

theorem mem_update {y : α} {xs ys : List α} (h : y ∈ update key xs ys) : y ∈ ys ∨ y ∈ xs := by
  induction ys generalizing xs with
  | nil => exact Or.inr h
  | cons z zs ih =>
    rcases ih h with h | h
    · exact Or.inl (List.mem_cons_of_mem _ h)
    · rcases mem_put h with rfl | h
      · exact Or.inl List.mem_cons_self
      · exact Or.inr h

/-- every new value is there afterwards, when no two of them share a key -/
theorem get?_update_of_mem {y : α} {xs ys : List α} (hd : Distinct key ys) (h : y ∈ ys) :
    get? key (key y) (update key xs ys) = some y := by
  induction ys generalizing xs with
  | nil => simp at h
  | cons z zs ih =>
    rw [Distinct, List.map_cons, List.nodup_cons] at hd
    rcases List.mem_cons.1 h with rfl | h
    · have hz : ∀ w ∈ zs, key w ≠ key y := fun w hw e => hd.1 (e ▸ List.mem_map_of_mem hw)
      refine (get?_update_of_notMem hz).trans ?_
      rw [get?_put, if_pos rfl]
    · exact ih hd.2 h

theorem distinct_ofList (xs : List α) : Distinct key (ofList key xs) := distinct_update List.nodup_nil

theorem put_of_notMem {x : α} {xs : List α} (h : ∀ y ∈ xs, key y ≠ key x) : put key x xs = xs ++ [x] := by
  induction xs with
  | nil => rfl
  | cons y ys ih =>
    unfold put
    rw [if_neg (h y List.mem_cons_self), ih fun z hz => h z (List.mem_cons_of_mem _ hz)]
    rfl

theorem update_of_disjoint {xs ys : List α} (h : Distinct key (xs ++ ys)) : update key xs ys = xs ++ ys := by
  induction ys generalizing xs with
  | nil => simp [update]
  | cons y ys ih =>
    have hy : ∀ z ∈ xs, key z ≠ key y := by
      intro z hz e
      rw [Distinct, List.map_append, List.nodup_append] at h
      exact h.2.2 _ (List.mem_map_of_mem hz) _ (by simp) e
    have hstep : update key xs (y :: ys) = update key (xs ++ [y]) ys := by
      simp [update, put_of_notMem hy]
    rw [hstep, ih (by simpa using h)]
    simp

/-- a dictionary rebuilt from its own values is itself -/
theorem ofList_eq {xs : List α} (hd : Distinct key xs) : ofList key xs = xs := by
  have h : Distinct key ([] ++ xs) := by simpa using hd
  simpa [ofList] using update_of_disjoint h

theorem mem_ofList {x : α} {xs : List α} (h : x ∈ ofList key xs) : x ∈ xs := by
  rcases mem_update h with h | h
  · exact h
  · simp at h

theorem mem_keys_update {k : String} {xs ys : List α} :
    k ∈ (update key xs ys).map key ↔ k ∈ ys.map key ∨ k ∈ xs.map key := by
  induction ys generalizing xs with
  | nil => simp [update]
  | cons y ys ih =>
    refine (@ih (put key y xs)).trans ?_
    rw [mem_keys_put, List.map_cons, List.mem_cons]
    tauto

theorem mem_keys_ofList {k : String} {xs : List α} : k ∈ (ofList key xs).map key ↔ k ∈ xs.map key := by
  refine mem_keys_update.trans ⟨?_, Or.inl⟩
  rintro (h | h)
  · exact h
  · exact absurd h List.not_mem_nil

/-- the last value with a key is the one that stays -/
theorem get?_ofList_of_last {x : α} {xs ys : List α} (h : ∀ y ∈ ys, key y ≠ key x) :
    get? key (key x) (ofList key (xs ++ x :: ys)) = some x := by
  have hsplit : ofList key (xs ++ x :: ys) = update key (put key x (ofList key xs)) ys := by
    simp only [ofList, update, List.foldl_append, List.foldl_cons]
  rw [hsplit, get?_update_of_notMem h, get?_put, if_pos rfl]

/-! ## Removal and rewriting in place -/

theorem distinct_erase {k : String} {xs : List α} (hd : Distinct key xs) : Distinct key (erase key k xs) :=
  (List.filter_sublist.map key).nodup hd

theorem get?_map {β : Type} {key' : β → String} {f : α → β} (hf : ∀ x, key' (f x) = key x) (k : String)
    (xs : List α) : get? key' k (xs.map f) = (get? key k xs).map f := by
  induction xs with
  | nil => rfl
  | cons y ys ih =>
    rw [List.map_cons, get?_cons, get?_cons, ih, hf]
    split_ifs <;> rfl

theorem keys_map {β : Type} {key' : β → String} {f : α → β} (hf : ∀ x, key' (f x) = key x) (xs : List α) :
    (xs.map f).map key' = xs.map key := by
  simp [hf]

theorem distinct_map {β : Type} {key' : β → String} {f : α → β} (hf : ∀ x, key' (f x) = key x) {xs : List α} :
    Distinct key' (xs.map f) ↔ Distinct key xs := by
  rw [Distinct, keys_map hf, Distinct]

theorem get?_filterMap {f : α → Option α} (hf : ∀ x y, f x = some y → key y = key x) {k : String} {xs : List α}
    (hd : Distinct key xs) : get? key k (xs.filterMap f) = (get? key k xs).bind f := by
  induction xs with
  | nil => rfl
  | cons x xs ih =>
    rw [Distinct, List.map_cons, List.nodup_cons] at hd
    rw [get?_cons]
    cases hfx : f x with
    | none =>
      rw [List.filterMap_cons_none hfx, ih hd.2]
      split_ifs with hk
      · have : get? key k xs = none :=
          get?_eq_none.2 fun y hy e => hd.1 (List.mem_map.2 ⟨y, hy, e.trans hk.symm⟩)
        simp [this, hfx]
      · rfl
    | some y =>
      rw [List.filterMap_cons_some hfx, get?_cons, hf x y hfx, ih hd.2]
      split_ifs with hk
      · simp [hfx]
      · rfl

theorem distinct_filterMap {f : α → Option α} (hf : ∀ x y, f x = some y → key y = key x) {xs : List α}
    (hd : Distinct key xs) : Distinct key (xs.filterMap f) := by
  induction xs with
  | nil => exact List.nodup_nil
  | cons x xs ih =>
    rw [Distinct, List.map_cons, List.nodup_cons] at hd
    cases hfx : f x with
    | none => rw [List.filterMap_cons_none hfx]; exact ih hd.2
    | some y =>
      rw [List.filterMap_cons_some hfx, Distinct, List.map_cons, List.nodup_cons]
      refine ⟨fun hm => hd.1 ?_, ih hd.2⟩
      obtain ⟨z, hz, hzy⟩ := List.mem_map.1 hm
      obtain ⟨w, hw, hwz⟩ := List.mem_filterMap.1 hz
      rw [← hf x y hfx, ← hzy, hf w z hwz]
      exact List.mem_map_of_mem hw

/-! ## Sorting -/

theorem sorted_perm (xs : List α) : (sorted key xs).Perm xs := List.perm_insertionSort _ _

theorem distinct_sorted {xs : List α} (hd : Distinct key xs) : Distinct key (sorted key xs) :=
  ((sorted_perm xs).map key).nodup_iff.2 hd

theorem get?_sorted {k : String} {xs : List α} (hd : Distinct key xs) :
    get? key k (sorted key xs) = get? key k xs := get?_perm hd (sorted_perm xs).symm

theorem mem_sorted {x : α} {xs : List α} : x ∈ sorted key xs ↔ x ∈ xs := (sorted_perm xs).mem_iff

theorem mem_keys_sorted {k : String} {xs : List α} : k ∈ (sorted key xs).map key ↔ k ∈ xs.map key :=
  ((sorted_perm xs).map key).mem_iff

theorem sorted_pairwise (xs : List α) : (sorted key xs).Pairwise fun a b => key a ≤ key b := by
  have : Std.Total (fun a b : α => key a ≤ key b) := ⟨fun a b => le_total (key a) (key b)⟩
  have : IsTrans α (fun a b => key a ≤ key b) := ⟨fun _ _ _ => le_trans⟩
  exact List.pairwise_insertionSort _ xs

/-- looking an element up by a key that no other element has -/
theorem find?_of_nodup {β γ : Type} [DecidableEq γ] {f : β → γ} {xs : List β} (hd : (xs.map f).Nodup) {x : β}
    (hx : x ∈ xs) : xs.find? (fun y => f y = f x) = some x := by
  induction xs with
  | nil => simp at hx
  | cons y ys ih =>
    rw [List.map_cons, List.nodup_cons] at hd
    rcases List.mem_cons.1 hx with rfl | hx
    · simp
    · have hne : f y ≠ f x := fun he => hd.1 (he ▸ List.mem_map_of_mem hx)
      rw [List.find?_cons_of_neg (by simpa using hne)]
      exact ih hd.2 hx

/-! ## Rewriting a whole dictionary -/

/-- an assignment to a key that is there changes what `f` reads of the values only where it differs -/
theorem map_put_of_get? {β : Type} {f : α → β} {k : String} {x y : α} {xs : List α} (h : get? key k xs = some y)
    (hx : key x = k) (hf : f x = f y) : (put key x xs).map f = xs.map f := by
  induction xs with
  | nil => simp [get?] at h
  | cons z zs ih =>
    rw [get?_cons] at h
    rw [put]
    by_cases hz : key z = k
    · rw [if_pos hz, Option.some.injEq] at h
      rw [if_pos (hz.trans hx.symm), List.map_cons, List.map_cons, hf, h]
    · rw [if_neg hz] at h
      rw [if_neg fun he => hz (he.trans hx), List.map_cons, List.map_cons, ih h]

/-- an assignment to a key that is there changes no key -/
theorem keys_put_of_get? {k : String} {x y : α} {xs : List α} (h : get? key k xs = some y) (hx : key x = k) :
    (put key x xs).map key = xs.map key :=
  map_put_of_get? h hx (hx.trans (key_of_get? h).symm)

/-- `ys` is `xs` rewritten: the same keys, and each value made by `W` from the one under its key -/
structure Rewrites (key : α → String) (W : α → α → Prop) (xs ys : List α) : Prop where
  keys : (ys.map key).Perm (xs.map key)
  source : ∀ y ∈ ys, ∃ x ∈ xs, key y = key x ∧ W x y

namespace Rewrites

variable {W : α → α → Prop} {xs ys : List α}

theorem refl (hW : ∀ x ∈ xs, W x x) : Rewrites key W xs xs := ⟨List.Perm.refl _, fun x hx => ⟨x, hx, rfl, hW x hx⟩⟩

theorem mono {W' : α → α → Prop} (h : Rewrites key W xs ys) (hW : ∀ x ∈ xs, ∀ y, key y = key x → W x y → W' x y) :
    Rewrites key W' xs ys := by
  refine ⟨h.keys, fun y hy => ?_⟩
  obtain ⟨x, hx, hk, hw⟩ := h.source y hy
  exact ⟨x, hx, hk, hW x hx y hk hw⟩

theorem trans {W' W'' : α → α → Prop} {zs : List α} (h : Rewrites key W xs ys) (h' : Rewrites key W' ys zs)
    (hW : ∀ x ∈ xs, ∀ y z, key y = key x → key z = key y → W x y → W' y z → W'' x z) : Rewrites key W'' xs zs := by
  refine ⟨h'.keys.trans h.keys, fun z hz => ?_⟩
  obtain ⟨y, hy, hzy, hw'⟩ := h'.source z hz
  obtain ⟨x, hx, hyx, hw⟩ := h.source y hy
  exact ⟨x, hx, hzy.trans hyx, hW x hx y z hyx hzy hw hw'⟩

/-- one assignment, to a key that is there -/
theorem assign {k : String} {x z : α} (hd : Distinct key xs) (hx : KeyedList.get? key k xs = some x) (hz : key z = k)
    (hW : W x z) (hsame : ∀ y ∈ xs, key y ≠ k → W y y) : Rewrites key W xs (KeyedList.put key z xs) := by
  refine ⟨by rw [keys_put_of_get? hx hz], fun w hw => ?_⟩
  rcases mem_put_of_distinct hd hw with rfl | ⟨hw, hne⟩
  · exact ⟨x, mem_of_get? hx, hz.trans (key_of_get? hx).symm, hW⟩
  · exact ⟨w, hw, rfl, hsame w hw (hz ▸ hne)⟩

theorem put {k : String} {y z : α} (h : Rewrites key W xs ys) (hy : get? key k ys = some y) (hz : key z = k)
    (hW : ∀ x ∈ xs, key x = k → W x y → W x z) : Rewrites key W xs (put key z ys) := by
  refine ⟨by rw [keys_put_of_get? hy hz]; exact h.keys, fun w hw => ?_⟩
  rcases mem_put hw with rfl | hw
  · obtain ⟨x, hx, hk, hxy⟩ := h.source y (mem_of_get? hy)
    have hkx : key x = k := hk.symm.trans (key_of_get? hy)
    exact ⟨x, hx, hz.trans hkx.symm, hW x hx hkx hxy⟩
  · exact h.source w hw

theorem sorted (h : Rewrites key W xs ys) : Rewrites key W xs (sorted key ys) :=
  ⟨((sorted_perm ys).map key).trans h.keys, fun y hy => h.source y (mem_sorted.1 hy)⟩

theorem map {f : α → α} (hf : ∀ x, key (f x) = key x) (hW : ∀ x ∈ xs, W x (f x)) : Rewrites key W xs (xs.map f) := by
  refine ⟨by rw [keys_map hf], fun y hy => ?_⟩
  obtain ⟨x, hx, rfl⟩ := List.mem_map.1 hy
  exact ⟨x, hx, hf x, hW x hx⟩

theorem distinct (h : Rewrites key W xs ys) (hd : Distinct key xs) : Distinct key ys := h.keys.nodup_iff.2 hd

end Rewrites

end AtoService.KeyedList
