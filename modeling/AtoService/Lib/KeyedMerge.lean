/-
Merging entries into a dictionary of values that carry their own key: each entry names a key, and the value at that key
is replaced by what the entry makes of it.

`foldlM_mergeEntry_eq_ok`: a loop over entries with distinct names succeeds when every entry finds its value and may
rewrite it, and then it rewrites each value in place (`rewriteBy`). `replay_iff`: a second loop changes nothing exactly
when every entry makes the same of what it made. `sorted_ext`: dictionaries with the same lookups are written the same.
-/
import AtoService.Lib.KeyedList
import AtoService.Lib.Results

namespace AtoService.KeyedList

open Results

variable {α γ ε : Type} {key : α → String} {name : γ → String} {unknown : γ → ε} {h : γ → α → Except ε α}

/-- replace the value at the name of `g` by what `g` makes of it -/
def mergeEntry (key : α → String) (name : γ → String) (unknown : γ → ε) (h : γ → α → Except ε α) (xs : List α) (g : γ) :
    Except ε (List α) :=
  match get? key (name g) xs with
  | none => .error (unknown g)
  | some x => do
    let y ← h g x
    return put key y xs

/-- what the entries make of one value -/
def rewriteBy (key : α → String) (name : γ → String) (h : γ → α → Except ε α) (gs : List γ) (x : α) : α :=
  match get? name (key x) gs with
  | none => x
  | some g =>
    match h g x with
    | .ok y => y
    | .error _ => x

/-- putting back the value that is there changes nothing -/
theorem put_of_get? {x : α} {xs : List α} (hx : get? key (key x) xs = some x) : put key x xs = xs := by
  induction xs with
  | nil => cases hx
  | cons y ys ih =>
    rw [get?_cons] at hx
    rw [put]
    split_ifs at hx ⊢ with hy
    · rw [Option.some.inj hx]
    · rw [ih hx]

/-- assigning the values that are there changes nothing -/
theorem update_of_get? {xs ys : List α} (hys : ∀ y ∈ ys, get? key (key y) xs = some y) : update key xs ys = xs := by
  induction ys with
  | nil => rfl
  | cons y ys ih =>
    rw [List.forall_mem_cons] at hys
    show update key (put key y xs) ys = xs
    rw [put_of_get? hys.1, ih hys.2]

/-- putting a value under a key that is there replaces the value in place -/
theorem put_eq_map {k : String} {x y : α} {xs : List α} (hd : Distinct key xs) (hx : get? key k xs = some x)
    (hy : key y = k) : put key y xs = xs.map fun z => if key z = k then y else z := by
  induction xs with
  | nil => cases hx
  | cons z zs ih =>
    rw [get?_cons] at hx
    rw [put, hy, List.map_cons]
    split_ifs at hx ⊢ with hz
    · have hrest : ∀ w ∈ zs, (if key w = k then y else w) = w := fun w hw =>
        if_neg fun hwk : key w = k => (List.nodup_cons.1 hd).1 (List.mem_map.2 ⟨w, hw, hwk.trans hz.symm⟩)
      rw [List.map_congr_left hrest, List.map_id']
    · rw [ih (List.nodup_cons.1 hd).2 hx]

theorem key_rewriteBy (hk : ∀ g x y, h g x = .ok y → key y = key x) (gs : List γ) (x : α) :
    key (rewriteBy key name h gs x) = key x := by
  unfold rewriteBy
  split
  · rfl
  · split
    · rename_i hy
      exact hk _ _ _ hy
    · rfl

/-- the first entry, and then the others: no other has its name -/
theorem rewriteBy_cons {g : γ} {gs : List γ} {x y : α} (hk : ∀ g x y, h g x = .ok y → key y = key x)
    (hg : name g ∉ gs.map name) (hx : key x = name g) (hy : h g x = .ok y) :
    rewriteBy key name h (g :: gs) x = y ∧ rewriteBy key name h gs y = y := by
  have hname : get? name (key y) gs = none :=
    get?_eq_none.2 fun g' hg' heq => hg ((heq.trans ((hk g x y hy).trans hx)) ▸ List.mem_map_of_mem hg')
  constructor
  · simp only [rewriteBy, get?_cons, hx, if_true, hy]
  · simp only [rewriteBy, hname]

theorem rewriteBy_cons_of_ne {g : γ} {gs : List γ} {x : α} (hx : key x ≠ name g) :
    rewriteBy key name h (g :: gs) x = rewriteBy key name h gs x := by
  simp only [rewriteBy, get?_cons, Ne.symm hx, if_false]

theorem mergeEntry_eq_ok {g : γ} {xs ys : List α} : mergeEntry key name unknown h xs g = .ok ys ↔
    ∃ x, get? key (name g) xs = some x ∧ ∃ y, h g x = .ok y ∧ ys = put key y xs := by
  rw [mergeEntry]
  cases get? key (name g) xs with
  | none => exact iff_of_false (by rintro ⟨⟩) (by rintro ⟨x, ⟨⟩, -⟩)
  | some x => simp only [bind_eq_ok, pure_eq_ok, Option.some.injEq, exists_eq_left', @eq_comm _ ys]

/-- **A loop of merges** over entries with distinct names. -/
theorem foldlM_mergeEntry_eq_ok {gs : List γ} {xs ys : List α} (hk : ∀ g x y, h g x = .ok y → key y = key x)
    (hgs : Distinct name gs) (hxs : Distinct key xs) :
    gs.foldlM (mergeEntry key name unknown h) xs = .ok ys ↔
      (∀ g ∈ gs, ∃ x, get? key (name g) xs = some x ∧ ∃ y, h g x = .ok y) ∧
        ys = xs.map (rewriteBy key name h gs) := by
  induction gs generalizing xs with
  | nil =>
    have hid : xs.map (rewriteBy key name h []) = xs := List.map_id' xs
    rw [List.foldlM_nil, pure_eq_ok, hid]
    exact ⟨fun heq => ⟨by simp, heq.symm⟩, fun heq => heq.2.symm⟩
  | cons g gs ih =>
    obtain ⟨hg, hgs⟩ := List.nodup_cons.1 hgs
    -- the other entries see the dictionary as it was, and rewrite what the first one left
    have hstep : ∀ x y, get? key (name g) xs = some x → h g x = .ok y →
        (put key y xs).map (rewriteBy key name h gs) = xs.map (rewriteBy key name h (g :: gs)) ∧
          ∀ g' ∈ gs, get? key (name g') (put key y xs) = get? key (name g') xs := by
      intro x y hx hy
      have hky : key y = name g := (hk g x y hy).trans (key_of_get? hx)
      refine ⟨?_, fun g' hg' => ?_⟩
      · rw [put_eq_map hxs hx hky, List.map_map]
        refine List.map_congr_left fun z hz => ?_
        rw [Function.comp_apply]
        split_ifs with hkz
        · obtain rfl : z = x := Option.some.inj (((get?_eq_some hxs).2 ⟨hz, hkz⟩).symm.trans hx)
          obtain ⟨h₁, h₂⟩ := rewriteBy_cons hk hg hkz hy
          rw [h₁, h₂]
        · exact (rewriteBy_cons_of_ne hkz).symm
      · rw [get?_put, if_neg]
        exact fun heq : key y = name g' => hg (List.mem_map.2 ⟨g', hg', heq.symm.trans hky⟩)
    rw [List.foldlM_cons, bind_eq_ok, List.forall_mem_cons]
    constructor
    · rintro ⟨zs, hzs, hrest⟩
      obtain ⟨x, hx, y, hy, rfl⟩ := mergeEntry_eq_ok.1 hzs
      obtain ⟨hall, rfl⟩ := (ih hgs (distinct_put hxs)).1 hrest
      obtain ⟨hmap, hget⟩ := hstep x y hx hy
      exact ⟨⟨⟨x, hx, y, hy⟩, fun g' hg' => hget g' hg' ▸ hall g' hg'⟩, hmap⟩
    · rintro ⟨⟨⟨x, hx, y, hy⟩, hall⟩, rfl⟩
      obtain ⟨hmap, hget⟩ := hstep x y hx hy
      refine ⟨_, mergeEntry_eq_ok.2 ⟨x, hx, y, hy, rfl⟩, (ih hgs (distinct_put hxs)).2 ⟨fun g' hg' => ?_, hmap.symm⟩⟩
      rw [hget g' hg']
      exact hall g' hg'

/-! ## Sorted dictionaries -/

theorem sorted_eq_self {xs : List α} (h : xs.Pairwise fun a b => key a ≤ key b) : sorted key xs = xs :=
  h.insertionSort_eq

theorem sorted_sorted (xs : List α) : sorted key (sorted key xs) = sorted key xs := sorted_eq_self (sorted_pairwise xs)

theorem eq_of_get?_eq {xs : List α} (hd : Distinct key xs) {x y : α} (hx : x ∈ xs) (hy : y ∈ xs) (h : key x = key y) :
    x = y :=
  Option.some.inj (((get?_eq_some hd).2 ⟨hx, rfl⟩).symm.trans ((get?_eq_some hd).2 ⟨hy, h.symm⟩))

/-- dictionaries with the same lookups are written the same -/
theorem sorted_ext {xs ys : List α} (hx : Distinct key xs) (hy : Distinct key ys)
    (h : ∀ k, get? key k xs = get? key k ys) : sorted key xs = sorted key ys := by
  have hmem : ∀ z, z ∈ xs ↔ z ∈ ys := fun z => by
    have hz := h (key z)
    constructor
    · exact fun hm => mem_of_get? (hz.symm.trans ((get?_eq_some hx).2 ⟨hm, rfl⟩))
    · exact fun hm => mem_of_get? (hz.trans ((get?_eq_some hy).2 ⟨hm, rfl⟩))
  have hperm : (sorted key xs).Perm (sorted key ys) := (sorted_perm xs).trans
    (((List.perm_ext_iff_of_nodup (List.Nodup.of_map _ hx) (List.Nodup.of_map _ hy)).2 hmem).trans
      (sorted_perm ys).symm)
  refine List.Perm.eq_of_pairwise (fun a b ha hb hab hba => ?_) (sorted_pairwise xs) (sorted_pairwise ys) hperm
  exact eq_of_get?_eq (distinct_sorted hx) ha (hperm.mem_iff.2 hb) (le_antisymm hab hba)

/-- the last value under a key is the one that is kept -/
theorem get?_update (k : String) (xs ys : List α) :
    get? key k (update key xs ys) = (get? key k ys.reverse).or (get? key k xs) := by
  induction ys using List.reverseRecOn with
  | nil => rfl
  | append_singleton ys y ih =>
    have hupdate : update key xs (ys ++ [y]) = put key y (update key xs ys) := by
      rw [update, List.foldl_append]
      rfl
    rw [hupdate, get?_put, List.reverse_append, List.reverse_singleton, List.singleton_append, get?_cons]
    split_ifs
    · rfl
    · exact ih

theorem get?_ofList (k : String) (xs : List α) : get? key k (ofList key xs) = get? key k xs.reverse := by
  rw [ofList, get?_update, get?_nil, Option.or_none]

/-- dictionaries assigned one after another: the last that has the key decides -/
theorem get?_ofList_flatMap {β : Type} (k : String) (ids : List β) (e : β → List α) :
    get? key k (ofList key (ids.flatMap e)) = ids.reverse.findSome? fun id => get? key k (ofList key (e id)) := by
  rw [get?_ofList, List.reverse_flatMap, get?, List.find?_flatMap]
  exact congrFun (congrArg _ (funext fun id => (get?_ofList k (e id)).symm)) _

/-! ## Merging again -/

theorem distinct_map_rewriteBy {gs : List γ} {xs : List α} (hk : ∀ g x y, h g x = .ok y → key y = key x)
    (hxs : Distinct key xs) : Distinct key (xs.map (rewriteBy key name h gs)) :=
  (distinct_map (key_rewriteBy hk gs)).2 hxs

/-- the entries that rewrite a value -/
theorem rewriteBy_of_mem {gs : List γ} {g : γ} {x y : α} (hgs : Distinct name gs) (hg : g ∈ gs) (hx : key x = name g)
    (hy : h g x = .ok y) : rewriteBy key name h gs x = y := by
  have hget : get? name (key x) gs = some g := (get?_eq_some hgs).2 ⟨hg, hx.symm⟩
  simp only [rewriteBy, hget, hy]

/-- **A second loop of merges**, over what the first one wrote, changes nothing exactly when every entry makes the same
of what it made. -/
theorem replay_iff {h' : γ → α → Except ε α} {gs : List γ} {xs ys : List α}
    (hk : ∀ g x y, h g x = .ok y → key y = key x) (hk' : ∀ g x y, h' g x = .ok y → key y = key x)
    (hgs : Distinct name gs) (hxs : Distinct key xs)
    (hall : ∀ g ∈ gs, ∃ x, get? key (name g) xs = some x ∧ ∃ y, h g x = .ok y)
    (hys : ys = sorted key (xs.map (rewriteBy key name h gs))) :
    ((∀ g ∈ gs, ∃ y, get? key (name g) ys = some y ∧ ∃ z, h' g y = .ok z) ∧
        ys = sorted key (ys.map (rewriteBy key name h' gs))) ↔
      ∀ g ∈ gs, ∀ x ∈ xs, key x = name g → ∀ y, h g x = .ok y → h' g y = .ok y := by
  have hd : Distinct key ys := hys ▸ distinct_sorted (distinct_map_rewriteBy hk hxs)
  have hmem : ∀ y, y ∈ ys ↔ ∃ x ∈ xs, rewriteBy key name h gs x = y := fun y => by
    rw [hys, mem_sorted, List.mem_map]
  constructor
  · rintro ⟨hfound, heq⟩ g hg x hx hkx y hy
    have hyx : y ∈ ys := (hmem y).2 ⟨x, hx, rewriteBy_of_mem hgs hg hkx hy⟩
    have hky : key y = name g := (hk g x y hy).trans hkx
    obtain ⟨y', hy', z, hz⟩ := hfound g hg
    obtain rfl : y' = y := Option.some.inj (hy'.symm.trans ((get?_eq_some hd).2 ⟨hyx, hky⟩))
    have hzs : z ∈ ys := by
      rw [heq, mem_sorted, List.mem_map]
      exact ⟨y', hyx, rewriteBy_of_mem hgs hg hky hz⟩
    rw [hz, eq_of_get?_eq hd hzs hyx (hk' g y' z hz)]
  · intro hreplay
    have hsame : ∀ y ∈ ys, rewriteBy key name h' gs y = y := by
      intro y hy
      obtain ⟨x, hx, rfl⟩ := (hmem y).1 hy
      have hkey : key (rewriteBy key name h gs x) = key x := key_rewriteBy hk gs x
      cases hg : get? name (key x) gs with
      | none => simp only [rewriteBy, hg]
      | some g =>
        obtain ⟨x', hx', y, hy'⟩ := hall g (mem_of_get? hg)
        obtain rfl : x = x' :=
          Option.some.inj (((get?_eq_some hxs).2 ⟨hx, (key_of_get? hg).symm⟩).symm.trans hx')
        have hgx : key x = name g := (key_of_get? hg).symm
        rw [rewriteBy_of_mem hgs (mem_of_get? hg) hgx hy']
        exact rewriteBy_of_mem hgs (mem_of_get? hg) ((hk g x y hy').trans hgx)
          (hreplay g (mem_of_get? hg) x hx hgx y hy')
    refine ⟨fun g hg => ?_, ?_⟩
    · obtain ⟨x, hx, y, hy⟩ := hall g hg
      have hkx := key_of_get? hx
      have hyx : y ∈ ys := (hmem y).2 ⟨x, mem_of_get? hx, rewriteBy_of_mem hgs hg hkx hy⟩
      exact ⟨y, (get?_eq_some hd).2 ⟨hyx, (hk g x y hy).trans hkx⟩, y, hreplay g hg x (mem_of_get? hx) hkx y hy⟩
    · rw [List.map_congr_left hsame, List.map_id', hys, sorted_sorted]

end AtoService.KeyedList
