/-
Keyset paging: a table is read in the order of a key, a page at a time, and each page starts after the last key of the
page before it.

A page is a query of its own (`page`), which filters, orders and cuts the whole table again. `page_eq` reads it off the
ordered table instead. The keys have to be distinct: rows that share the last key of a page are passed over.

- `readPages_eq`: a reader that asks for pages until one comes back empty has read every row once, in order, whatever the
  size of a page.
- `follows_iff_resumes`: a client that follows the cursors of a list gets every row once, in order, if and only if from
  each cursor that is given out the list goes on after the row that the cursor stands for.
- `follows_iff`: a client that follows the cursors of a list (`listPage`) gets every row once, in order, if and only if
  each cursor that is given out is read as the key that it stands for.
-/
import Mathlib.Data.List.Sort

namespace AtoService.Keyset

variable {α κ : Type} [LinearOrder κ] (key : α → κ)

/-- the rows in the order of their keys -/
def ordered (rows : List α) : List α := rows.insertionSort fun a b => key a ≤ key b

/-- the rows after a cursor -/
def after (cursor : Option κ) (rows : List α) : List α := rows.filter fun a => cursor.all (· < key a)

/-- `WHERE key > cursor ORDER BY key LIMIT limit` -/
def page (limit : Nat) (cursor : Option κ) (rows : List α) : List α := (ordered key (after key cursor rows)).take limit

/-- pages until one comes back empty; the first argument bounds their number -/
def readPages (limit : Nat) (rows : List α) : Nat → Option κ → List α
  | 0, _ => []
  | fuel + 1, cursor =>
    match (page key limit cursor rows).getLast? with
    | none => []
    | some last => page key limit cursor rows ++ readPages limit rows fuel (some (key last))

/-! ## One page -/

section

variable {key} {rows : List α}

theorem mem_ordered {a : α} : a ∈ ordered key rows ↔ a ∈ rows := List.mem_insertionSort _

theorem ordered_perm : (ordered key rows).Perm rows := List.perm_insertionSort _ _

/-- rows with distinct keys are strictly in order -/
theorem ordered_strict (h : (rows.map key).Nodup) : (ordered key rows).Pairwise fun a b => key a < key b := by
  have hsorted : (ordered key rows).Pairwise fun a b => key a ≤ key b := List.pairwise_insertionSort _ _
  have hnodup : ((ordered key rows).map key).Nodup := (ordered_perm.map key).nodup_iff.2 h
  rw [List.Nodup, List.pairwise_map] at hnodup
  refine (hsorted.and hnodup).imp ?_
  rintro a b ⟨hle, hne⟩
  exact lt_of_le_of_ne hle hne

/-- rows that come first, and the others -/
theorem ordered_split (h : (rows.map key).Nodup) (p : α → Bool)
    (hp : ∀ a ∈ rows, p a = true → ∀ b ∈ rows, p b = false → key a < key b) :
    ordered key rows = ordered key (rows.filter p) ++ ordered key (rows.filter fun a => !p a) := by
  have hperm : (ordered key rows).Perm (ordered key (rows.filter p) ++ ordered key (rows.filter fun a => !p a)) :=
    ordered_perm.trans ((List.filter_append_perm p rows).symm.trans (ordered_perm.symm.append ordered_perm.symm))
  have hinj : ∀ a ∈ rows, ∀ b ∈ rows, key a = key b → a = b := fun a ha b hb hab => List.inj_on_of_nodup_map h ha hb hab
  refine hperm.eq_of_pairwise (fun a b ha hb hab hba => ?_) (List.pairwise_insertionSort _ _) ?_
  · exact hinj a (mem_ordered.1 ha) b (mem_ordered.1 (hperm.mem_iff.2 hb)) (le_antisymm hab hba)
  · refine List.pairwise_append.2 ⟨List.pairwise_insertionSort _ _, List.pairwise_insertionSort _ _, ?_⟩
    intro a ha b hb
    obtain ⟨ha, hpa⟩ := List.mem_filter.1 (mem_ordered.1 ha)
    obtain ⟨hb, hpb⟩ := List.mem_filter.1 (mem_ordered.1 hb)
    rw [Bool.not_eq_true'] at hpb
    exact (hp a ha hpa b hb hpb).le

/-- it does not matter whether the rows are ordered before or after they are filtered -/
theorem ordered_after (h : (rows.map key).Nodup) (cursor : Option κ) :
    ordered key (after key cursor rows) = after key cursor (ordered key rows) := by
  have hinj : ∀ a ∈ rows, ∀ b ∈ rows, key a = key b → a = b := fun a ha b hb hab => List.inj_on_of_nodup_map h ha hb hab
  have hperm : (ordered key (after key cursor rows)).Perm (after key cursor (ordered key rows)) :=
    ordered_perm.trans (ordered_perm.symm.filter _)
  refine hperm.eq_of_pairwise (fun a b ha hb hab hba => ?_) (List.pairwise_insertionSort _ _)
    ((List.pairwise_insertionSort _ _).filter _)
  refine hinj a ?_ b ?_ (le_antisymm hab hba)
  · exact (List.mem_filter.1 (mem_ordered.1 ha)).1
  · exact mem_ordered.1 (List.mem_filter.1 hb).1

theorem page_eq (h : (rows.map key).Nodup) (limit : Nat) (cursor : Option κ) :
    page key limit cursor rows = (after key cursor (ordered key rows)).take limit := by
  rw [page, ordered_after h]

@[simp] theorem after_none : after key none rows = rows := by
  simp [after]

/-- the rows after the last key of a first stretch are the rest -/
theorem after_append {pre suf : List α} {last : α} (h : (pre ++ suf).Pairwise fun a b => key a < key b)
    (hlast : pre.getLast? = some last) : after key (some (key last)) (pre ++ suf) = suf := by
  obtain ⟨pre, rfl⟩ := List.getLast?_eq_some_iff.1 hlast
  obtain ⟨hpre, -, hseam⟩ := List.pairwise_append.1 h
  obtain ⟨-, -, hbefore⟩ := List.pairwise_append.1 hpre
  have hskip : after key (some (key last)) (pre ++ [last]) = [] := by
    rw [after, List.filter_eq_nil_iff]
    intro a ha
    rcases List.mem_append.1 ha with ha | ha
    · simpa using (hbefore a ha last (List.mem_singleton_self _)).le
    · simp [List.mem_singleton.1 ha]
  have hkeep : after key (some (key last)) suf = suf := by
    rw [after, List.filter_eq_self]
    intro a ha
    simpa using hseam last (List.mem_append_right _ (List.mem_singleton_self _)) a ha
  rw [after, List.filter_append, ← after, ← after, hskip, hkeep, List.nil_append]

/-! ## All pages -/

/-- what is left to read shrinks by a page at each query -/
theorem readPages_after (h : (rows.map key).Nodup) {limit : Nat} (hlimit : 0 < limit) {fuel : Nat} {cursor : Option κ}
    (hfuel : (after key cursor (ordered key rows)).length < fuel)
    (hcursor : ∃ pre, ordered key rows = pre ++ after key cursor (ordered key rows)) :
    readPages key limit rows fuel cursor = after key cursor (ordered key rows) := by
  induction fuel generalizing cursor with
  | zero => omega
  | succ fuel ih =>
    obtain ⟨pre, hpre⟩ := hcursor
    rw [readPages, page_eq h]
    generalize hrest : after key cursor (ordered key rows) = rest at hfuel hpre
    cases hlast : (rest.take limit).getLast? with
    | none =>
      rw [List.getLast?_eq_none_iff, List.take_eq_nil_iff] at hlast
      rcases hlast with hzero | rfl
      · omega
      · rfl
    | some last =>
      have hsplit : ordered key rows = (pre ++ rest.take limit) ++ rest.drop limit := by
        rw [List.append_assoc, List.take_append_drop]
        exact hpre
      have hnext : after key (some (key last)) (ordered key rows) = rest.drop limit := by
        have hstrict := ordered_strict h
        rw [hsplit] at hstrict ⊢
        exact after_append hstrict (by rw [List.getLast?_append, hlast]; rfl)
      have hlength : (rest.drop limit).length < fuel := by
        have hne : rest ≠ [] := by
          rintro rfl
          simp at hlast
        have hpos := List.length_pos_iff.2 hne
        rw [List.length_drop]
        omega
      have htail := @ih (some (key last)) (by rw [hnext]; exact hlength) ⟨_, by rw [hnext]; exact hsplit⟩
      show rest.take limit ++ _ = rest
      rw [htail, hnext, List.take_append_drop]

/-- **Reading page by page** reads every row once, in order; one query more than there are rows is enough. -/
theorem readPages_eq (h : (rows.map key).Nodup) {limit : Nat} (hlimit : 0 < limit) {fuel : Nat}
    (hfuel : rows.length < fuel) : readPages key limit rows fuel none = ordered key rows := by
  have hlength : (ordered key rows).length = rows.length := ordered_perm.length_eq
  have hall : readPages key limit rows fuel none = after key none (ordered key rows) :=
    readPages_after h hlimit (by rw [after_none, hlength]; exact hfuel) ⟨[], by simp⟩
  rw [hall, after_none]

end

/-! ## Lists with cursors -/

section

variable {C E : Type} (encode : α → Except E C) (decode : C → Except E κ)

/-- one answer of a list: the rows of a page, and a cursor when a row is left over. One row more than the page holds is
asked for. -/
def listPage (limit : Nat) (rows : List α) (cursor : Option C) : Except E (List α × Option C) := do
  let position ← cursor.mapM decode
  let found := page key (limit + 1) position rows
  if limit < found.length then
    match (found.take limit).getLast? with
    | some last => do
      let next ← encode last
      return (found.take limit, some next)
    | none => return (found.take limit, none)
  else return (found, none)

/-- a client starts at `cursor`, follows the cursors that the list gives out, and ends with these rows -/
inductive Follows (list : Option C → Except E (List α × Option C)) : Option C → List α → Prop where
  | last {cursor : Option C} {items : List α} (h : list cursor = .ok (items, none)) : Follows list cursor items
  | next {cursor : Option C} {items rest : List α} {next : C} (h : list cursor = .ok (items, some next))
      (hrest : Follows list (some next) rest) : Follows list cursor (items ++ rest)

/-- the cursor of a row is read as the key of the row -/
def RoundTrips (r : α) : Prop := ∃ c, encode r = .ok c ∧ decode c = .ok (key r)

/-- the cursor of a row is refused -/
def Refused (r : α) : Prop := ∀ c, encode r = .ok c → ∃ e, decode c = .error e

/-- the cursor of a row is read as a position from which the list goes on after the row -/
def Resumes (rows : List α) (r : α) : Prop :=
  ∃ c k, encode r = .ok c ∧ decode c = .ok k ∧ key r ≤ k ∧ ∀ r' ∈ rows, key r < key r' → k < key r'

/-- the rows that end a page with more rows after it -/
def PageEnds (limit : Nat) (rows : List α) (P : α → Prop) : Prop :=
  ∀ i r, rows[i]? = some r → limit ∣ i + 1 → i + 1 < rows.length → P r

variable {key encode decode} {rows : List α} {limit : Nat}

theorem pageEnds_of_length_le {P : α → Prop} (h : rows.length ≤ limit) : PageEnds limit rows P := by
  intro i r _ hdvd hlt
  have hle := Nat.le_of_dvd (Nat.succ_pos i) hdvd
  omega

/-- the end of the first page, and the ends of the pages after it -/
theorem pageEnds_drop {P : α → Prop} {last : α} (hlimit : 0 < limit) (hlong : limit < rows.length)
    (hlast : rows[limit - 1]? = some last) : PageEnds limit rows P ↔ P last ∧ PageEnds limit (rows.drop limit) P := by
  constructor
  · intro h
    have hend : limit ∣ limit - 1 + 1 := ⟨1, by omega⟩
    refine ⟨h (limit - 1) last hlast hend (by omega), fun i r hr hdvd hlt => ?_⟩
    rw [List.getElem?_drop] at hr
    rw [List.length_drop] at hlt
    refine h (limit + i) r hr ?_ (by omega)
    rw [Nat.add_assoc]
    exact (Nat.dvd_add_right (Nat.dvd_refl limit)).2 hdvd
  · rintro ⟨hfirst, hrest⟩ i r hr hdvd hlt
    obtain ⟨m, hm⟩ := hdvd
    by_cases hone : m = 1
    · have hi : i = limit - 1 := by
        rw [hone] at hm
        omega
      rw [hi, hlast] at hr
      exact Option.some.inj hr ▸ hfirst
    · have hge : limit ≤ i := by
        have hm2 : 2 ≤ m := by
          rcases m with _ | _ | m
          · omega
          · exact absurd rfl hone
          · omega
        have hmul := Nat.mul_le_mul_left limit hm2
        omega
      refine hrest (i - limit) r ?_ ?_ (by rw [List.length_drop]; omega)
      · rw [List.getElem?_drop, Nat.add_sub_cancel' hge]
        exact hr
      · have hshift : i + 1 = limit + (i - limit + 1) := by omega
        rw [hshift] at hm
        exact (Nat.dvd_add_right (Nat.dvd_refl limit)).1 ⟨m, hm⟩

/-- an answer, read off what is left of the ordered table: all of it -/
theorem listPage_short (encode : α → Except E C) (h : (rows.map key).Nodup) {cursor : Option C} {position : Option κ}
    (hposition : cursor.mapM decode = .ok position) {suf : List α} (hsuf : after key position (ordered key rows) = suf)
    (hshort : suf.length ≤ limit) : listPage key encode decode limit rows cursor = .ok (suf, none) := by
  have hfound : ¬limit < (suf.take (limit + 1)).length := by
    rw [List.length_take]
    omega
  rw [listPage, hposition]
  show (if limit < (page key (limit + 1) position rows).length then _ else _) = _
  rw [page_eq h, hsuf, if_neg hfound, List.take_of_length_le (by omega)]
  rfl

/-- or a page of it, and the cursor of the row that ends the page -/
theorem listPage_long (encode : α → Except E C) (h : (rows.map key).Nodup) {cursor : Option C} {position : Option κ}
    (hposition : cursor.mapM decode = .ok position) {suf : List α} (hsuf : after key position (ordered key rows) = suf)
    (hlong : limit < suf.length) {last : α} (hlast : (suf.take limit).getLast? = some last) :
    listPage key encode decode limit rows cursor = do
      let next ← encode last
      return (suf.take limit, some next) := by
  have hfound : limit < (suf.take (limit + 1)).length := by
    rw [List.length_take]
    omega
  have htake : (suf.take (limit + 1)).take limit = suf.take limit := by
    rw [List.take_take, Nat.min_eq_left (Nat.le_succ limit)]
  rw [listPage, hposition]
  show (if limit < (page key (limit + 1) position rows).length then _ else _) = _
  rw [page_eq h, hsuf, if_pos hfound, htake, hlast]

theorem follows_of_next {list : Option C → Except E (List α × Option C)} {cursor : Option C} {items items' : List α}
    {next : C} (h : list cursor = .ok (items, some next)) (hfollows : Follows list cursor items') :
    ∃ rest, items' = items ++ rest ∧ Follows list (some next) rest := by
  cases hfollows with
  | last hlist =>
    rw [h] at hlist
    cases (Prod.mk.inj (Except.ok.inj hlist)).2
  | next hlist hrest =>
    rw [h] at hlist
    obtain ⟨rfl, hnext⟩ := Prod.mk.inj (Except.ok.inj hlist)
    obtain rfl := Option.some.inj hnext
    exact ⟨_, rfl, hrest⟩

theorem not_follows_of_error {list : Option C → Except E (List α × Option C)} {cursor : Option C} {e : E}
    (h : list cursor = .error e) (items : List α) : ¬Follows list cursor items := by
  intro hfollows
  cases hfollows with
  | last hlist =>
    rw [h] at hlist
    cases hlist
  | next hlist _ =>
    rw [h] at hlist
    cases hlist

theorem resumes_iff_roundTrips {r : α}
    (hcodec : RoundTrips key encode decode r ∨ Refused encode decode r) :
    Resumes key encode decode rows r ↔ RoundTrips key encode decode r := by
  constructor
  · rintro ⟨c, k, hencode, hdecode, -⟩
    rcases hcodec with hround | hrefused
    · exact hround
    · obtain ⟨e, he⟩ := hrefused c hencode
      rw [hdecode] at he
      cases he
  · rintro ⟨c, hencode, hdecode⟩
    exact ⟨c, key r, hencode, hdecode, le_rfl, fun _ _ hlt => hlt⟩

theorem pageEnds_congr {P Q : α → Prop} (h : ∀ r ∈ rows, P r ↔ Q r) : PageEnds limit rows P ↔ PageEnds limit rows Q :=
  ⟨fun hP i r hr hdvd hlt => (h r (List.mem_of_getElem? hr)).1 (hP i r hr hdvd hlt),
    fun hQ i r hr hdvd hlt => (h r (List.mem_of_getElem? hr)).2 (hQ i r hr hdvd hlt)⟩

/-- the list goes on where the position of its cursor stands: its first row is the first one after it -/
theorem follows_head (h : (rows.map key).Nodup) (hlimit : 0 < limit) {cursor : Option C} {position : Option κ}
    (hposition : cursor.mapM decode = .ok position) {items : List α}
    (hfollows : Follows (listPage key encode decode limit rows) cursor items) :
    items.head? = (after key position (ordered key rows)).head? := by
  generalize hsuf : after key position (ordered key rows) = suf
  by_cases hlong : limit < suf.length
  · obtain ⟨last, hlast⟩ : ∃ last, (suf.take limit).getLast? = some last := by
      refine Option.ne_none_iff_exists'.1 fun hnone => ?_
      have hlength := congrArg List.length (List.getLast?_eq_none_iff.1 hnone)
      rw [List.length_take, List.length_nil] at hlength
      omega
    have hanswer := listPage_long encode h hposition hsuf hlong hlast
    cases hencode : encode last with
    | error e =>
      rw [hencode] at hanswer
      exact absurd hfollows (not_follows_of_error hanswer items)
    | ok c =>
      rw [hencode] at hanswer
      obtain ⟨rest, rfl, -⟩ := follows_of_next hanswer hfollows
      cases suf with
      | nil => exact absurd hlong (Nat.not_lt_zero _)
      | cons r suf =>
        obtain ⟨k, rfl⟩ := Nat.exists_eq_succ_of_ne_zero hlimit.ne'
        rfl
  · have hanswer := listPage_short encode h hposition hsuf (not_lt.1 hlong)
    cases hfollows with
    | last hlist =>
      rw [hanswer] at hlist
      rw [(Prod.mk.inj (Except.ok.inj hlist)).1]
    | next hlist _ =>
      rw [hanswer] at hlist
      cases (Prod.mk.inj (Except.ok.inj hlist)).2

/-- a position at a row or after it, and before the next one, is one from which the rest of the rows follow -/
theorem after_between {pre suf : List α} {last : α} {k : κ} (h : (pre ++ suf).Pairwise fun a b => key a < key b)
    (hlast : pre.getLast? = some last) (hle : key last ≤ k) (hnext : ∀ r ∈ suf, k < key r) :
    after key (some k) (pre ++ suf) = suf := by
  obtain ⟨pre, rfl⟩ := List.getLast?_eq_some_iff.1 hlast
  obtain ⟨hpre, -, -⟩ := List.pairwise_append.1 h
  obtain ⟨-, -, hbefore⟩ := List.pairwise_append.1 hpre
  have hskip : after key (some k) (pre ++ [last]) = [] := by
    rw [after, List.filter_eq_nil_iff]
    intro a ha
    rcases List.mem_append.1 ha with ha | ha
    · simpa using (hbefore a ha last (List.mem_singleton_self _)).le.trans hle
    · simpa [List.mem_singleton.1 ha] using hle
  have hkeep : after key (some k) suf = suf := by
    rw [after, List.filter_eq_self]
    exact fun a ha => by simpa using hnext a ha
  rw [after, List.filter_append, ← after, ← after, hskip, hkeep, List.nil_append]

/-- where the rows after a position start with the row after `last`, the position stands between the two -/
theorem between_of_head {pre suf : List α} {last next : α} {k : κ}
    (h : (pre ++ next :: suf).Pairwise fun a b => key a < key b) (hlast : pre.getLast? = some last)
    (hhead : (after key (some k) (pre ++ next :: suf)).head? = some next) :
    key last ≤ k ∧ ∀ r ∈ next :: suf, k < key r := by
  obtain ⟨-, hsuf, hseam⟩ := List.pairwise_append.1 h
  have hmem : last ∈ pre := List.mem_of_getLast? hlast
  rw [after, List.head?_filter, List.find?_append] at hhead
  have hskipped : pre.find? (fun a => (some k).all (· < key a)) = none := by
    cases hfound : pre.find? fun a => (some k).all (· < key a) with
    | none => rfl
    | some a =>
      rw [hfound, Option.some_or, Option.some.injEq] at hhead
      have hlt := hseam a (List.mem_of_find?_eq_some hfound) next List.mem_cons_self
      rw [hhead] at hlt
      exact absurd hlt (lt_irrefl _)
  rw [hskipped, Option.none_or] at hhead
  have hnext : k < key next := by simpa using List.find?_some hhead
  refine ⟨by simpa using List.find?_eq_none.1 hskipped last hmem, fun r hr => ?_⟩
  rcases List.mem_cons.1 hr with rfl | hr
  · exact hnext
  · exact hnext.trans (List.rel_of_pairwise_cons hsuf hr)

/-- from a cursor on; the induction is on what is left to read -/
theorem follows_suffix_iff (h : (rows.map key).Nodup) (hlimit : 0 < limit) (n : Nat) {cursor : Option C}
    {position : Option κ} (hposition : cursor.mapM decode = .ok position) (pre : List α) {suf : List α}
    (hsplit : ordered key rows = pre ++ suf) (hsuf : after key position (ordered key rows) = suf)
    (hn : suf.length ≤ n) :
    Follows (listPage key encode decode limit rows) cursor suf ↔
      PageEnds limit suf (Resumes key encode decode rows) := by
  induction n generalizing cursor position pre suf with
  | zero =>
    have hanswer := listPage_short encode h hposition hsuf (show suf.length ≤ limit by omega)
    exact iff_of_true (.last hanswer) (pageEnds_of_length_le (by omega))
  | succ n ih =>
    by_cases hlong : limit < suf.length
    swap
    · have hanswer := listPage_short encode h hposition hsuf (not_lt.1 hlong)
      exact iff_of_true (.last hanswer) (pageEnds_of_length_le (not_lt.1 hlong))
    obtain ⟨last, hlast⟩ : ∃ last, suf[limit - 1]? = some last := by
      refine Option.ne_none_iff_exists'.1 fun hnone => ?_
      rw [List.getElem?_eq_none_iff] at hnone
      omega
    have htake : (suf.take limit).getLast? = some last := by
      rw [List.getLast?_eq_getElem?, List.length_take, Nat.min_eq_left hlong.le, List.getElem?_take_of_lt (by omega),
        hlast]
    have hanswer := listPage_long encode h hposition hsuf hlong htake
    have hsplit' : ordered key rows = (pre ++ suf.take limit) ++ suf.drop limit := by
      rw [List.append_assoc, List.take_append_drop]
      exact hsplit
    have hend : (pre ++ suf.take limit).getLast? = some last := by
      rw [List.getLast?_append, htake]
      rfl
    have hstrict := ordered_strict h
    rw [hsplit'] at hstrict
    rw [pageEnds_drop hlimit hlong hlast]
    cases hencode : encode last with
    | error e =>
      rw [hencode] at hanswer
      refine iff_of_false (not_follows_of_error hanswer _) ?_
      rintro ⟨⟨c, k, hencode', -⟩, -⟩
      rw [hencode] at hencode'
      cases hencode'
    | ok c =>
      rw [hencode] at hanswer
      cases hdecode : decode c with
      | error e =>
        have hfails : listPage key encode decode limit rows (some c) = .error e := by
          have hnext : (some c).mapM decode = .error e := by
            show (decode c >>= fun k => pure (some k)) = _
            rw [hdecode]
            rfl
          rw [listPage, hnext]
          rfl
        refine iff_of_false (fun hfollows => ?_) ?_
        · obtain ⟨rest, -, hfollows⟩ := follows_of_next hanswer hfollows
          exact not_follows_of_error hfails _ hfollows
        · rintro ⟨⟨c', k, hencode', hdecode', -⟩, -⟩
          obtain rfl := Except.ok.inj (hencode.symm.trans hencode')
          rw [hdecode] at hdecode'
          cases hdecode'
      | ok k =>
        have hnext : (some c).mapM decode = .ok (some k) := by
          show (decode c >>= fun k => pure (some k)) = _
          rw [hdecode]
          rfl
        -- the rows after the page are those with a larger key
        have hlater : ∀ r, r ∈ suf.drop limit ↔ r ∈ rows ∧ key last < key r := by
          obtain ⟨hpre, -, hseam⟩ := List.pairwise_append.1 hstrict
          intro r
          constructor
          · intro hr
            refine ⟨mem_ordered.1 (hsplit' ▸ List.mem_append_right _ hr), hseam last (List.mem_of_getLast? hend) r hr⟩
          · rintro ⟨hr, hlt⟩
            have hmem : r ∈ (pre ++ suf.take limit) ++ suf.drop limit := hsplit' ▸ mem_ordered.2 hr
            rcases List.mem_append.1 hmem with hearly | hlate
            · obtain ⟨early, hearly'⟩ := List.getLast?_eq_some_iff.1 hend
              rw [hearly'] at hpre hearly
              rcases List.mem_append.1 hearly with hbefore | hsame
              · exact absurd hlt ((List.pairwise_append.1 hpre).2.2 r hbefore last (List.mem_singleton_self _)).asymm
              · rw [List.mem_singleton.1 hsame] at hlt
                exact absurd hlt (lt_irrefl _)
            · exact hlate
        have hresumes : Resumes key encode decode rows last ↔ key last ≤ k ∧ ∀ r ∈ suf.drop limit, k < key r := by
          constructor
          · rintro ⟨c', k', hencode', hdecode', hle, hlt⟩
            obtain rfl := Except.ok.inj (hencode.symm.trans hencode')
            obtain rfl := Except.ok.inj (hdecode.symm.trans hdecode')
            exact ⟨hle, fun r hr => hlt r ((hlater r).1 hr).1 ((hlater r).1 hr).2⟩
          · rintro ⟨hle, hlt⟩
            exact ⟨c, k, hencode, hdecode, hle, fun r hr hr' => hlt r ((hlater r).2 ⟨hr, hr'⟩)⟩
        rw [hresumes]
        constructor
        · intro hfollows
          obtain ⟨rest, hsame, hfollows⟩ := follows_of_next hanswer hfollows
          have hdrop : suf.take limit ++ suf.drop limit = suf.take limit ++ rest := by
            rw [List.take_append_drop]
            exact hsame
          rw [← List.append_cancel_left hdrop] at hfollows
          have hhead := follows_head h hlimit hnext hfollows
          have hbetween : key last ≤ k ∧ ∀ r ∈ suf.drop limit, k < key r := by
            cases hrest : suf.drop limit with
            | nil =>
              have hlength := congrArg List.length hrest
              rw [List.length_drop, List.length_nil] at hlength
              omega
            | cons next tail =>
              rw [hrest] at hhead hstrict hsplit'
              rw [hsplit'] at hhead
              exact between_of_head hstrict hend hhead.symm
          have hafter := after_between hstrict hend hbetween.1 hbetween.2
          rw [← hsplit'] at hafter
          exact ⟨hbetween, (ih hnext _ hsplit' hafter (by rw [List.length_drop]; omega)).1 hfollows⟩
        · rintro ⟨⟨hle, hlt⟩, hends⟩
          have hafter := after_between hstrict hend hle hlt
          rw [← hsplit'] at hafter
          have hfollows := Follows.next hanswer
            ((ih hnext _ hsplit' hafter (by rw [List.length_drop]; omega)).2 hends)
          rwa [List.take_append_drop] at hfollows

/-- **Following the cursors** of a list gives every row once, in order, if and only if the list goes on after each row that
ends a page. -/
theorem follows_iff_resumes (h : (rows.map key).Nodup) (hlimit : 0 < limit) :
    Follows (listPage key encode decode limit rows) none (ordered key rows) ↔
      PageEnds limit (ordered key rows) (Resumes key encode decode rows) :=
  follows_suffix_iff h hlimit _ rfl [] rfl after_none le_rfl

/-- Where a cursor is read as the key of its row or refused, the cursors that are given out have to be read as the keys. -/
theorem follows_iff (h : (rows.map key).Nodup) (hlimit : 0 < limit)
    (hcodec : ∀ r ∈ rows, RoundTrips key encode decode r ∨ Refused encode decode r) :
    Follows (listPage key encode decode limit rows) none (ordered key rows) ↔
      PageEnds limit (ordered key rows) (RoundTrips key encode decode) :=
  (follows_iff_resumes h hlimit).trans (pageEnds_congr fun r hr => resumes_iff_roundTrips (hcodec r (mem_ordered.1 hr)))

end

end AtoService.Keyset
