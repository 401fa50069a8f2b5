/-
Overlapping windows over a list: each but the last is full, and starts `overlap` elements before the one before it ends.

`Tiles size overlap n start windows` is what a loop that slides by `size - overlap` until it meets the end makes of the
elements from `start` on. Its rules: every window lies in the list and is neither empty nor too long (`Tiles.bounds`), the
last one meets the end (`Tiles.last_stop`), windows that follow each other overlap as they should (`Tiles.chain`), both ends
grow (`Tiles.increasing`), and the windows with their overlaps dropped are the list (`Tiles.joined`).
-/
import Mathlib.Data.List.Chain
import Mathlib.Data.List.Pairwise

namespace Windows

/-- the windows from `start` on, of a list of `n` elements -/
inductive Tiles (size overlap n : Nat) : Nat → List (Nat × Nat) → Prop where
  | last {start : Nat} : start < n → n ≤ start + size → Tiles size overlap n start [(start, n)]
  | slide {start : Nat} {windows : List (Nat × Nat)} : start + size < n →
      Tiles size overlap n (start + (size - overlap)) windows →
      Tiles size overlap n start ((start, start + size) :: windows)

variable {α : Type*} {size overlap n start : Nat} {windows : List (Nat × Nat)}

/-- the elements of a window -/
def slice (xs : List α) (window : Nat × Nat) : List α := (xs.take window.2).drop window.1

/-- the parts one after another, each but the first without its overlap -/
def join (overlap : Nat) : List (List α) → List α
  | [] => []
  | part :: parts => part ++ parts.flatMap (List.drop overlap)

theorem length_slice {xs : List α} {window : Nat × Nat} (h : window.2 ≤ xs.length) :
    (slice xs window).length = window.2 - window.1 := by
  simp only [slice, List.length_drop, List.length_take]
  omega

namespace Tiles

theorem eq_cons (h : Tiles size overlap n start windows) :
    ∃ stop rest, windows = (start, stop) :: rest ∧ stop = min (start + size) n := by
  cases h with
  | last hlt hle => exact ⟨n, [], rfl, by omega⟩
  | @slide _ rest hlt _ => exact ⟨start + size, rest, rfl, by omega⟩

theorem bounds (hover : overlap < size) (h : Tiles size overlap n start windows) :
    ∀ w ∈ windows, start ≤ w.1 ∧ w.1 < w.2 ∧ w.2 ≤ n ∧ w.2 ≤ w.1 + size := by
  induction h with
  | last hlt hle =>
    intro w hw
    obtain rfl := List.mem_singleton.1 hw
    exact ⟨le_rfl, hlt, le_rfl, hle⟩
  | slide hlt _ ih =>
    intro w hw
    rcases List.mem_cons.1 hw with rfl | hw
    · exact ⟨le_rfl, by simp only; omega, by simp only; omega, le_rfl⟩
    · obtain ⟨hstart, hrest⟩ := ih w hw
      exact ⟨by omega, hrest⟩

theorem last_stop (h : Tiles size overlap n start windows) : ∀ w ∈ windows.getLast?, w.2 = n := by
  induction h with
  | last _ _ => simp
  | slide _ htail ih =>
    obtain ⟨stop, rest, rfl, _⟩ := htail.eq_cons
    intro w hw
    rw [List.getLast?_cons_cons] at hw
    exact ih w hw

theorem chain (hover : overlap < size) (h : Tiles size overlap n start windows) :
    windows.IsChain fun v w => w.1 + overlap = v.2 := by
  induction h with
  | last _ _ => exact List.isChain_singleton _
  | slide _ htail ih =>
    obtain ⟨stop, rest, rfl, _⟩ := htail.eq_cons
    exact List.isChain_cons_cons.2 ⟨by simp only; omega, ih⟩

/-- a window is full, or ends at the end -/
theorem stop_eq (h : Tiles size overlap n start windows) : ∀ w ∈ windows, w.2 = min (w.1 + size) n := by
  induction h with
  | last _ _ =>
    intro w hw
    obtain rfl := List.mem_singleton.1 hw
    simp only
    omega
  | slide _ _ ih =>
    intro w hw
    rcases List.mem_cons.1 hw with rfl | hw
    · simp only
      omega
    · exact ih w hw

theorem increasing (hover : overlap < size) (h : Tiles size overlap n start windows) :
    windows.Pairwise fun v w => v.1 < w.1 ∧ v.2 < w.2 := by
  induction h with
  | last _ _ => exact List.pairwise_singleton _ _
  | @slide start rest hlt htail ih =>
    refine List.pairwise_cons.2 ⟨fun w hw => ?_, ih⟩
    have hstart := (htail.bounds hover w hw).1
    have hstop := htail.stop_eq w hw
    exact ⟨by simp only; omega, by simp only; omega⟩

theorem join_drop {parts : List (List α)} {part : List α} (h : overlap ≤ part.length) :
    (join overlap (part :: parts)).drop overlap = (part :: parts).flatMap (List.drop overlap) := by
  rw [join, List.drop_append_of_le_length h, List.flatMap_cons]

theorem joined {xs : List α} (hover : overlap < size) (h : Tiles size overlap xs.length start windows) :
    join overlap (windows.map (slice xs)) = xs.drop start := by
  induction h with
  | last _ _ => simp [join, slice]
  | @slide start rest hlt htail ih =>
    obtain ⟨stop, later, rfl, hstop⟩ := htail.eq_cons
    have hfirst : overlap ≤ (slice xs (start + (size - overlap), stop)).length := by
      rw [length_slice (by simp only; omega)]
      simp only
      omega
    calc join overlap (((start, start + size) :: (start + (size - overlap), stop) :: later).map (slice xs))
        = slice xs (start, start + size) ++
            (join overlap (((start + (size - overlap), stop) :: later).map (slice xs))).drop overlap := by
          rw [List.map_cons (l := later), join_drop hfirst]
          rfl
      _ = slice xs (start, start + size) ++ xs.drop (start + size) := by
          rw [ih, List.drop_drop]
          congr 2
          omega
      _ = xs.drop start := by
          have hlen : start ≤ (xs.take (start + size)).length := by
            rw [List.length_take]
            omega
          conv_rhs => rw [← List.take_append_drop (start + size) xs, List.drop_append_of_le_length hlen]
          rfl

end Tiles

end Windows
