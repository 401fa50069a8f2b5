/-
Hash chains: every entry names the digest of the entry before it, and the first one names a fixed genesis value.

Nothing here depends on how a digest is computed. `linked_append` links two stretches at their seam.
`commitment`: where entries of one digest name one predecessor and none has the genesis value, the digests of a chain are
determined by the last one. The induction is from the end, where the digests agree by hypothesis.
-/
import Mathlib.Tactic

namespace AtoService.HashChain

variable {α H : Type} (prev hash : α → H)

/-- every entry names the digest of the one before it, the first one names `g` -/
def Linked : H → List α → Prop
  | _, [] => True
  | g, e :: es => prev e = g ∧ Linked (hash e) es

/-- the digest that the next entry has to name -/
def head (g : H) (es : List α) : H := (es.getLast?.map hash).getD g

variable {prev hash}

@[simp] theorem head_nil (g : H) : head hash g [] = g := rfl

@[simp] theorem head_append_singleton (g : H) (es : List α) (e : α) : head hash g (es ++ [e]) = hash e := by
  simp [head]

theorem head_cons (g : H) (e : α) (es : List α) : head hash g (e :: es) = head hash (hash e) es := by
  cases es with
  | nil => rfl
  | cons d ds =>
    rw [head, head, List.getLast?_cons_cons, List.getLast?_cons, Option.map_some]
    rfl

theorem linked_append {g : H} {es ds : List α} :
    Linked prev hash g (es ++ ds) ↔ Linked prev hash g es ∧ Linked prev hash (head hash g es) ds := by
  induction es generalizing g with
  | nil => simp [Linked]
  | cons e es ih => rw [List.cons_append, Linked, Linked, ih, head_cons, and_assoc]

theorem linked_append_singleton {g : H} {es : List α} {e : α} :
    Linked prev hash g (es ++ [e]) ↔ Linked prev hash g es ∧ prev e = head hash g es := by
  rw [linked_append]
  simp [Linked]

/-- **Commitment.** Two chains that end in one digest have the same digests, entry by entry, where entries of one digest
name one predecessor. -/
theorem commitment {g : H} {es ds : List α} (hes : Linked prev hash g es) (hds : Linked prev hash g ds)
    (hprev : ∀ e ∈ es, ∀ d ∈ ds, hash e = hash d → prev e = prev d) (hes' : ∀ e ∈ es, hash e ≠ g)
    (hds' : ∀ d ∈ ds, hash d ≠ g) (hhead : head hash g es = head hash g ds) :
    List.Forall₂ (fun e d => hash e = hash d) es ds := by
  induction es using List.reverseRecOn generalizing ds with
  | nil =>
    rcases List.eq_nil_or_concat ds with rfl | ⟨ds, d, rfl⟩
    · exact .nil
    · rw [List.concat_eq_append] at hds' hhead
      rw [head_nil, head_append_singleton] at hhead
      exact absurd hhead.symm (hds' d (by simp))
  | append_singleton es e ih =>
    rcases List.eq_nil_or_concat ds with rfl | ⟨ds, d, rfl⟩
    · rw [head_nil, head_append_singleton] at hhead
      exact absurd hhead (hes' e (by simp))
    · rw [List.concat_eq_append] at *
      rw [head_append_singleton, head_append_singleton] at hhead
      have hsame : prev e = prev d := hprev e (by simp) d (by simp) hhead
      obtain ⟨hes, hlast⟩ := linked_append_singleton.1 hes
      obtain ⟨hds, hlast'⟩ := linked_append_singleton.1 hds
      have hrest : List.Forall₂ (fun e d => hash e = hash d) es ds := by
        apply ih hes hds
        · intro e he d hd
          exact hprev e (List.mem_append_left _ he) d (List.mem_append_left _ hd)
        · intro e he
          exact hes' e (List.mem_append_left _ he)
        · intro d hd
          exact hds' d (List.mem_append_left _ hd)
        · exact hlast.symm.trans (hsame.trans hlast')
      exact List.rel_append hrest (.cons hhead .nil)

end AtoService.HashChain
