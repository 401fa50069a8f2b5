/-
Logs of events: a log is lawful when each of its events is, given the events before it.

- `Lawful.snoc`, `Lawful.append`: what a machine that appends to its log has to show.
-/
import Mathlib.Tactic

namespace AtoService.EventLogs

variable {ε : Type} {ok : List ε → ε → Prop} {log events : List ε} {e : ε}

def Lawful (ok : List ε → ε → Prop) (log : List ε) : Prop :=
  ∀ earlier e later, log = earlier ++ e :: later → ok earlier e

theorem lawful_nil : Lawful ok [] := by
  intro earlier e later h
  simp at h

theorem Lawful.snoc (h : Lawful ok log) (he : ok log e) : Lawful ok (log ++ [e]) := by
  intro earlier e' later heq
  rcases List.append_eq_append_iff.1 heq with ⟨rest, hearlier, hrest⟩ | ⟨rest, hlog, hrest⟩
  · cases rest with
    | nil =>
      obtain ⟨rfl, rfl⟩ : e = e' ∧ [] = later := by simpa using hrest
      rwa [hearlier, List.append_nil]
    | cons d rest => simp at hrest
  · cases rest with
    | nil =>
      obtain ⟨rfl, rfl⟩ : e' = e ∧ later = [] := by simpa using hrest
      rwa [← (List.append_nil earlier), ← hlog]
    | cons d rest =>
      obtain ⟨rfl, -⟩ : e' = d ∧ later = rest ++ [e] := by simpa using hrest
      exact h earlier e' rest hlog

/-- events that are lawful after whatever comes between -/
theorem Lawful.append (h : Lawful ok log) (hevents : ∀ e ∈ events, ∀ l, ok (log ++ l) e) :
    Lawful ok (log ++ events) := by
  induction events using List.reverseRecOn with
  | nil => rwa [List.append_nil]
  | append_singleton events e ih =>
    rw [← List.append_assoc]
    refine (ih fun e he => hevents e (List.mem_append_left _ he)).snoc ?_
    exact hevents e (List.mem_append_right _ (List.mem_singleton_self e)) events

end AtoService.EventLogs
