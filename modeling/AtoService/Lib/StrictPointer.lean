/-
JSON pointers that raise: reading the value under a path, and setting it, with the errors of Python's containers.

A part that meets a list is an index, which may be negative; one that is no numeral is another error than a missing key.

- `readAt_writeAt`: what was set is read back.
- `readAt_writeAt_of_unrelated`: a path that neither leads to the other, nor the other to it, reads the same as before, with
  its errors, when the path that is set meets objects only.
- `through_of_writeAt`: a path without numerals that can be set meets objects only.
-/
import AtoService.Lib.JsonPointer
import AtoService.Lib.Results
import Mathlib.Data.List.SplitOn

namespace AtoService.Json

open Results

inductive PointerError where
  /-- `KeyError` or `IndexError` -/
  | missing
  /-- the `ValueError` of `int(part)` -/
  | notANumber
deriving DecidableEq, Repr

/-- digits with single underscores between them -/
def numeral (cs : List Char) : Option Nat :=
  let groups := cs.splitOn '_'
  if groups.all fun ds => !ds.isEmpty && ds.all fun c => '0' ≤ c && c ≤ '9' then
    some (groups.flatten.foldl (fun n c => 10 * n + (c.toNat - '0'.toNat)) 0)
  else none

/-- `int(part)`, for decimal digits -/
def partInt (part : String) : Option Int :=
  match Py.chars (Py.strip part) with
  | '-' :: cs => (numeral cs).map fun n => -(n : Int)
  | '+' :: cs => (numeral cs).map Int.ofNat
  | cs => (numeral cs).map Int.ofNat

/-- the place of an index in a list; a negative one counts from the end -/
def listIndex (length : Nat) (i : Int) : Option Nat :=
  let j := if 0 ≤ i then i else i + length
  if 0 ≤ j ∧ j < length then some j.toNat else none

/-- `xs[int(part)]`: the place of the entry -/
def entryPlace (part : String) (xs : List Json) : Except PointerError Nat := do
  let i ← orRaise (partInt part) .notANumber
  orRaise (listIndex xs.length i) .missing

def readAt : List String → Json → Except PointerError Json
  | [], v => .ok v
  | k :: ks, .obj fs => do
    let v ← orRaise (member k fs) .missing
    readAt ks v
  | k :: ks, .arr xs => do
    let i ← entryPlace k xs
    let v ← orRaise xs[i]? .missing
    readAt ks v
  | _ :: _, _ => .error .missing

def writeAt (new : Json) : List String → Json → Except PointerError Json
  | [], v => .ok v
  | [k], .obj fs => .ok (.obj (putMember k new fs))
  | [k], .arr xs => do
    let i ← entryPlace k xs
    return .arr (xs.set i new)
  | k :: ks, .obj fs => do
    let v ← writeAt new ks (orObject (member k fs))
    return .obj (putMember k v fs)
  | k :: ks, .arr xs => do
    let i ← entryPlace k xs
    let v ← orRaise xs[i]? .missing
    let w ← writeAt new ks v
    return .arr (xs.set i w)
  | _ :: _, _ => .error .missing

/-! ## Setting and reading -/

theorem writeAt_obj {new : Json} {k : String} {ks : List String} {fs : List (String × Json)} {v' : Json}
    (h : writeAt new (k :: ks) (.obj fs) = .ok v') : ∃ w, v' = .obj (putMember k w fs) ∧
      (ks = [] ∧ w = new ∨ ks ≠ [] ∧ writeAt new ks (orObject (member k fs)) = .ok w) := by
  cases ks with
  | nil => exact ⟨new, (Except.ok.inj h).symm, Or.inl ⟨rfl, rfl⟩⟩
  | cons k' ks =>
    obtain ⟨w, hw, h⟩ := bind_eq_ok.1 h
    exact ⟨w, (Except.ok.inj h).symm, Or.inr ⟨List.cons_ne_nil _ _, hw⟩⟩

theorem writeAt_arr {new : Json} {k : String} {ks : List String} {xs : List Json} {v' : Json}
    (h : writeAt new (k :: ks) (.arr xs) = .ok v') : ∃ i w, entryPlace k xs = .ok i ∧ v' = .arr (xs.set i w) ∧
      (ks = [] ∧ w = new ∨ ks ≠ [] ∧ ∃ v, xs[i]? = some v ∧ writeAt new ks v = .ok w) := by
  cases ks with
  | nil =>
    obtain ⟨i, hi, h⟩ := bind_eq_ok.1 h
    exact ⟨i, new, hi, (Except.ok.inj h).symm, Or.inl ⟨rfl, rfl⟩⟩
  | cons k' ks =>
    obtain ⟨i, hi, h⟩ := bind_eq_ok.1 h
    obtain ⟨v, hv, h⟩ := bind_eq_ok.1 h
    obtain ⟨w, hw, h⟩ := bind_eq_ok.1 h
    exact ⟨i, w, hi, (Except.ok.inj h).symm, Or.inr ⟨List.cons_ne_nil _ _, v, orRaise_eq_ok.1 hv, hw⟩⟩

theorem entryPlace_lt {k : String} {xs : List Json} {i : Nat} (h : entryPlace k xs = .ok i) : i < xs.length := by
  obtain ⟨n, _, h⟩ := bind_eq_ok.1 h
  have hplace := orRaise_eq_ok.1 h
  unfold listIndex at hplace
  dsimp only at hplace
  split_ifs at hplace with hzero hrange hrange
  all_goals
    obtain rfl := Option.some.inj hplace
    omega

theorem entryPlace_set (k : String) (xs : List Json) (i : Nat) (w : Json) :
    entryPlace k (xs.set i w) = entryPlace k xs := by
  rw [entryPlace, entryPlace, List.length_set]

theorem readAt_writeAt {new : Json} {p : List String} {v v' : Json} (hne : p ≠ []) (h : writeAt new p v = .ok v') :
    readAt p v' = .ok new := by
  induction p generalizing v v' with
  | nil => exact absurd rfl hne
  | cons k ks ih =>
    have hrest : ∀ {w u : Json}, (ks = [] ∧ w = new ∨ ks ≠ [] ∧ writeAt new ks u = .ok w) → readAt ks w = .ok new := by
      rintro w u (⟨rfl, rfl⟩ | ⟨hks, hw⟩)
      · rfl
      · exact ih hks hw
    cases v with
    | obj fs =>
      obtain ⟨w, rfl, hw⟩ := writeAt_obj h
      rw [readAt, member_putMember, if_pos rfl]
      exact hrest hw
    | arr xs =>
      obtain ⟨i, w, hi, rfl, hw⟩ := writeAt_arr h
      have hlt := entryPlace_lt hi
      have hread : readAt ks w = .ok new := by
        rcases hw with hw | ⟨hks, v, _, hw⟩
        · exact hrest (u := .null) (Or.inl hw)
        · exact hrest (Or.inr ⟨hks, hw⟩)
      rw [readAt, entryPlace_set, hi]
      change (do let v ← orRaise (xs.set i w)[i]? PointerError.missing; readAt ks v) = _
      rw [List.getElem?_set_self hlt]
      exact hread
    | _ => cases ks <;> cases h

/-- what an object holds in place of a null reads the same -/
theorem readAt_orObject {q : List String} (hq : q ≠ []) (o : Option Json) :
    readAt q (orObject o) = (do let v ← orRaise o PointerError.missing; readAt q v) := by
  cases q with
  | nil => exact absurd rfl hq
  | cons k ks =>
    cases o with
    | none => rfl
    | some v =>
      cases v <;> rfl

theorem readAt_writeAt_of_unrelated {new : Json} {p q : List String} {v v' : Json} (hpq : Unrelated p q)
    (hp : Through p v) (h : writeAt new p v = .ok v') : readAt q v' = readAt q v := by
  induction p generalizing q v v' with
  | nil => exact absurd rfl hpq.ne_nil
  | cons k ks ih =>
    cases v with
    | obj fs =>
      obtain ⟨u, rfl, hu⟩ := writeAt_obj h
      cases q with
      | nil => exact absurd rfl hpq.symm.ne_nil
      | cons j js =>
        rw [readAt, readAt, member_putMember]
        split_ifs with hkey
        · subst hkey
          have htail := hpq.tail
          rcases hu with ⟨rfl, rfl⟩ | ⟨hks, hu⟩
          · exact absurd rfl htail.ne_nil
          · exact (ih htail (through_orObject hp hks) hu).trans (readAt_orObject htail.symm.ne_nil (member k fs))
        · rfl
    | _ => exact hp.elim

theorem through_of_writeAt {new : Json} {p : List String} {v v' : Json} (hp : ∀ part ∈ p, partInt part = none)
    (h : writeAt new p v = .ok v') : Through p v := by
  induction p generalizing v v' with
  | nil => trivial
  | cons k ks ih =>
    have hks : ∀ part ∈ ks, partInt part = none := fun part hpart => hp part (List.mem_cons_of_mem _ hpart)
    cases v with
    | obj fs =>
      intro w hw hnull hne
      obtain ⟨u, _, ⟨hnil, _⟩ | ⟨_, hu⟩⟩ := writeAt_obj h
      · exact absurd hnil hne
      · rw [hw] at hu
        have horObject : orObject (some w) = w := by
          cases w with
          | null => exact absurd rfl hnull
          | _ => rfl
        rw [horObject] at hu
        exact ih hks hu
    | arr xs =>
      obtain ⟨i, _, hi, _⟩ := writeAt_arr h
      obtain ⟨n, hn, _⟩ := bind_eq_ok.1 hi
      rw [orRaise_eq_ok, hp k List.mem_cons_self] at hn
      cases hn
    | _ => cases ks <;> cases h

end AtoService.Json
