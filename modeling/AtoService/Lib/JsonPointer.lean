/-
JSON pointers, as paths of keys into a value: reading the value under a path, and setting it.

A path that is set may be missing: the objects on it are made. Where a path meets a value that is neither an object nor a
list, the lenient variants stay there and the others raise.

- `valueAt_setAt`: what was set is read back, when the path meets objects only.
- `valueAt_setAt_of_unrelated`: a path that neither leads to the other, nor the other to it, keeps its value.
-/
import AtoService.Lib.Json

namespace AtoService.Json

/-! ## Paths -/

/-- `raw.replace("~1", "/").replace("~0", "~")`, one of the two -/
def replaceEscape (digit out : Char) : List Char → List Char
  | '~' :: c :: cs => if c = digit then out :: replaceEscape digit out cs else '~' :: replaceEscape digit out (c :: cs)
  | c :: cs => c :: replaceEscape digit out cs
  | [] => []

def splitSlash : List Char → List (List Char)
  | [] => [[]]
  | c :: cs =>
    if c = '/' then [] :: splitSlash cs
    else
      match splitSlash cs with
      | part :: parts => (c :: part) :: parts
      | [] => [[c]]

/-- `pointer.lstrip("/").split("/")`, with the escapes undone -/
def pointerParts (pointer : String) : List String :=
  (splitSlash ((Py.chars pointer).dropWhile (· = '/'))).map fun part =>
    String.ofList (replaceEscape '0' '~' (replaceEscape '1' '/' part))

/-- the index that a part names in a list: a decimal numeral in range -/
def partIndex (part : String) (length : Nat) : Option Nat :=
  let cs := Py.chars part
  let n := cs.foldl (fun n c => 10 * n + (c.toNat - '0'.toNat)) 0
  if cs ≠ [] ∧ (∀ c ∈ cs, '0' ≤ c ∧ c ≤ '9') ∧ n < length then some n else none

def valueAt (lenient : Bool) : List String → Json → Option Json
  | [], v => some v
  | k :: ks, .obj fs => (member k fs).bind (valueAt lenient ks)
  | k :: ks, .arr xs => ((partIndex k xs.length).bind (xs[·]?)).bind (valueAt lenient ks)
  | _ :: ks, v => if lenient then valueAt lenient ks v else none

/-- the value with an object in place of none and of null -/
def orObject : Option Json → Json
  | none => .obj []
  | some .null => .obj []
  | some v => v

def putMember (k : String) (v : Json) (fs : List (String × Json)) : List (String × Json) := KeyedList.put Prod.fst (k, v) fs

/-- the value after a path was set; nothing where that raises -/
def setAt (lenient : Bool) (new : Json) : List String → Json → Option Json
  | [], v => some v
  | [k], .obj fs => some (.obj (putMember k new fs))
  | [k], .arr xs => (partIndex k xs.length).map fun i => .arr (xs.set i new)
  | [_], v => if lenient then some v else none
  | k :: ks, .obj fs => (setAt lenient new ks (orObject (member k fs))).map fun v => .obj (putMember k v fs)
  | k :: ks, .arr xs => do
    let i ← partIndex k xs.length
    let v ← xs[i]?
    let w ← setAt lenient new ks v
    return .arr (xs.set i w)
  | _ :: ks, v => if lenient then setAt lenient new ks v else none

/-! ## Setting and reading -/

/-- the path meets objects only, until it leaves the value -/
def Through : List String → Json → Prop
  | [], _ => True
  | k :: ks, .obj fs => ∀ v, member k fs = some v → v ≠ .null → ks ≠ [] → Through ks v
  | _ :: _, _ => False

/-- neither path leads to the other -/
def Unrelated (p q : List String) : Prop := ¬p <+: q ∧ ¬q <+: p

instance (p q : List String) : Decidable (Unrelated p q) := inferInstanceAs (Decidable (_ ∧ _))

theorem Unrelated.symm {p q : List String} (h : Unrelated p q) : Unrelated q p := ⟨h.2, h.1⟩

theorem member_putMember (k k' : String) (v : Json) (fs : List (String × Json)) :
    member k' (putMember k v fs) = if k = k' then some v else member k' fs := by
  rw [member, putMember, KeyedList.get?_put]
  split_ifs <;> rfl

theorem setAt_cons {lenient : Bool} {new : Json} {k : String} {ks : List String} {fs : List (String × Json)} {v' : Json}
    (h : setAt lenient new (k :: ks) (.obj fs) = some v') : ∃ w, v' = .obj (putMember k w fs) ∧
      (ks = [] ∧ w = new ∨ ks ≠ [] ∧ setAt lenient new ks (orObject (member k fs)) = some w) := by
  cases ks with
  | nil => exact ⟨new, (Option.some.inj h).symm, Or.inl ⟨rfl, rfl⟩⟩
  | cons k' ks =>
    obtain ⟨w, hw, rfl⟩ := Option.map_eq_some_iff.1 h
    exact ⟨w, rfl, Or.inr ⟨List.cons_ne_nil _ _, hw⟩⟩

theorem through_orObject {k : String} {ks : List String} {fs : List (String × Json)} (h : Through (k :: ks) (.obj fs))
    (hne : ks ≠ []) : Through ks (orObject (member k fs)) := by
  have hempty : Through ks (.obj []) := by
    cases ks with
    | nil => trivial
    | cons k' ks => exact fun v hv => by cases hv
  cases hv : member k fs with
  | none => exact hempty
  | some v =>
    by_cases hnull : v = .null
    · subst hnull
      exact hempty
    · have horObject : orObject (some v) = v := by
        cases v with
        | null => exact absurd rfl hnull
        | _ => rfl
      rw [horObject]
      exact h v hv hnull hne

theorem valueAt_setAt {lenient strict : Bool} {new : Json} {p : List String} {v v' : Json} (hne : p ≠ [])
    (hp : Through p v) (h : setAt lenient new p v = some v') : valueAt strict p v' = some new := by
  induction p generalizing v v' with
  | nil => exact absurd rfl hne
  | cons k ks ih =>
    cases v with
    | obj fs =>
      obtain ⟨w, rfl, ⟨rfl, rfl⟩ | ⟨hks, hw⟩⟩ := setAt_cons h
      · rw [valueAt, member_putMember, if_pos rfl]
        rfl
      · rw [valueAt, member_putMember, if_pos rfl]
        exact ih hks (through_orObject hp hks) hw
    | _ => exact hp.elim

theorem Unrelated.tail {k : String} {p q : List String} (h : Unrelated (k :: p) (k :: q)) : Unrelated p q :=
  ⟨fun hp => h.1 (List.cons_prefix_cons.2 ⟨rfl, hp⟩), fun hq => h.2 (List.cons_prefix_cons.2 ⟨rfl, hq⟩)⟩

theorem Unrelated.ne_nil {p q : List String} (h : Unrelated p q) : p ≠ [] := fun hp => h.1 (hp ▸ List.nil_prefix)

/-- what an object holds in place of a null has nothing under it -/
theorem valueAt_orObject {q : List String} {o : Option Json} {w : Json} (hq : q ≠ [])
    (h : (o.bind (valueAt false q)) = some w) : valueAt false q (orObject o) = some w := by
  cases o with
  | none => cases h
  | some v =>
    cases v with
    | null =>
      cases q with
      | nil => exact absurd rfl hq
      | cons k ks => cases h
    | _ => exact h

theorem valueAt_setAt_of_unrelated {lenient : Bool} {new : Json} {p q : List String} {v v' w : Json}
    (hpq : Unrelated p q) (hp : Through p v) (h : setAt lenient new p v = some v') (hq : valueAt false q v = some w) :
    valueAt false q v' = some w := by
  induction p generalizing q v v' with
  | nil => exact absurd rfl hpq.ne_nil
  | cons k ks ih =>
    cases v with
    | obj fs =>
      obtain ⟨u, rfl, hu⟩ := setAt_cons h
      cases q with
      | nil => exact absurd rfl hpq.symm.ne_nil
      | cons j js =>
        rw [valueAt] at hq ⊢
        rw [member_putMember]
        split_ifs with hkey
        · subst hkey
          have htail := hpq.tail
          rcases hu with ⟨rfl, rfl⟩ | ⟨hks, hu⟩
          · exact absurd rfl htail.ne_nil
          · exact ih htail (through_orObject hp hks) hu (valueAt_orObject htail.symm.ne_nil hq)
        · exact hq
    | _ => exact hp.elim

/-- a path keeps meeting objects only -/
theorem through_setAt {lenient : Bool} {new : Json} {p q : List String} {v v' : Json} (hpq : Unrelated p q)
    (hp : Through p v) (h : setAt lenient new p v = some v') (hq : Through q v) : Through q v' := by
  induction p generalizing q v v' with
  | nil => exact absurd rfl hpq.ne_nil
  | cons k ks ih =>
    cases v with
    | obj fs =>
      obtain ⟨u, rfl, hu⟩ := setAt_cons h
      cases q with
      | nil => trivial
      | cons j js =>
        intro w hw hnull hjs
        rw [member_putMember] at hw
        split_ifs at hw with hkey
        · subst hkey
          obtain rfl := Option.some.inj hw
          have htail := hpq.tail
          rcases hu with ⟨rfl, rfl⟩ | ⟨hks, hu⟩
          · exact absurd rfl htail.ne_nil
          · exact ih htail (through_orObject hp hks) hu (through_orObject hq hjs)
        · exact hq w hw hnull hjs
    | _ => exact hp.elim

theorem through_setAt_self {lenient : Bool} {new : Json} {p : List String} {v v' : Json} (hp : Through p v)
    (h : setAt lenient new p v = some v') : Through p v' := by
  induction p generalizing v v' with
  | nil => trivial
  | cons k ks ih =>
    cases v with
    | obj fs =>
      obtain ⟨u, rfl, hu⟩ := setAt_cons h
      intro w hw _ hne
      rw [member_putMember, if_pos rfl] at hw
      obtain rfl := Option.some.inj hw
      rcases hu with ⟨hnil, -⟩ | ⟨hks, hu⟩
      · exact absurd hnil hne
      · exact ih (through_orObject hp hks) hu
    | _ => exact hp.elim

end AtoService.Json
