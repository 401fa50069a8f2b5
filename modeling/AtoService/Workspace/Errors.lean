/-
The exceptions of the workspace code, as far as a route tells them apart.

`ErrClass` lists the classes and `isPersistence`, `isValueError` follow their base classes: the persistence errors derive
from `WorkspacePersistenceError`, almost every other class of the workspace derives from `ValueError`, and what the
database or a missing key raises derives from neither.
-/
import AtoService.Lib.Results
import Mathlib.Tactic

namespace AtoService.Workspace

inductive ErrClass where
  -- WorkspacePersistenceError
  | workspaceNotFound
  | profileVersionNotFound
  | illegalWorkspaceState
  | staleWorkspaceRevision
  | revisionIntegrity
  | evidenceReference
  -- ValueError
  | valueError
  | validation
  | workspaceEdit
  | workspaceQuestionState
  | categorizationValidation
  | profileValidation
  | workspaceProfileValidation
  | generationContract
  | profileBundle
  | agentPatchNotFound
  | agentPatchState
  | approvalNotFound
  | workspaceNotReviewable
  | evidenceUpload
  | evidenceRemoval
  | workspaceExportValidation
  | runtimeConfig
  | profilePersistence
  -- neither
  | authorizationDenied
  | sspGeneration
  | blobStore
  | integrityError
  | dataError
  | keyError
  | typeError
  | noResultFound
deriving DecidableEq, Repr

structure Err where
  cls : ErrClass
  detail : String
  field : String := ""
deriving DecidableEq, Repr

namespace ErrClass

/-- `issubclass(cls, WorkspacePersistenceError)` -/
def isPersistence : ErrClass → Bool
  | .workspaceNotFound | .profileVersionNotFound | .illegalWorkspaceState | .staleWorkspaceRevision
  | .revisionIntegrity | .evidenceReference => true
  | _ => false

/-- `issubclass(cls, ValueError)` -/
def isValueError : ErrClass → Bool
  | .valueError | .validation | .workspaceEdit | .workspaceQuestionState | .categorizationValidation
  | .profileValidation | .workspaceProfileValidation | .generationContract | .profileBundle | .agentPatchNotFound
  | .agentPatchState | .approvalNotFound | .workspaceNotReviewable | .evidenceUpload | .evidenceRemoval
  | .workspaceExportValidation | .runtimeConfig | .profilePersistence => true
  | _ => false

end ErrClass

/-- raise an exception of a class with its text -/
def raise {α : Type} (cls : ErrClass) (detail : String) : Except Err α := .error { cls, detail }

/-- `if not p: raise …` -/
def ensure (p : Prop) [Decidable p] (cls : ErrClass) (detail : String) : Except Err Unit :=
  if p then .ok () else raise cls detail

@[simp] theorem ok_eq_raise {α : Type} {cls : ErrClass} {detail : String} {a : α} :
    .ok a = raise cls detail ↔ False := by
  simp [raise]

@[simp] theorem raise_eq_ok {α : Type} {cls : ErrClass} {detail : String} {a : α} :
    raise cls detail = .ok a ↔ False := by
  simp [raise]

/-- what a successful `do` block went through -/
theorem bind_eq_ok {α β : Type} {x : Except Err α} {f : α → Except Err β} {b : β} :
    (x >>= f) = .ok b ↔ ∃ a, x = .ok a ∧ f a = .ok b :=
  Results.bind_eq_ok

@[simp] theorem pure_eq_ok {α : Type} {a b : α} : (pure a : Except Err α) = .ok b ↔ a = b := by
  simp [pure, Except.pure]

@[simp] theorem ensure_eq_ok {p : Prop} [Decidable p] {cls : ErrClass} {detail : String} {u : Unit} :
    ensure p cls detail = .ok u ↔ p := by
  by_cases h : p <;> simp [ensure, h]

theorem ensure_eq_error {p : Prop} [Decidable p] {cls : ErrClass} {detail : String} {e : Err} :
    ensure p cls detail = .error e ↔ ¬p ∧ e = { cls, detail } := by
  by_cases h : p <;> simp [ensure, h, raise, eq_comm]

/-! ## Which classes a computation raises -/

/-- whatever the computation raises is of a class in `P` -/
def Raises {α : Type} (P : ErrClass → Prop) (x : Except Err α) : Prop := ∀ e, x = .error e → P e.cls

section Raises

variable {α β : Type} {P : ErrClass → Prop}

theorem raises_ok (a : α) : Raises P (.ok a) := by
  rintro e ⟨⟩

theorem raises_raise {cls : ErrClass} {detail : String} (h : P cls) : Raises P (raise cls detail : Except Err α) := by
  rintro e ⟨⟩
  exact h

theorem raises_bind {x : Except Err α} {f : α → Except Err β} (hx : Raises P x) (hf : ∀ a, Raises P (f a)) :
    Raises P (x >>= f) := by
  intro e he
  cases x with
  | error e' => exact hx e (by simpa [bind, Except.bind] using he)
  | ok a => exact hf a e he

theorem raises_map {x : Except Err α} {f : α → β} (hx : Raises P x) : Raises P (f <$> x) := by
  intro e he
  cases x with
  | error e' => exact hx e (by simpa [Functor.map, Except.map] using he)
  | ok a => simp [Functor.map, Except.map] at he

theorem raises_mapM {f : α → Except Err β} {xs : List α} (h : ∀ x ∈ xs, Raises P (f x)) : Raises P (xs.mapM f) := by
  induction xs with
  | nil => exact raises_ok _
  | cons x xs ih =>
    rw [List.mapM_cons]
    exact raises_bind (h x List.mem_cons_self) fun _ =>
      raises_bind (ih fun y hy => h y (List.mem_cons_of_mem _ hy)) fun _ => raises_ok _

theorem raises_foldlM {f : β → α → Except Err β} (h : ∀ b a, Raises P (f b a)) (xs : List α) (b : β) :
    Raises P (xs.foldlM f b) := by
  induction xs generalizing b with
  | nil => exact raises_ok b
  | cons x xs ih =>
    rw [List.foldlM_cons]
    exact raises_bind (h b x) ih

theorem raises_forM {f : α → Except Err Unit} {xs : List α} (h : ∀ x ∈ xs, Raises P (f x)) : Raises P (xs.forM f) := by
  induction xs with
  | nil => exact raises_ok _
  | cons x xs ih =>
    show Raises P (f x >>= fun _ => xs.forM f)
    exact raises_bind (h x List.mem_cons_self) fun _ => ih fun y hy => h y (List.mem_cons_of_mem _ hy)

theorem raises_optionMapM {f : α → Except Err β} {o : Option α} (h : ∀ x ∈ o, Raises P (f x)) :
    Raises P (o.mapM f) := by
  cases o with
  | none => exact raises_ok _
  | some x => exact raises_bind (h x rfl) fun _ => raises_ok _

end Raises

theorem forM_eq_ok {α : Type} {f : α → Except Err Unit} {xs : List α} :
    xs.forM f = .ok () ↔ ∀ x ∈ xs, f x = .ok () := by
  induction xs with
  | nil => simp [List.forM, pure, Except.pure]
  | cons x xs ih =>
    show (f x >>= fun _ => xs.forM f) = .ok () ↔ _
    rw [bind_eq_ok, List.forall_mem_cons, ← ih]
    exact ⟨fun ⟨_, h₁, h₂⟩ => ⟨h₁, h₂⟩, fun ⟨h₁, h₂⟩ => ⟨(), h₁, h₂⟩⟩

/-- a successful fold keeps what each of its steps keeps -/
theorem foldlM_inv {α β : Type} {f : β → α → Except Err β} {P : β → Prop} {xs : List α}
    (hf : ∀ a ∈ xs, ∀ b b', P b → f b a = .ok b' → P b') {b b' : β} (hb : P b) (h : xs.foldlM f b = .ok b') : P b' := by
  induction xs generalizing b with
  | nil =>
    obtain rfl : b = b' := by simpa [pure, Except.pure] using h
    exact hb
  | cons a xs ih =>
    rw [List.foldlM_cons, bind_eq_ok] at h
    obtain ⟨b₁, h₁, h₂⟩ := h
    exact ih (fun a' ha' => hf a' (List.mem_cons_of_mem _ ha')) (hf a List.mem_cons_self b b₁ hb h₁) h₂

/-- what a successful `[f(x) for x in xs]` returned, entry by entry -/
theorem mapM_eq_ok {α β : Type} {f : α → Except Err β} {xs : List α} {ys : List β} :
    xs.mapM f = .ok ys ↔ List.Forall₂ (fun x y => f x = .ok y) xs ys :=
  Results.mapM_eq_ok

theorem exists_of_mem_mapM {α β : Type} {f : α → Except Err β} {xs : List α} {ys : List β} (h : xs.mapM f = .ok ys)
    {y : β} (hy : y ∈ ys) : ∃ x ∈ xs, f x = .ok y := by
  have h := mapM_eq_ok.1 h
  induction h with
  | nil => simp at hy
  | @cons x y' xs ys hxy _ ih =>
    rcases List.mem_cons.1 hy with rfl | hy
    · exact ⟨x, List.mem_cons_self, hxy⟩
    · obtain ⟨x', hx', h'⟩ := ih (mapM_eq_ok.2 ‹_›) hy
      exact ⟨x', List.mem_cons_of_mem _ hx', h'⟩

end AtoService.Workspace
