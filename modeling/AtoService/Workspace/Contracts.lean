/-
The contracts of SSP workspace content: evidence links, facts, sections, controls, questions and the revision that holds
them, with their validators.

A model's fields are a structure. What its validators check is `firstError`: the text of the first check that fails;
`Valid` says that there is none, and `validated` is what `model_validate` does with fields of the right types. The code
also builds content with `model_copy`, which checks nothing, so a revision's content is a plain value and `Valid` is
something to prove of it. An evidence link is never copied: its non-empty locator is a field.

`validated_eq_ok` reads a successful validation; `FactContent.valid_iff`, `SectionContent.valid_iff`,
`ControlContent.valid_iff`, `QuestionContent.valid_iff` and `RevisionContent.valid_iff` read the validators as
conditions.
-/
import AtoService.Lib.Json
import AtoService.Workspace.Errors

namespace AtoService.Workspace

open AtoService.Py

/-- functions of the Python library whose tables are too large to write out: `str.casefold`, `str.lower`, `str(value)`
of a JSON value that is not a string, `repr` of a string, and `repr(sorted(locator.items()))` -/
structure Host where
  casefold : String → String
  lower : String → String
  pyStr : Json → String
  reprStr : String → String
  reprItems : List (String × Json) → String

/-! ## Identifiers -/

/-- a `uuid.UUID`, as its thirty-two hexadecimal digits -/
structure Uuid where
  digits : List (Fin 16)
  length_eq : digits.length = 32
deriving DecidableEq, Repr

namespace Uuid

def hexText (ds : List (Fin 16)) : List Char := ds.map fun d => hexChar d.val

/-- `str(u)`: groups of 8, 4, 4, 4 and 12 digits -/
def chars (u : Uuid) : List Char :=
  hexText (u.digits.take 8) ++ '-' :: hexText ((u.digits.drop 8).take 4) ++
    '-' :: hexText ((u.digits.drop 12).take 4) ++ '-' :: hexText ((u.digits.drop 16).take 4) ++
    '-' :: hexText (u.digits.drop 20)

def str (u : Uuid) : String := String.ofList u.chars

def hexVal (c : Char) : Option (Fin 16) :=
  let n := c.toNat
  if 48 ≤ n ∧ n ≤ 57 then some (Fin.ofNat 16 (n - 48))
  else if 97 ≤ n ∧ n ≤ 102 then some (Fin.ofNat 16 (n - 87))
  else if 65 ≤ n ∧ n ≤ 70 then some (Fin.ofNat 16 (n - 55))
  else none

/-- drop every occurrence of `pat`, scanning from the left; `k` bounds the steps -/
def removeAll (pat : List Char) : Nat → List Char → List Char
  | 0, cs => cs
  | _, [] => []
  | k + 1, c :: cs => if pat.isPrefixOf (c :: cs) then removeAll pat k ((c :: cs).drop pat.length)
    else c :: removeAll pat k cs

/-- `uuid.UUID(text)`: an optional `urn:uuid:`, optional braces, hyphens anywhere, thirty-two digits -/
def parse (text : String) : Option Uuid :=
  let cs := Py.chars text
  let cs := removeAll ['u', 'u', 'i', 'd', ':'] cs.length (removeAll ['u', 'r', 'n', ':'] cs.length cs)
  let cs := (stripChars (fun c => c == '{' || c == '}') cs).filter (· != '-')
  match cs.mapM hexVal with
  | some ds => if h : ds.length = 32 then some ⟨ds, h⟩ else none
  | none => none

/-- the identifier whose digits write `n` -/
def ofNat (n : Nat) : Uuid :=
  ⟨(List.range 32).map fun i => Fin.ofNat 16 (n / 16 ^ (31 - i)), by simp⟩

end Uuid

/-! ## States -/

inductive WorkspaceState where
  | working | archived
deriving DecidableEq, Repr

inductive RevisionState where
  | working | approved | superseded
deriving DecidableEq, Repr

inductive EvidenceState where
  | uploaded | processing | processed | failed
deriving DecidableEq, Repr

inductive FactState where
  | active | superseded
deriving DecidableEq, Repr

inductive SectionState where
  | empty | generated | edited | reviewed
deriving DecidableEq, Repr

inductive ControlState where
  | empty | generated | partly | reviewed
deriving DecidableEq, Repr

inductive QuestionState where
  | opened | answered | dismissed
deriving DecidableEq, Repr

inductive PatchState where
  | proposed | applied | rejected | stale
deriving DecidableEq, Repr

inductive ProfileState where
  | inactive | active | archived
deriving DecidableEq, Repr

inductive Provenance where
  | extracted | agentGenerated | issoEntered
deriving DecidableEq, Repr

/-- `target_type` of a question -/
inductive TargetType where
  | fact | sspSection | control
deriving DecidableEq, Repr

/-- `owner_type` of a question -/
inductive OwnerType where
  | agency | technical | isso | systemOwner | other
deriving DecidableEq, Repr

def FactState.value : FactState → String
  | .active => "active"
  | .superseded => "superseded"

def SectionState.value : SectionState → String
  | .empty => "empty"
  | .generated => "generated"
  | .edited => "edited"
  | .reviewed => "reviewed"

def ControlState.value : ControlState → String
  | .empty => "empty"
  | .generated => "generated"
  | .partly => "partial"
  | .reviewed => "reviewed"

def QuestionState.value : QuestionState → String
  | .opened => "open"
  | .answered => "answered"
  | .dismissed => "dismissed"

def Provenance.value : Provenance → String
  | .extracted => "extracted"
  | .agentGenerated => "agent_generated"
  | .issoEntered => "isso_entered"

def TargetType.value : TargetType → String
  | .fact => "fact"
  | .sspSection => "ssp_section"
  | .control => "control"

def OwnerType.value : OwnerType → String
  | .agency => "agency"
  | .technical => "technical"
  | .isso => "isso"
  | .systemOwner => "system_owner"
  | .other => "other"

/-! ## Content -/

structure EvidenceLink where
  artifactId : Uuid
  locator : List (String × Json)
  nonempty : locator ≠ []
deriving Repr

structure FactContent where
  key : String
  value : Json
  provenance : Provenance
  evidence : List EvidenceLink := []
  state : FactState := .active
deriving Repr

structure SectionContent where
  key : String
  title : String
  content : String
  state : SectionState
  evidence : List EvidenceLink := []
deriving Repr

structure ControlContent where
  controlId : String
  title : String
  implementationStatus : Option String := none
  implementationStatement : String := ""
  responsibility : Option String := none
  state : ControlState
  evidence : List EvidenceLink := []
  unresolvedReason : Option String := none
deriving Repr

structure QuestionContent where
  questionId : Uuid
  question : String
  targetType : TargetType
  targetKey : String
  ownerType : OwnerType
  state : QuestionState := .opened
  answer : Option String := none
deriving Repr

/-- complete hashable content of one revision; `schema_version` is always `"1.0.0"` -/
structure RevisionContent where
  facts : List FactContent := []
  sections : List SectionContent := []
  controls : List ControlContent := []
  questions : List QuestionContent := []
deriving Repr

namespace QuestionContent

/-- the key the code files a question under: `str(question.question_id)` -/
def idKey (q : QuestionContent) : String := q.questionId.str

end QuestionContent

/-! ## Validators -/

/-- the first check that fails -/
def firstFailure (checks : List (Bool × String)) : Option String :=
  (checks.find? fun c => !c.1).map Prod.snd

theorem firstFailure_eq_none {checks : List (Bool × String)} :
    firstFailure checks = none ↔ ∀ c ∈ checks, c.1 = true := by
  simp [firstFailure, List.find?_eq_none]

def minLengthText (n : Nat) : String :=
  "String should have at least " ++ toString n ++ (if n = 1 then " character" else " characters")

def maxLengthText (n : Nat) : String := "String should have at most " ++ toString n ++ " characters"

def textOf (s : Option String) : String := s.getD ""

namespace FactContent

def firstError (f : FactContent) : Option String :=
  firstFailure [
    (decide (1 ≤ f.key.length), minLengthText 1),
    (decide (f.key.length ≤ 255), maxLengthText 255),
    (decide (f.provenance = .issoEntered) || !f.evidence.isEmpty,
      "extracted and agent-generated facts require evidence")]

def Valid (f : FactContent) : Prop := f.firstError = none

instance (f : FactContent) : Decidable f.Valid := inferInstanceAs (Decidable (_ = _))

end FactContent

namespace SectionContent

def firstError (s : SectionContent) : Option String :=
  firstFailure [
    (decide (1 ≤ s.key.length), minLengthText 1),
    (decide (s.key.length ≤ 255), maxLengthText 255),
    (decide (1 ≤ s.title.length), minLengthText 1),
    (decide (s.title.length ≤ 500), maxLengthText 500),
    (decide (s.content.length ≤ 100000), maxLengthText 100000),
    (!(decide (s.state = .empty) && hasText s.content), "empty sections cannot contain content"),
    (decide (s.state = .empty) || hasText s.content, "non-empty section states require content")]

def Valid (s : SectionContent) : Prop := s.firstError = none

instance (s : SectionContent) : Decidable s.Valid := inferInstanceAs (Decidable (_ = _))

end SectionContent

def isDigit (c : Char) : Bool := '0' ≤ c && c ≤ '9'

/-- `[0-9]+(?:\.[0-9]+)*`; `seen` says that a digit was read since the last point -/
def dottedNumbers : Bool → List Char → Bool
  | seen, [] => seen
  | seen, c :: cs => if c = '.' then seen && dottedNumbers false cs else isDigit c && dottedNumbers true cs

/-- `[A-Z]{2,4}-[0-9]+(?:\([0-9]+\)|(?:\.[0-9]+)+)?`, the whole text -/
def isControlId (s : String) : Bool :=
  let family := (Py.chars s).takeWhile fun c => 'A' ≤ c && c ≤ 'Z'
  2 ≤ family.length && family.length ≤ 4 &&
    match (Py.chars s).drop family.length with
    | '-' :: rest =>
      let number := rest.takeWhile isDigit
      let enhancement := (rest.drop (number.length + 1)).takeWhile isDigit
      dottedNumbers false rest ||
        (!number.isEmpty && !enhancement.isEmpty && rest == number ++ '(' :: enhancement ++ [')'])
    | _ => false

namespace ControlContent

def firstError (c : ControlContent) : Option String :=
  let hasStatement := hasText c.implementationStatement
  firstFailure [
    (isControlId c.controlId, "String should match pattern"),
    (decide (1 ≤ c.title.length), minLengthText 1),
    (decide (c.title.length ≤ 500), maxLengthText 500),
    (decide ((textOf c.implementationStatus).length ≤ 64), maxLengthText 64),
    (decide (c.implementationStatement.length ≤ 100000), maxLengthText 100000),
    (decide ((textOf c.responsibility).length ≤ 64), maxLengthText 64),
    (decide ((textOf c.unresolvedReason).length ≤ 4000), maxLengthText 4000),
    (!(decide (c.state = .empty) && hasStatement), "empty controls cannot contain a statement"),
    (!(decide (c.state = .generated ∨ c.state = .reviewed) && !hasStatement),
      "generated and reviewed controls require a statement"),
    (!(decide (c.state = .partly) && !(hasStatement || hasText (textOf c.unresolvedReason))),
      "partial controls require content or an unresolved reason")]

def Valid (c : ControlContent) : Prop := c.firstError = none

instance (c : ControlContent) : Decidable c.Valid := inferInstanceAs (Decidable (_ = _))

end ControlContent

namespace QuestionContent

def firstError (q : QuestionContent) : Option String :=
  firstFailure [
    (decide (1 ≤ q.question.length), minLengthText 1),
    (decide (q.question.length ≤ 4000), maxLengthText 4000),
    (decide (1 ≤ q.targetKey.length), minLengthText 1),
    (decide (q.targetKey.length ≤ 255), maxLengthText 255),
    (decide ((textOf q.answer).length ≤ 20000), maxLengthText 20000),
    (!(decide (q.state = .answered) && !hasText (textOf q.answer)), "answered questions require an answer"),
    (!(decide (q.state = .opened) && q.answer.isSome), "open questions cannot contain an answer")]

def Valid (q : QuestionContent) : Prop := q.firstError = none

instance (q : QuestionContent) : Decidable q.Valid := inferInstanceAs (Decidable (_ = _))

end QuestionContent

namespace RevisionContent

/-- the checks across the items of a revision: no key, identifier or question twice -/
def uniqueError (c : RevisionContent) : Option String :=
  firstFailure [
    (decide (KeyedList.Distinct FactContent.key c.facts), "duplicate fact key"),
    (decide (KeyedList.Distinct SectionContent.key c.sections), "duplicate section key"),
    (decide (KeyedList.Distinct ControlContent.controlId c.controls), "duplicate control ID"),
    (decide (KeyedList.Distinct QuestionContent.idKey c.questions), "duplicate question ID")]

def firstError (c : RevisionContent) : Option String :=
  (c.facts.findSome? FactContent.firstError).or <|
    (c.sections.findSome? SectionContent.firstError).or <|
      (c.controls.findSome? ControlContent.firstError).or <|
        (c.questions.findSome? QuestionContent.firstError).or c.uniqueError

def Valid (c : RevisionContent) : Prop := c.firstError = none

instance (c : RevisionContent) : Decidable c.Valid := inferInstanceAs (Decidable (_ = _))

end RevisionContent

/-- `model_validate` of a value whose fields have the right types -/
def validated {α : Type} (firstError : α → Option String) (x : α) : Except Err α :=
  match firstError x with
  | some detail => raise .validation detail
  | none => .ok x

theorem validated_eq_ok {α : Type} {firstError : α → Option String} {x y : α} :
    validated firstError x = .ok y ↔ y = x ∧ firstError x = none := by
  unfold validated
  cases firstError x <;> simp [eq_comm]

theorem raises_validated {α : Type} (firstError : α → Option String) (x : α) :
    Raises (· = .validation) (validated firstError x) := by
  intro e he
  unfold validated at he
  split at he
  · cases he
    rfl
  · cases he

/-! ## What the validators say -/

namespace FactContent

theorem valid_iff {f : FactContent} :
    f.Valid ↔ 1 ≤ f.key.length ∧ f.key.length ≤ 255 ∧ (f.provenance = .issoEntered ∨ f.evidence ≠ []) := by
  simp [Valid, firstError, firstFailure_eq_none]

/-- a fact as the code writes it for the ISSO: no evidence, active -/
def isso (key : String) (value : Json) : FactContent := { key, value, provenance := .issoEntered }

@[simp] theorem isso_key (key : String) (value : Json) : (isso key value).key = key := rfl

@[simp] theorem isso_value (key : String) (value : Json) : (isso key value).value = value := rfl

@[simp] theorem isso_state (key : String) (value : Json) : (isso key value).state = .active := rfl

@[simp] theorem isso_evidence (key : String) (value : Json) : (isso key value).evidence = [] := rfl

@[simp] theorem isso_provenance (key : String) (value : Json) : (isso key value).provenance = .issoEntered := rfl

theorem isso_valid {key : String} {value : Json} (h : 1 ≤ key.length ∧ key.length ≤ 255) : (isso key value).Valid :=
  valid_iff.2 ⟨h.1, h.2, Or.inl rfl⟩

end FactContent

namespace SectionContent

theorem valid_iff {s : SectionContent} :
    s.Valid ↔ 1 ≤ s.key.length ∧ s.key.length ≤ 255 ∧ 1 ≤ s.title.length ∧ s.title.length ≤ 500 ∧
      s.content.length ≤ 100000 ∧ (s.state = .empty ↔ hasText s.content = false) := by
  simp only [Valid, firstError, firstFailure_eq_none]
  cases hs : decide (s.state = .empty) <;> cases ht : hasText s.content <;> simp_all

end SectionContent

namespace ControlContent

theorem valid_iff {c : ControlContent} :
    c.Valid ↔ isControlId c.controlId = true ∧ 1 ≤ c.title.length ∧ c.title.length ≤ 500 ∧
      (textOf c.implementationStatus).length ≤ 64 ∧ c.implementationStatement.length ≤ 100000 ∧
      (textOf c.responsibility).length ≤ 64 ∧ (textOf c.unresolvedReason).length ≤ 4000 ∧
      (c.state = .empty → hasText c.implementationStatement = false) ∧
      (c.state = .generated ∨ c.state = .reviewed → hasText c.implementationStatement = true) ∧
      (c.state = .partly → hasText c.implementationStatement = true ∨
        hasText (textOf c.unresolvedReason) = true) := by
  simp only [Valid, firstError, firstFailure_eq_none]
  cases c.state <;> cases hasText c.implementationStatement <;> cases hasText (textOf c.unresolvedReason) <;> simp

end ControlContent

namespace QuestionContent

theorem valid_iff {q : QuestionContent} :
    q.Valid ↔ 1 ≤ q.question.length ∧ q.question.length ≤ 4000 ∧ 1 ≤ q.targetKey.length ∧
      q.targetKey.length ≤ 255 ∧ (textOf q.answer).length ≤ 20000 ∧
      (q.state = .answered → hasText (textOf q.answer) = true) ∧ (q.state = .opened → q.answer = none) := by
  simp only [Valid, firstError, firstFailure_eq_none]
  cases q.state <;> cases hasText (textOf q.answer) <;> simp

end QuestionContent

namespace RevisionContent

/-- the keys, control identifiers and question identifiers of a revision are each distinct -/
structure Unique (c : RevisionContent) : Prop where
  facts : KeyedList.Distinct FactContent.key c.facts
  sections : KeyedList.Distinct SectionContent.key c.sections
  controls : KeyedList.Distinct ControlContent.controlId c.controls
  questions : KeyedList.Distinct QuestionContent.idKey c.questions

theorem uniqueError_eq_none {c : RevisionContent} : c.uniqueError = none ↔ c.Unique := by
  simp only [uniqueError, firstFailure_eq_none, List.forall_mem_cons, decide_eq_true_eq]
  exact ⟨fun ⟨h₁, h₂, h₃, h₄, _⟩ => ⟨h₁, h₂, h₃, h₄⟩, fun h => ⟨h.facts, h.sections, h.controls, h.questions, by simp⟩⟩

theorem valid_iff {c : RevisionContent} :
    c.Valid ↔ (∀ f ∈ c.facts, f.Valid) ∧ (∀ s ∈ c.sections, s.Valid) ∧ (∀ x ∈ c.controls, x.Valid) ∧
      (∀ q ∈ c.questions, q.Valid) ∧ c.Unique := by
  simp only [Valid, firstError, Option.or_eq_none_iff, List.findSome?_eq_none_iff, uniqueError_eq_none,
    FactContent.Valid, SectionContent.Valid, ControlContent.Valid, QuestionContent.Valid]

theorem Valid.unique {c : RevisionContent} (h : c.Valid) : c.Unique := (valid_iff.1 h).2.2.2.2

end RevisionContent

end AtoService.Workspace
