/-
Rows of the sufficiency matrix, before they are stored: their status ceilings and the exact coverage of assessment items.

- `requireExactMatrixCoverage_eq_ok`: coverage is exact when the identifiers are well formed, none is expected twice, and
  the rows are one for each expected item.
-/
import AtoService.Lib.Json
import AtoService.Lib.Results

namespace AtoService.Matrix

inductive MatrixStatus where
  | supported | partialSupport | unsupported | insufficientEvidence
deriving DecidableEq, Repr

inductive AssessmentItemType where
  | nistControl | fedrampRule | fedrampKsi
deriving DecidableEq, Repr

structure RowPayload where
  assessmentItemType : AssessmentItemType
  assessmentItemId : String
  modelProposedStatus : MatrixStatus
  systemStatus : MatrixStatus
  findingSummary : String
  gaps : List String
  assessorQuestions : List String
  citations : List Json
  contextComplete : Bool

/-! ## Status ceilings -/

/-- from the most favorable status, 4, to the least -/
def MatrixStatus.rank : MatrixStatus → Nat
  | .supported => 4
  | .partialSupport => 3
  | .insufficientEvidence => 2
  | .unsupported => 1

structure StatusPolicy where
  noEvidenceStatus : Option MatrixStatus
  incompleteContextCeiling : Option MatrixStatus
  allStaleCeiling : Option MatrixStatus
deriving DecidableEq, Repr

structure StatusCeilingViolated where
  assessmentItemId : String
  modelProposedStatus : MatrixStatus
  ceilingStatus : MatrixStatus
deriving DecidableEq, Repr

def minFavorableStatus (left right : MatrixStatus) : MatrixStatus := if left.rank ≤ right.rank then left else right

def computeStatusCeiling (contextComplete : Bool) (citations : List Json) (allEvidenceStale : Bool)
    (policy : StatusPolicy) : MatrixStatus :=
  if citations.isEmpty then policy.noEvidenceStatus.getD .insufficientEvidence
  else
    let ceiling := if contextComplete then .supported
      else minFavorableStatus .supported (policy.incompleteContextCeiling.getD .partialSupport)
    if allEvidenceStale then minFavorableStatus ceiling (policy.allStaleCeiling.getD .partialSupport) else ceiling

def evaluateSystemStatus (row : RowPayload) (allEvidenceStale : Bool) (policy : StatusPolicy) :
    Except StatusCeilingViolated MatrixStatus :=
  let ceiling := computeStatusCeiling row.contextComplete row.citations allEvidenceStale policy
  if ceiling.rank < row.modelProposedStatus.rank then
    .error ⟨row.assessmentItemId, row.modelProposedStatus, ceiling⟩
  else .ok row.modelProposedStatus

def applyStatusCeilingToRowPayload (policy : StatusPolicy) (row : RowPayload) : Except StatusCeilingViolated RowPayload := do
  let systemStatus ← evaluateSystemStatus row false policy
  return { row with systemStatus := systemStatus }

def applyCeilingsToMatrixRowPayloads (policy : StatusPolicy) (rows : List RowPayload) :
    Except StatusCeilingViolated (List RowPayload) := rows.mapM (applyStatusCeilingToRowPayload policy)

/-! ## Coverage -/

/-- the pattern `^[A-Za-z0-9][A-Za-z0-9()._-]{1,127}$`; nothing that it accepts is empty or has blanks to strip -/
def isAssessmentItemId (s : String) : Bool :=
  let word (c : Char) : Bool := ('a' ≤ c && c ≤ 'z') || ('A' ≤ c && c ≤ 'Z') || ('0' ≤ c && c ≤ '9')
  match Py.chars s with
  | [] => false
  | c :: cs => word c && cs.all (fun c => word c || c ∈ ['(', ')', '.', '_', '-']) && 1 ≤ cs.length && cs.length ≤ 127

structure MatrixCoverageError where
  missingIds : List String := []
  duplicateIds : List String := []
  extraIds : List String := []
deriving DecidableEq, Repr

def sortedDuplicateIds (ids : List String) : List String :=
  ((ids.dedup.filter fun i => 1 < ids.count i)).insertionSort (· ≤ ·)

def requireExactMatrixCoverage (expected actual : List String) : Except MatrixCoverageError Unit := do
  Results.ensure (∀ i ∈ expected, isAssessmentItemId i = true) {}
  Results.ensure (∀ i ∈ actual, isAssessmentItemId i = true) {}
  Results.ensure (sortedDuplicateIds expected = []) { duplicateIds := sortedDuplicateIds expected }
  let missing := (expected.dedup.filter fun i => i ∉ actual).insertionSort (· ≤ ·)
  let extra := (actual.dedup.filter fun i => i ∉ expected).insertionSort (· ≤ ·)
  Results.ensure (missing = [] ∧ sortedDuplicateIds actual = [] ∧ extra = []) ⟨missing, sortedDuplicateIds actual, extra⟩

theorem insertionSort_eq_nil {ids : List String} : ids.insertionSort (· ≤ ·) = [] ↔ ids = [] := by
  rw [← List.length_eq_zero_iff, List.length_insertionSort, List.length_eq_zero_iff]

theorem sortedDuplicateIds_eq_nil {ids : List String} : sortedDuplicateIds ids = [] ↔ ids.Nodup := by
  rw [sortedDuplicateIds, insertionSort_eq_nil, List.filter_eq_nil_iff, List.nodup_iff_count_le_one]
  constructor
  · intro h i
    by_cases hi : i ∈ ids
    · simpa using h i (List.mem_dedup.2 hi)
    · rw [List.count_eq_zero.2 hi]
      exact Nat.zero_le _
  · intro h i _
    simpa using h i

theorem requireExactMatrixCoverage_eq_ok {expected actual : List String} :
    requireExactMatrixCoverage expected actual = .ok () ↔
      (∀ i ∈ expected, isAssessmentItemId i = true) ∧ expected.Nodup ∧ actual.Perm expected := by
  simp only [requireExactMatrixCoverage, Results.bind_eq_ok, Results.ensure_eq_ok, insertionSort_eq_nil,
    sortedDuplicateIds_eq_nil, List.filter_eq_nil_iff, List.mem_dedup, decide_eq_true_eq, not_not]
  constructor
  · rintro ⟨_, hvalid, _, -, _, hexpected, hmissing, hactual, hextra⟩
    exact ⟨hvalid, hexpected, (List.perm_ext_iff_of_nodup hactual hexpected).2 fun i => ⟨hextra i, hmissing i⟩⟩
  · rintro ⟨hvalid, hexpected, hperm⟩
    exact ⟨(), hvalid, (), fun i hi => hvalid i (hperm.mem_iff.1 hi), (), hexpected, fun i hi => hperm.mem_iff.2 hi,
      hperm.nodup_iff.2 hexpected, fun i hi => hperm.mem_iff.1 hi⟩

end AtoService.Matrix
