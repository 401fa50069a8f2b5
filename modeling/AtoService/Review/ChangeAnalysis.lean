/-
Change analysis of a child revision: the delta to its parent, the flag and the targeted controls.

A document is what a JSONB column gives back, so no key is repeated in an object of it. `pyEq` is Python's `==` on such
values: numbers and booleans are compared by value, members without their order. `Differ` tells all values apart, and an
entry that is absent from one that is `null`.

- `mem_changedKeys`: a key is reported when the two maps give it values that `==` tells apart, absent ones read as `None`.
- `requires_targeted_reanalysis_iff`, `mem_targeted_assessment_item_ids`: what sets the flag, what is targeted.
- `misses_nothing_iff`: when the flag and the targets reach every difference.
Witness `removed_artifact_missed`: a child revision that only lacks an artifact of its parent.
-/
import AtoService.Lib.JsonRoundTrip
import AtoService.Jobs.Queue

namespace AtoService.ChangeAnalysis

open AtoService.Jobs (Uuid)
open Json (member asObj asArr asStr)

/-! ## Python's equality -/

def numberOf : Json → Option ℚ
  | .bool b => some (if b then 1 else 0)
  | .int n => some n
  | .float (.finite d) => some ((if d.neg then -1 else 1) * d.coeff * 10 ^ d.exp)
  | _ => none

mutual

/-- `v == w` -/
def pyEq : Json → Json → Bool
  | .null, .null => true
  | .str s, .str t => s == t
  | .arr xs, .arr ys => pyEqItems xs ys
  | .obj fs, .obj gs => fs.length == gs.length && pyEqFields fs gs
  | .float (.inf a), .float (.inf b) => a == b
  | v, w => match numberOf v, numberOf w with
    | some a, some b => a == b
    | _, _ => false

def pyEqItems : List Json → List Json → Bool
  | [], [] => true
  | x :: xs, y :: ys => pyEq x y && pyEqItems xs ys
  | _, _ => false

def pyEqFields : List (String × Json) → List (String × Json) → Bool
  | [], _ => true
  | (k, v) :: fs, gs => (match member k gs with
    | some w => pyEq v w
    | none => false) && pyEqFields fs gs

end

example : pyEq (.obj [("a", .int 1), ("b", .null)]) (.obj [("b", .null), ("a", .bool true)]) = true := by decide

/-! ## The delta -/

structure Document where
  fields : List (String × Json)
  wellFormed : (Json.obj fields).WellFormed

/-- the object under `name`, and no member where it is none -/
def objectSection (name : String) : Option Document → List (String × Json)
  | none => []
  | some document => ((member name document.fields).bind asObj).getD []

structure SourceArtifact where
  /-- `str(artifact_id).lower()`; the text of a UUID is in lower case -/
  artifactId : String
  sha256 : String
deriving DecidableEq, Repr

structure RevisionDeltaReport where
  parentRevisionId : Uuid
  childRevisionId : Uuid
  changedArtifactIds : List String
  addedArtifactIds : List String
  removedArtifactIds : List String
  changedControlIds : List String
  changedEvidenceKeys : List String
  contentDigestChanged : Bool
  generatedAt : Int

/-- `sorted` of a set -/
def sortedSet (ids : List String) : List String := ids.dedup.insertionSort (· ≤ ·)

def isDict (v : Json) : Bool := v.asObj.isSome

/-- `_control_map` -/
def controlMap (document : Option Document) : List (String × Json) :=
  (KeyedList.sorted Prod.fst (objectSection "security_controls" document)).filter fun p => isDict p.2

/-- `_evidence_map` -/
def evidenceMap (document : Option Document) : List (String × Json) :=
  KeyedList.sorted Prod.fst (objectSection "evidence" document)

/-- `mapping.get(key)` -/
def getOrNone (mapping : List (String × Json)) (key : String) : Json := (member key mapping).getD .null

def changedKeys (parent child : List (String × Json)) : List String :=
  sortedSet ((sortedSet (parent.map Prod.fst ++ child.map Prod.fst)).filter fun key =>
    !pyEq (getOrNone parent key) (getOrNone child key))

/-- the digest of the last row under an id -/
def digest? (artifacts : List SourceArtifact) (id : String) : Option String :=
  (KeyedList.get? SourceArtifact.artifactId id (KeyedList.ofList SourceArtifact.artifactId artifacts)).map
    SourceArtifact.sha256

def ids (artifacts : List SourceArtifact) : List String := artifacts.map SourceArtifact.artifactId

structure Revision where
  revisionId : Uuid
  artifacts : List SourceArtifact
  document : Option Document
  contentSha256 : Option String

def computeRevisionDelta (parent child : Revision) (now : Int) : RevisionDeltaReport where
  parentRevisionId := parent.revisionId
  childRevisionId := child.revisionId
  addedArtifactIds := sortedSet ((ids child.artifacts).filter fun id => id ∉ ids parent.artifacts)
  removedArtifactIds := sortedSet ((ids parent.artifacts).filter fun id => id ∉ ids child.artifacts)
  changedArtifactIds := (sortedSet ((ids parent.artifacts).filter fun id => id ∈ ids child.artifacts)).filter fun id =>
    digest? parent.artifacts id ≠ digest? child.artifacts id
  changedControlIds := changedKeys (controlMap parent.document) (controlMap child.document)
  changedEvidenceKeys := changedKeys (evidenceMap parent.document) (evidenceMap child.document)
  contentDigestChanged := decide (parent.contentSha256 ≠ child.contentSha256)
  generatedAt := now

def targetedAssessmentItemIdsFromDelta (delta : RevisionDeltaReport) (childDocument : Option Document) : List String :=
  sortedSet (delta.changedControlIds.filter fun id =>
    id ∈ (objectSection "security_controls" childDocument).map Prod.fst)

structure Report where
  delta : RevisionDeltaReport
  targetedAssessmentItemIds : List String
  requiresTargetedReanalysis : Bool

def buildChangeAnalysis (parent child : Revision) (now : Int) : Report :=
  let delta := computeRevisionDelta parent child now
  { delta
    targetedAssessmentItemIds := targetedAssessmentItemIdsFromDelta delta child.document
    requiresTargetedReanalysis := !delta.changedArtifactIds.isEmpty || !delta.addedArtifactIds.isEmpty ||
      !delta.changedControlIds.isEmpty || !delta.changedEvidenceKeys.isEmpty }

/-! ## What is reported -/

theorem mem_sortedSet {id : String} {xs : List String} : id ∈ sortedSet xs ↔ id ∈ xs := by
  rw [sortedSet, List.mem_insertionSort, List.mem_dedup]

theorem getOrNone_of_notMem {key : String} {mapping : List (String × Json)} (h : key ∉ mapping.map Prod.fst) :
    getOrNone mapping key = .null := by
  have hnone : KeyedList.get? Prod.fst key mapping = none := by
    rw [← Option.not_isSome_iff_eq_none, KeyedList.get?_isSome]
    exact h
  rw [getOrNone, member, hnone]
  rfl

theorem mem_changedKeys {key : String} {parent child : List (String × Json)} :
    key ∈ changedKeys parent child ↔ pyEq (getOrNone parent key) (getOrNone child key) = false := by
  rw [changedKeys, mem_sortedSet, List.mem_filter, mem_sortedSet, List.mem_append, Bool.not_eq_true']
  refine ⟨And.right, fun h => ⟨?_, h⟩⟩
  by_contra hnone
  rw [not_or] at hnone
  rw [getOrNone_of_notMem hnone.1, getOrNone_of_notMem hnone.2] at h
  exact absurd h (by decide)

theorem objectSection_distinct (name : String) (document : Option Document) :
    KeyedList.Distinct Prod.fst (objectSection name document) := by
  cases document with
  | none => exact List.nodup_nil
  | some document =>
    rw [objectSection]
    cases hmember : (member name document.fields).bind asObj with
    | none => exact List.nodup_nil
    | some fields =>
      obtain ⟨v, hv, hobj⟩ := Option.bind_eq_some_iff.1 hmember
      obtain ⟨p, hp, rfl⟩ := Option.map_eq_some_iff.1 hv
      have hvalue := (Json.wellFormedFields_iff document.fields).1 document.wellFormed.2 p (KeyedList.mem_of_get? hp)
      cases hjson : p.2 with
      | obj fs =>
        rw [hjson] at hobj hvalue
        cases hobj
        exact hvalue.1
      | _ => rw [hjson] at hobj; cases hobj

/-! ## What there is to report -/

def control? (revision : Revision) (id : String) : Option Json :=
  member id (objectSection "security_controls" revision.document)

def evidence? (revision : Revision) (key : String) : Option Json := member key (objectSection "evidence" revision.document)

/-- the evidence entries that a control names -/
def evidenceLinks (control : Json) : List String :=
  (((control.asObj.bind (member "evidence_links")).bind asArr).getD []).filterMap asStr

/-- two entries are not one value, or one of them is absent -/
def Differ (v w : Option Json) : Prop := v.map Json.canon ≠ w.map Json.canon

def ArtifactsDiffer (parent child : Revision) : Prop := ∃ a, ¬(a ∈ parent.artifacts ↔ a ∈ child.artifacts)

/-- the flag and the targets reach every difference of two revisions -/
structure MissesNothing (parent child : Revision) (report : Report) : Prop where
  flag : (ArtifactsDiffer parent child ∨ (∃ id, Differ (control? parent id) (control? child id)) ∨
    ∃ key, Differ (evidence? parent key) (evidence? child key)) → report.requiresTargetedReanalysis = true
  targets : ∀ id control, control? child id = some control →
    (Differ (control? parent id) (some control) ∨
      ∃ key ∈ evidenceLinks control, Differ (evidence? parent key) (evidence? child key)) →
    id ∈ report.targetedAssessmentItemIds

/-- `==` tells the dicts apart; what is not a dict counts as absent -/
def ControlSeen (v w : Option Json) : Prop := pyEq ((v.filter isDict).getD .null) ((w.filter isDict).getD .null) = false

/-- `==` tells the values apart; what is absent counts as `null` -/
def EvidenceSeen (v w : Option Json) : Prop := pyEq (v.getD .null) (w.getD .null) = false

/-- an id of the child that the parent lacks, or gives another digest -/
def ArtifactSeen (parent child : Revision) : Prop :=
  ∃ id ∈ ids child.artifacts, digest? parent.artifacts id ≠ digest? child.artifacts id

def AnySeen (parent child : Revision) : Prop :=
  ArtifactSeen parent child ∨ (∃ id, ControlSeen (control? parent id) (control? child id)) ∨
    ∃ key, EvidenceSeen (evidence? parent key) (evidence? child key)

/-- no difference is of a kind that is not compared -/
structure NoneHidden (parent child : Revision) : Prop where
  /-- an artifact that was removed -/
  removed : ∀ a ∈ parent.artifacts, a.artifactId ∈ ids child.artifacts
  /-- a row before another row with its id -/
  shadowed : ∀ a : SourceArtifact, digest? parent.artifacts a.artifactId = digest? child.artifacts a.artifactId →
    (a ∈ parent.artifacts ↔ a ∈ child.artifacts)
  /-- controls that are not dicts, or that differ in `1` and `True` -/
  controls : ∀ id, ¬ControlSeen (control? parent id) (control? child id) → ¬Differ (control? parent id) (control? child id)
  /-- evidence that is `null` in one revision and absent in the other, or that differs in `1` and `True` -/
  evidence : ∀ key, ¬EvidenceSeen (evidence? parent key) (evidence? child key) →
    ¬Differ (evidence? parent key) (evidence? child key)

/-- the controls of the child to target are all compared, and differ in what is compared -/
def TargetsSeen (parent child : Revision) : Prop :=
  ∀ id control, control? child id = some control →
    (Differ (control? parent id) (some control) ∨
      ∃ key ∈ evidenceLinks control, Differ (evidence? parent key) (evidence? child key)) →
    ControlSeen (control? parent id) (some control)

/-- a comprehension that keeps some of the values -/
theorem member_filter {q : Json → Bool} {id : String} {fs : List (String × Json)} (hd : KeyedList.Distinct Prod.fst fs) :
    member id (fs.filter fun p => q p.2) = (member id fs).filter q := by
  induction fs with
  | nil => rfl
  | cons p fs ih =>
    have hfresh : p.1 ∉ fs.map Prod.fst := (List.nodup_cons.1 hd).1
    have ih := ih (List.nodup_cons.1 hd).2
    rw [member, member, KeyedList.get?_cons, List.filter_cons]
    by_cases hid : p.1 = id
    · have hnone : member id fs = none := by
        rw [member, Option.map_eq_none_iff, KeyedList.get?_eq_none]
        exact fun x hx hkey => hfresh (hid ▸ hkey ▸ List.mem_map_of_mem hx)
      rw [hnone] at ih
      by_cases hq : q p.2 = true
      · simp [hid, hq, KeyedList.get?_cons, Option.filter]
      · simpa [hid, hq, member, Option.filter] using ih
    · by_cases hq : q p.2 = true
      · simpa [hid, hq, member, KeyedList.get?_cons] using ih
      · simpa [hid, hq, member] using ih

theorem getOrNone_controlMap (revision : Revision) (id : String) :
    getOrNone (controlMap revision.document) id = ((control? revision id).filter isDict).getD .null := by
  have hd := objectSection_distinct "security_controls" revision.document
  rw [getOrNone, controlMap, member_filter (KeyedList.distinct_sorted hd), member, KeyedList.get?_sorted hd]
  rfl

theorem getOrNone_evidenceMap (revision : Revision) (key : String) :
    getOrNone (evidenceMap revision.document) key = (evidence? revision key).getD .null := by
  rw [getOrNone, evidenceMap, member, KeyedList.get?_sorted (objectSection_distinct "evidence" revision.document)]
  rfl

theorem mem_changedControlIds {parent child : Revision} {now : Int} {id : String} :
    id ∈ (computeRevisionDelta parent child now).changedControlIds ↔ ControlSeen (control? parent id) (control? child id) := by
  rw [computeRevisionDelta, mem_changedKeys, getOrNone_controlMap, getOrNone_controlMap, ControlSeen]

theorem mem_changedEvidenceKeys {parent child : Revision} {now : Int} {key : String} :
    key ∈ (computeRevisionDelta parent child now).changedEvidenceKeys ↔
      EvidenceSeen (evidence? parent key) (evidence? child key) := by
  rw [computeRevisionDelta, mem_changedKeys, getOrNone_evidenceMap, getOrNone_evidenceMap, EvidenceSeen]

theorem digest?_isSome {artifacts : List SourceArtifact} {id : String} :
    (digest? artifacts id).isSome ↔ id ∈ ids artifacts := by
  rw [digest?, Option.isSome_map, KeyedList.get?_isSome, KeyedList.mem_keys_ofList]
  rfl

/-- an id is added or changed exactly if the child has it and the digests differ -/
theorem artifactSeen_iff {parent child : Revision} {now : Int} :
    ArtifactSeen parent child ↔ (computeRevisionDelta parent child now).addedArtifactIds.isEmpty = false ∨
      (computeRevisionDelta parent child now).changedArtifactIds.isEmpty = false := by
  simp only [computeRevisionDelta, List.isEmpty_eq_false_iff_exists_mem, List.mem_filter, mem_sortedSet, decide_eq_true_eq]
  constructor
  · rintro ⟨id, hchild, hdigest⟩
    by_cases hparent : id ∈ ids parent.artifacts
    · exact .inr ⟨id, ⟨hparent, hchild⟩, hdigest⟩
    · exact .inl ⟨id, hchild, hparent⟩
  · rintro (⟨id, hchild, hparent⟩ | ⟨id, ⟨-, hchild⟩, hdigest⟩)
    · refine ⟨id, hchild, fun heq => hparent ?_⟩
      rw [← digest?_isSome, heq, digest?_isSome]
      exact hchild
    · exact ⟨id, hchild, hdigest⟩

/-- the flag is set exactly if something that is compared differs -/
theorem requires_targeted_reanalysis_iff (parent child : Revision) (now : Int) :
    (buildChangeAnalysis parent child now).requiresTargetedReanalysis = true ↔ AnySeen parent child := by
  have hflag : (buildChangeAnalysis parent child now).requiresTargetedReanalysis = true ↔
      (computeRevisionDelta parent child now).changedArtifactIds.isEmpty = false ∨
      (computeRevisionDelta parent child now).addedArtifactIds.isEmpty = false ∨
      (computeRevisionDelta parent child now).changedControlIds.isEmpty = false ∨
      (computeRevisionDelta parent child now).changedEvidenceKeys.isEmpty = false := by
    simp [buildChangeAnalysis, or_assoc]
  have hcontrols : (computeRevisionDelta parent child now).changedControlIds.isEmpty = false ↔
      ∃ id, ControlSeen (control? parent id) (control? child id) := by
    simp only [List.isEmpty_eq_false_iff_exists_mem, mem_changedControlIds]
  have hevidence : (computeRevisionDelta parent child now).changedEvidenceKeys.isEmpty = false ↔
      ∃ key, EvidenceSeen (evidence? parent key) (evidence? child key) := by
    simp only [List.isEmpty_eq_false_iff_exists_mem, mem_changedEvidenceKeys]
  rw [hflag, hcontrols, hevidence, or_left_comm, ← or_assoc, ← artifactSeen_iff, AnySeen]

/-- what is targeted: the controls of the child that are compared and differ -/
theorem mem_targeted_assessment_item_ids (parent child : Revision) (now : Int) (id : String) :
    id ∈ (buildChangeAnalysis parent child now).targetedAssessmentItemIds ↔
      ControlSeen (control? parent id) (control? child id) ∧ (control? child id).isSome := by
  have hkeys : id ∈ (objectSection "security_controls" child.document).map Prod.fst ↔ (control? child id).isSome := by
    rw [control?, member, Option.isSome_map, KeyedList.get?_isSome]
  rw [buildChangeAnalysis, targetedAssessmentItemIdsFromDelta, mem_sortedSet, List.mem_filter, decide_eq_true_eq, hkeys,
    mem_changedControlIds]

/-! ## Nothing is missed -/

/-- where no artifact that is compared differs, the artifacts differ by a removal or by a shadowed row -/
theorem artifactsDiffer_iff {parent child : Revision} (hseen : ¬ArtifactSeen parent child) :
    ArtifactsDiffer parent child ↔ ¬((∀ a ∈ parent.artifacts, a.artifactId ∈ ids child.artifacts) ∧
      ∀ a : SourceArtifact, digest? parent.artifacts a.artifactId = digest? child.artifacts a.artifactId →
        (a ∈ parent.artifacts ↔ a ∈ child.artifacts)) := by
  constructor
  · rintro ⟨a, ha⟩ ⟨hremoved, hshadowed⟩
    by_cases hdigest : digest? parent.artifacts a.artifactId = digest? child.artifacts a.artifactId
    · exact ha (hshadowed a hdigest)
    · have hchild : a.artifactId ∈ ids child.artifacts := by
        by_cases hparent : a ∈ parent.artifacts
        · exact hremoved a hparent
        · have hmem : a ∈ child.artifacts := by
            by_contra hmem
            exact ha (iff_of_false hparent hmem)
          exact List.mem_map_of_mem hmem
      exact hseen ⟨a.artifactId, hchild, hdigest⟩
  · intro h
    by_contra hsame
    have hmem : ∀ a, a ∈ parent.artifacts ↔ a ∈ child.artifacts := by
      intro a
      by_contra ha
      exact hsame ⟨a, ha⟩
    exact h ⟨fun a ha => List.mem_map_of_mem ((hmem a).1 ha), fun a _ => hmem a⟩

/-- the flag covers every difference exactly if one of them is compared or none is hidden -/
theorem flag_iff (parent child : Revision) :
    ((ArtifactsDiffer parent child ∨ (∃ id, Differ (control? parent id) (control? child id)) ∨
      ∃ key, Differ (evidence? parent key) (evidence? child key)) → AnySeen parent child) ↔
      AnySeen parent child ∨ NoneHidden parent child := by
  by_cases hseen : AnySeen parent child
  · exact iff_of_true (fun _ => hseen) (.inl hseen)
  · have hartifacts := artifactsDiffer_iff (fun h => hseen (.inl h))
    constructor
    · intro h
      have hnone := mt h hseen
      rw [not_or, not_or, hartifacts, not_not] at hnone
      obtain ⟨⟨hremoved, hshadowed⟩, hcontrols, hevidence⟩ := hnone
      exact .inr ⟨hremoved, hshadowed, fun id _ hdiffer => hcontrols ⟨id, hdiffer⟩,
        fun key _ hdiffer => hevidence ⟨key, hdiffer⟩⟩
    · rintro (h | h)
      · exact fun _ => h
      · rintro (hdiffer | ⟨id, hdiffer⟩ | ⟨key, hdiffer⟩)
        · exact absurd ⟨h.removed, h.shadowed⟩ (hartifacts.1 hdiffer)
        · exact absurd hdiffer (h.controls id fun hid => hseen (.inr (.inl ⟨id, hid⟩)))
        · exact absurd hdiffer (h.evidence key fun hkey => hseen (.inr (.inr ⟨key, hkey⟩)))

/-- nothing is missed exactly if what differs is compared -/
theorem misses_nothing_iff (parent child : Revision) (now : Int) :
    MissesNothing parent child (buildChangeAnalysis parent child now) ↔
      (AnySeen parent child ∨ NoneHidden parent child) ∧ TargetsSeen parent child := by
  have htarget : ∀ {id control}, control? child id = some control →
      (id ∈ (buildChangeAnalysis parent child now).targetedAssessmentItemIds ↔
        ControlSeen (control? parent id) (some control)) := by
    intro id control hcontrol
    rw [mem_targeted_assessment_item_ids, hcontrol]
    exact and_iff_left rfl
  constructor
  · rintro ⟨hflag, htargets⟩
    refine ⟨(flag_iff parent child).1 fun h => (requires_targeted_reanalysis_iff parent child now).1 (hflag h), ?_⟩
    exact fun id control hcontrol h => (htarget hcontrol).1 (htargets id control hcontrol h)
  · rintro ⟨hflag, htargets⟩
    refine ⟨fun h => (requires_targeted_reanalysis_iff parent child now).2 ((flag_iff parent child).2 hflag h), ?_⟩
    exact fun id control hcontrol h => (htarget hcontrol).2 (htargets id control hcontrol h)

def withArtifacts (artifacts : List SourceArtifact) : Revision := ⟨0, artifacts, none, none⟩

/-- an artifact was removed, and nothing else differs -/
theorem removed_artifact_missed : ¬MissesNothing (withArtifacts [⟨"1", "a"⟩]) (withArtifacts [])
    (buildChangeAnalysis (withArtifacts [⟨"1", "a"⟩]) (withArtifacts []) 0) := by
  intro h
  have hflag := h.flag (.inl ⟨⟨"1", "a"⟩, by decide⟩)
  exact absurd hflag (by decide)

end AtoService.ChangeAnalysis
