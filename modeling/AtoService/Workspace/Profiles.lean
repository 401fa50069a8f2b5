/-
SSP profiles: bundles, the profile resolved at an impact level, and the difference of two resolved profiles.

A `ProfileBundle` is what `load_profile_bundle` returns and what a profile row stores. `WellFormed` states what the
loader has checked of it; reading files and schemas is not modelled. `resolveProfile_spec` says that a resolved profile
has the controls of its level's baseline in its order.

Left out: the manifest's digest, sources' titles and files, and a control's catalog pointer, which nothing here reads.
-/
import AtoService.Workspace.Contracts

namespace AtoService.Workspace

open AtoService.Py

/-! ## Bundles -/

structure ProfileSource where
  sourceId : String
  version : String
deriving DecidableEq, Repr

structure ProfileManifest where
  profileId : String
  profileVersion : String
  sources : List ProfileSource
deriving DecidableEq, Repr

structure ProfileControl where
  controlId : String
  title : String
  requirementText : String
deriving DecidableEq, Repr

/-- profile-defined control response enums and agent evidence rules -/
structure ControlResponsePolicy where
  implementationStatuses : List String
  responsibilities : List String
  questionOwnerTypes : List String
  evidenceRequiredForAgentStatement : Bool
deriving DecidableEq, Repr

structure ImplementationStatementDeterministicPolicy where
  rejectOscalParameterInsertSyntax : Bool
  requireQuestionForUnresolvedParameterizedControls : Bool
  requireEvidenceForAgentNonUnknownClaims : Bool
  requireStatementGapOrQuestionBeforeApproval : Bool
  semanticQualityFindingsAreAdvisory : Bool
deriving DecidableEq, Repr

structure ImplementationStatementAgentInstructions where
  statementContent : List String
  organizationDefinedParameters : List String
  inheritedAndHybridResponsibility : List String
  semanticReview : List String
deriving DecidableEq, Repr

structure ImplementationStatementAuthorityRef where
  sourceId : String
  requirementIds : List String
deriving DecidableEq, Repr

structure ImplementationStatementPolicy where
  policyVersion : String
  deterministic : ImplementationStatementDeterministicPolicy
  agentInstructions : ImplementationStatementAgentInstructions
  authorityRefs : List ImplementationStatementAuthorityRef
deriving DecidableEq, Repr

inductive CoverageKind where
  | sspItem | controls
deriving DecidableEq, Repr

structure StandardCoverage where
  sourceId : String
  requirementId : String
  title : String
  coverageKind : CoverageKind
  itemIds : List String
  required : Bool
deriving DecidableEq, Repr

inductive ValueType where
  | string | stringList
deriving DecidableEq, Repr

inductive StructuredKind where
  | authorizationBoundary | componentInventory | interconnectionRegister | informationTypeRegister
deriving DecidableEq, Repr

/-- one SSP outline item -/
structure SspRequiredItem where
  itemId : String
  title : String
  valueType : ValueType
  minLength : Option Nat
  allowedValues : List String
  evidenceRequiredForAgent : Bool
  required : Bool := true
  standardRefs : List String := []
  structuredKind : Option StructuredKind := none
deriving DecidableEq, Repr

structure ProfileBundle where
  manifest : ProfileManifest
  catalogControls : List ProfileControl
  lowControlIds : List String
  moderateControlIds : List String
  highControlIds : List String
  sspRequiredItems : List SspRequiredItem
  controlResponse : ControlResponsePolicy
  standardCoverage : List StandardCoverage
  implementationStatementPolicy : ImplementationStatementPolicy
deriving DecidableEq, Repr

/-- the members of `FIPS_IMPACT_LEVELS` -/
def isImpactLevel (s : String) : Bool := s == "low" || s == "moderate" || s == "high"

namespace ProfileBundle

def controlIdsFor (b : ProfileBundle) (impactLevel : String) : Except Err (List String) :=
  if impactLevel = "low" then .ok b.lowControlIds
  else if impactLevel = "moderate" then .ok b.moderateControlIds
  else if impactLevel = "high" then .ok b.highControlIds
  else raise .profileBundle
    ("unsupported impact level '" ++ impactLevel ++ "'; expected low, moderate, or high")

/-- what `load_profile_bundle` has checked of a bundle -/
structure WellFormed (b : ProfileBundle) : Prop where
  catalog : KeyedList.Distinct ProfileControl.controlId b.catalogControls
  baselines : ∀ ids ∈ [b.lowControlIds, b.moderateControlIds, b.highControlIds],
    ids.Nodup ∧ ∀ id ∈ ids, id ∈ b.catalogControls.map ProfileControl.controlId
  controlTitles : ∀ c ∈ b.catalogControls, c.title ≠ "" ∧ strip c.title = c.title
  items : KeyedList.Distinct SspRequiredItem.itemId b.sspRequiredItems
  itemIds : ∀ i ∈ b.sspRequiredItems, 1 ≤ i.itemId.length ∧ i.itemId.length ≤ 128
  itemTitles : ∀ i ∈ b.sspRequiredItems, 1 ≤ i.title.length ∧ i.title.length ≤ 255

end ProfileBundle

/-! ## Resolution -/

structure ResolvedProfile where
  profileId : String
  profileVersion : String
  impactLevel : String
  sources : List ProfileSource
  controls : List ProfileControl
  sspRequiredItems : List SspRequiredItem
  controlResponse : ControlResponsePolicy
  standardCoverage : List StandardCoverage
  implementationStatementPolicy : ImplementationStatementPolicy
deriving DecidableEq, Repr

def lookupControl (catalog : List ProfileControl) (id : String) : Except Err ProfileControl :=
  match KeyedList.get? ProfileControl.controlId id (KeyedList.ofList ProfileControl.controlId catalog) with
  | some c => .ok c
  | none => raise .keyError id

/-- resolve one immutable Low, Moderate, or High profile -/
def resolveProfile (b : ProfileBundle) (impactLevel : String) : Except Err ResolvedProfile := do
  let selectedIds ← b.controlIdsFor impactLevel
  let controls ← selectedIds.mapM (lookupControl b.catalogControls)
  return {
    profileId := b.manifest.profileId
    profileVersion := b.manifest.profileVersion
    impactLevel := impactLevel
    sources := b.manifest.sources
    controls := controls
    sspRequiredItems := b.sspRequiredItems
    controlResponse := b.controlResponse
    standardCoverage := b.standardCoverage
    implementationStatementPolicy := b.implementationStatementPolicy }

/-- a stored profile version; its bundle holds strings, integers and flags only, which JSONB keeps as they are -/
structure ProfileRow where
  profileVersionId : Uuid
  profileKey : String
  version : String
  status : ProfileState
  bundle : ProfileBundle
deriving DecidableEq, Repr

def resolveStoredProfile (row : ProfileRow) (impactLevel : String) : Except Err ResolvedProfile :=
  if isImpactLevel impactLevel then resolveProfile row.bundle impactLevel
  else raise .profileBundle "impact_level must be low, moderate, or high"

namespace ResolvedProfile

def controlIds (p : ResolvedProfile) : List String := p.controls.map ProfileControl.controlId

def itemIds (p : ResolvedProfile) : List String := p.sspRequiredItems.map SspRequiredItem.itemId

end ResolvedProfile

theorem lookupControl_mem {catalog : List ProfileControl} {id : String} {c : ProfileControl}
    (h : lookupControl catalog id = .ok c) : c ∈ catalog ∧ c.controlId = id := by
  unfold lookupControl at h
  cases hg : KeyedList.get? ProfileControl.controlId id (KeyedList.ofList ProfileControl.controlId catalog) with
  | none => simp [hg] at h
  | some d =>
    obtain rfl : d = c := by simpa [hg] using h
    exact ⟨KeyedList.mem_ofList (KeyedList.mem_of_get? hg), KeyedList.key_of_get? hg⟩

theorem mapM_lookupControl {catalog : List ProfileControl} {ids : List String} {cs : List ProfileControl}
    (h : ids.mapM (lookupControl catalog) = .ok cs) :
    cs.map ProfileControl.controlId = ids ∧ ∀ c ∈ cs, c ∈ catalog := by
  induction ids generalizing cs with
  | nil =>
    obtain rfl : [] = cs := by simpa using h
    exact ⟨rfl, by simp⟩
  | cons id ids ih =>
    simp only [List.mapM_cons, bind_eq_ok, pure_eq_ok] at h
    obtain ⟨c, hc, ds, hds, rfl⟩ := h
    obtain ⟨hm, hid⟩ := lookupControl_mem hc
    obtain ⟨hmap, hall⟩ := ih hds
    exact ⟨by rw [List.map_cons, hid, hmap], List.forall_mem_cons.2 ⟨hm, hall⟩⟩

theorem controlIdsFor_mem {b : ProfileBundle} {level : String} {ids : List String}
    (h : b.controlIdsFor level = .ok ids) : ids ∈ [b.lowControlIds, b.moderateControlIds, b.highControlIds] := by
  unfold ProfileBundle.controlIdsFor at h
  split_ifs at h <;> simp_all

theorem isImpactLevel_iff {s : String} : isImpactLevel s = true ↔ s = "low" ∨ s = "moderate" ∨ s = "high" := by
  simp [isImpactLevel, or_assoc]

/-- what a resolved profile takes from its bundle -/
structure ResolvedFrom (b : ProfileBundle) (level : String) (p : ResolvedProfile) : Prop where
  profileId : p.profileId = b.manifest.profileId
  profileVersion : p.profileVersion = b.manifest.profileVersion
  impactLevel : p.impactLevel = level
  items : p.sspRequiredItems = b.sspRequiredItems
  controlResponse : p.controlResponse = b.controlResponse
  policy : p.implementationStatementPolicy = b.implementationStatementPolicy
  controlIds : b.controlIdsFor level = .ok p.controlIds
  controls : ∀ c ∈ p.controls, c ∈ b.catalogControls

theorem resolveProfile_spec {b : ProfileBundle} {level : String} {p : ResolvedProfile}
    (h : resolveProfile b level = .ok p) : ResolvedFrom b level p := by
  unfold resolveProfile at h
  simp only [bind_eq_ok, pure_eq_ok] at h
  obtain ⟨ids, hids, cs, hcs, rfl⟩ := h
  obtain ⟨hmap, hall⟩ := mapM_lookupControl hcs
  exact ⟨rfl, rfl, rfl, rfl, rfl, rfl, by rw [hids, ResolvedProfile.controlIds, hmap], hall⟩

theorem resolveStoredProfile_spec {row : ProfileRow} {level : String} {p : ResolvedProfile}
    (h : resolveStoredProfile row level = .ok p) :
    isImpactLevel level = true ∧ ResolvedFrom row.bundle level p := by
  unfold resolveStoredProfile at h
  split_ifs at h with hl
  · exact ⟨hl, resolveProfile_spec h⟩
  · simp at h

/-! ## The difference of two resolved profiles -/

structure SourceVersionChange where
  sourceId : String
  oldVersion : Option String
  newVersion : Option String
deriving DecidableEq, Repr

structure ProfileDiff where
  oldProfileVersion : String
  newProfileVersion : String
  impactLevel : String
  addedControlIds : List String
  removedControlIds : List String
  changedControlIds : List String
  addedSspItemIds : List String
  removedSspItemIds : List String
  changedSspItemIds : List String
  sourceVersionChanges : List SourceVersionChange
  implementationStatementPolicyChanged : Bool := false
  oldImplementationStatementPolicyVersion : Option String := none
  newImplementationStatementPolicyVersion : Option String := none
deriving DecidableEq, Repr

/-- `sorted(set(xs))` -/
def sortedSet (xs : List String) : List String := KeyedList.sorted id xs.dedup

theorem mem_sortedSet {x : String} {xs : List String} : x ∈ sortedSet xs ↔ x ∈ xs := by
  rw [sortedSet, KeyedList.mem_sorted, List.mem_dedup]

/-- `sorted(set(xs) - set(ys))` -/
def sortedDifference (xs ys : List String) : List String := sortedSet (xs.filter fun x => !ys.contains x)

theorem mem_sortedDifference {x : String} {xs ys : List String} : x ∈ sortedDifference xs ys ↔ x ∈ xs ∧ x ∉ ys := by
  simp [sortedDifference, mem_sortedSet]

def controlSemantics (c : ProfileControl) : String × String := (c.title, c.requirementText)

def statementPolicySemantics (p : ImplementationStatementPolicy) :
    String × ImplementationStatementDeterministicPolicy × ImplementationStatementAgentInstructions ×
      List (String × List String) :=
  (p.policyVersion, p.deterministic, p.agentInstructions, p.authorityRefs.map fun r => (r.sourceId, r.requirementIds))

/-- the keys of both lists whose entries differ in `f` -/
def changedKeys {α β : Type} [DecidableEq β] (key : α → String) (f : α → β) (old new : List α) : List String :=
  sortedSet ((old.map key).filter fun k =>
    match KeyedList.get? key k (KeyedList.ofList key old), KeyedList.get? key k (KeyedList.ofList key new) with
    | some x, some y => f x ≠ f y
    | _, _ => false)

theorem mem_changedKeys {α β : Type} [DecidableEq β] {key : α → String} {f : α → β} {old new : List α}
    (hold : KeyedList.Distinct key old) (hnew : KeyedList.Distinct key new) {k : String} :
    k ∈ changedKeys key f old new ↔ ∃ x y, KeyedList.get? key k old = some x ∧ KeyedList.get? key k new = some y ∧
      f x ≠ f y := by
  rw [changedKeys, mem_sortedSet, List.mem_filter, ← KeyedList.get?_isSome, KeyedList.ofList_eq hold,
    KeyedList.ofList_eq hnew]
  cases KeyedList.get? key k old <;> cases KeyedList.get? key k new <;> simp

def sourceVersions (p : ResolvedProfile) : List ProfileSource := KeyedList.ofList ProfileSource.sourceId p.sources

def sourceVersion (p : ResolvedProfile) (sourceId : String) : Option String :=
  (KeyedList.get? ProfileSource.sourceId sourceId (sourceVersions p)).map ProfileSource.version

/-- a deterministic semantic diff between two resolved versions -/
def diffProfiles (old new : ResolvedProfile) : Except Err ProfileDiff :=
  if old.profileId ≠ new.profileId then raise .profileBundle "profile diff requires matching profile_id values"
  else if old.impactLevel ≠ new.impactLevel then
    raise .profileBundle "profile diff requires matching impact levels"
  else
    let policyChanged := decide (statementPolicySemantics old.implementationStatementPolicy ≠
      statementPolicySemantics new.implementationStatementPolicy)
    let sourceIds := sortedSet (old.sources.map ProfileSource.sourceId ++ new.sources.map ProfileSource.sourceId)
    .ok {
      oldProfileVersion := old.profileVersion
      newProfileVersion := new.profileVersion
      impactLevel := old.impactLevel
      addedControlIds := sortedDifference new.controlIds old.controlIds
      removedControlIds := sortedDifference old.controlIds new.controlIds
      changedControlIds := changedKeys ProfileControl.controlId controlSemantics old.controls new.controls
      addedSspItemIds := sortedDifference new.itemIds old.itemIds
      removedSspItemIds := sortedDifference old.itemIds new.itemIds
      changedSspItemIds := changedKeys SspRequiredItem.itemId id old.sspRequiredItems new.sspRequiredItems
      sourceVersionChanges := (sourceIds.filter fun s => sourceVersion old s ≠ sourceVersion new s).map fun s =>
        ⟨s, sourceVersion old s, sourceVersion new s⟩
      implementationStatementPolicyChanged := policyChanged
      oldImplementationStatementPolicyVersion :=
        if policyChanged then some old.implementationStatementPolicy.policyVersion else none
      newImplementationStatementPolicyVersion :=
        if policyChanged then some new.implementationStatementPolicy.policyVersion else none }

/-- the diff of one profile version at two impact levels -/
def impactProfileDiff (old new : ResolvedProfile) : ProfileDiff where
  oldProfileVersion := old.profileVersion
  newProfileVersion := new.profileVersion
  impactLevel := new.impactLevel
  addedControlIds := sortedDifference new.controlIds old.controlIds
  removedControlIds := sortedDifference old.controlIds new.controlIds
  changedControlIds := []
  addedSspItemIds := []
  removedSspItemIds := []
  changedSspItemIds := []
  sourceVersionChanges := []

namespace ProfileDiff

/-- the SSP items that a migration treats as touched -/
def affectedItemIds (d : ProfileDiff) : List String :=
  d.addedSspItemIds ++ d.removedSspItemIds ++ d.changedSspItemIds

end ProfileDiff

end AtoService.Workspace
