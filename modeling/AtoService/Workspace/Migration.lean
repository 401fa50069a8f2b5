/-
Profile migration: the content of a workspace carried to another profile version or impact level.

`migrationDiff` compares the profile the workspace points at with the target, and `migrateContent` builds the new
content with `model_copy`, which validates nothing: facts, sections, controls and questions, each by its own definition.
-/
import AtoService.Workspace.Editing

namespace AtoService.Workspace

open AtoService.Py

/-- what changes between the workspace's profile and the target profile -/
def migrationDiff (old new : ResolvedProfile) (newRow : ProfileRow) : Except Err ProfileDiff :=
  if old.profileVersion = new.profileVersion then
    if old.impactLevel ≠ new.impactLevel then .ok (impactProfileDiff old new) else diffProfiles old new
  else do
    -- `diff_profiles` compares one impact level at a time: the source level first, then the actual baselines
    let targetAtSourceImpact ←
      if old.impactLevel = new.impactLevel then .ok new else resolveStoredProfile newRow old.impactLevel
    let sourceDiff ← diffProfiles old targetAtSourceImpact
    return { sourceDiff with
      impactLevel := new.impactLevel
      addedControlIds := sortedDifference new.controlIds old.controlIds
      removedControlIds := sortedDifference old.controlIds new.controlIds
      changedControlIds := changedKeys ProfileControl.controlId controlSemantics old.controls new.controls }

/-- the enum values of kept controls that the target profile does not allow -/
def incompatibleValues (host : Host) (content : RevisionContent) (new : ResolvedProfile) : List String :=
  (sortControls (content.controlDict.filter fun c => new.controlIds.contains c.controlId)).flatMap fun c =>
    bad ".implementation_status=" c.controlId new.controlResponse.implementationStatuses c.implementationStatus ++
      bad ".responsibility=" c.controlId new.controlResponse.responsibilities c.responsibility
where
  bad (field controlId : String) (allowed : List String) : Option String → List String
    | some v => if v ∈ allowed then [] else [controlId ++ field ++ host.reprStr v]
    | none => []

/-- the controls whose requirement is treated as changed -/
def changedControlIds (content : RevisionContent) (old new : ResolvedProfile) (diff : ProfileDiff) : List String :=
  if diff.implementationStatementPolicyChanged ∨ old.controlResponse ≠ new.controlResponse then
    diff.changedControlIds ++
      (content.controls.map ControlContent.controlId).filter fun id => new.controlIds.contains id
  else diff.changedControlIds

/-- one confirmation marked stale when the difference touches one of its sections -/
def staleIfAffected (diff : ProfileDiff) (keys : List String) (statusKey : String) (facts : List FactContent) :
    List FactContent :=
  if keys.any (fun k => diff.affectedItemIds.contains k) &&
      knownStatus (activeText statusKey facts) == some "confirmed" then
    putFact (.isso statusKey (.str "stale")) facts
  else facts

/-- the facts with the target profile's identity and impact level, before any confirmation is considered -/
def migratedProfileFacts (facts : List FactContent) (new : ResolvedProfile) (impactLevel : String) :
    List FactContent :=
  KeyedList.update FactContent.key facts
    [.isso "profile_id" (.str new.profileId), .isso "profile_version" (.str new.profileVersion),
      .isso "system.impact_level" (.str impactLevel)]

/-- a new confirmation replaces the group; any other migration makes a standing one stale -/
def migratedCategorizationFacts (facts : List FactContent) (impactLevel : String)
    (categorization : Option (List FactContent)) : List FactContent :=
  match categorization with
  | some confirmed =>
    KeyedList.update FactContent.key (KeyedList.erase FactContent.key "system.provisional_impact_level" facts) confirmed
  | none =>
    if activeCategorizationStatus facts = some "confirmed" then
      putFact (.isso "system.provisional_impact_level" (.str impactLevel))
        (putFact (.isso Categorization.statusKey (.str "stale")) facts)
    else facts

def migratedFacts (content : RevisionContent) (new : ResolvedProfile) (diff : ProfileDiff) (impactLevel : String)
    (categorization : Option (List FactContent)) : List FactContent :=
  let facts := migratedProfileFacts content.factDict new impactLevel
  let facts := migratedCategorizationFacts facts impactLevel categorization
  let facts := staleIfAffected diff SystemDefinition.staleTriggerSectionKeys SystemDefinition.statusKey facts
  staleIfAffected diff [InformationTypes.sectionKey] InformationTypes.statusKey facts

/-- a section of the target profile: empty when it is new, else the old one under the new title -/
def migratedSection (old : List SectionContent) (changed : List String) (item : SspRequiredItem) :
    Except Err SectionContent :=
  match getSection item.itemId old with
  | none => validated SectionContent.firstError { key := item.itemId, title := item.title, content := "", state := .empty }
  | some existing =>
    .ok { existing with
      title := item.title
      state := if changed.contains item.itemId && decide (existing.state = .reviewed) then .edited
        else existing.state }

def migrationMarker (profileVersion : String) : String :=
  "Profile migration changed this control requirement; review it against profile " ++ profileVersion ++
    " before approval."

/-- the reason kept on a changed control: what stood there, then the marker -/
def migratedReason (existing : Option String) (profileVersion : String) : String :=
  match existing with
  | some reason =>
    if hasText reason then strip reason ++ "\n" ++ migrationMarker profileVersion else migrationMarker profileVersion
  | none => migrationMarker profileVersion

/-- a control of the target profile: empty when it is new, else the old one under the new title -/
def migratedControl (old : List ControlContent) (changed : List String) (new : ResolvedProfile)
    (control : ProfileControl) : Except Err ControlContent :=
  match getControl control.controlId old with
  | none =>
    validated ControlContent.firstError {
      controlId := control.controlId
      title := control.title
      implementationStatus :=
        if "unknown" ∈ new.controlResponse.implementationStatuses then some "unknown" else none
      responsibility := if "unknown" ∈ new.controlResponse.responsibilities then some "unknown" else none
      state := .empty }
  | some existing =>
    if changed.contains control.controlId then
      .ok { existing with
        title := control.title
        state := .partly
        unresolvedReason := some (migratedReason existing.unresolvedReason new.profileVersion) }
    else .ok { existing with title := control.title }

/-- an open question about a control or section that the target profile lacks is dismissed -/
def migratedQuestion (new : ResolvedProfile) (q : QuestionContent) : QuestionContent :=
  if q.state = .opened ∧ ((q.targetType = .control ∧ q.targetKey ∉ new.controlIds) ∨
      (q.targetType = .sspSection ∧ q.targetKey ∉ new.itemIds)) then
    { q with state := .dismissed }
  else q

/-- the content after a migration -/
def migrateContent (host : Host) (content : RevisionContent) (old new : ResolvedProfile) (diff : ProfileDiff)
    (impactLevel : String) (categorization : Option (List FactContent)) : Except Err RevisionContent := do
  let incompatible := incompatibleValues host content new
  ensure incompatible.isEmpty .workspaceProfileValidation
    ("profile migration cannot preserve incompatible control enum values: " ++ ", ".intercalate incompatible)
  let changed := changedControlIds content old new diff
  let sections ← new.sspRequiredItems.mapM (migratedSection content.sectionDict diff.changedSspItemIds)
  let controls ← new.controls.mapM (migratedControl content.controlDict changed new)
  return {
    facts := sortFacts (migratedFacts content new diff impactLevel categorization)
    sections
    controls
    questions := content.questions.map (migratedQuestion new) }

end AtoService.Workspace
