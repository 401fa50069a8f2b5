/-
Profile bundles as a profile row stores them.

`serializeProfileBundle` is what a row stores and `deserializeProfileBundle` what is read back, with all the data of a
bundle. The fields of a bundle are tuples; the item identifiers of a standard coverage entry are a `Sequence`, since
reading them back gives a list, and no list equals a tuple.

- `deserialize_serialize`: from the JSON text of a stored bundle, the bundle is read back but for these lists.
- `roundTrip_iff`: it is equal to the bundle that was stored, and resolves to the same profiles, if and only if it has
  no standard coverage.

As with stored patches, a value of another type than the one that is written is malformed.
-/
import AtoService.Workspace.StoredPatch

namespace AtoService.Workspace.Stored

/-! ## Bundles -/

/-- a sequence, as Python holds it -/
inductive Sequence (α : Type) where
  | tuple (items : List α)
  | list (items : List α)
deriving DecidableEq, Repr

def Sequence.items {α : Type} : Sequence α → List α
  | .tuple xs => xs
  | .list xs => xs

structure ProfileSource where
  sourceId : String
  title : String
  version : String
  reference : String
deriving DecidableEq, Repr

structure ProfileBundleFile where
  role : String
  path : String
  sha256 : String
deriving DecidableEq, Repr

structure ProfileManifest where
  schemaVersion : String
  profileId : String
  profileVersion : String
  nistControlCatalogRelease : String
  displayName : String
  sources : List ProfileSource
  files : List ProfileBundleFile
  sha256 : String
deriving DecidableEq, Repr

structure ProfileControl where
  controlId : String
  title : String
  requirementText : String
  catalogPointer : String
deriving DecidableEq, Repr

structure StandardCoverage where
  sourceId : String
  requirementId : String
  title : String
  coverageKind : CoverageKind
  itemIds : Sequence String
  required : Bool
deriving DecidableEq, Repr

structure ProfileBundle where
  manifest : ProfileManifest
  catalogControls : List ProfileControl
  lowControlIds : List String
  moderateControlIds : List String
  highControlIds : List String
  sspRequiredItems : List SspRequiredItem
  controlResponse : ControlResponsePolicy
  standardCoverage : List StandardCoverage
  implementationStatementPolicy : ImplementationStatementPolicy
deriving DecidableEq, Repr

/-! ## Standard coverage, as it is loaded -/

section Loading

variable (host : Host)

/-- `repr(value)` -/
def reprOf : Json → String
  | .str s => host.reprStr s
  | v => host.pyStr v

/-- `bool(value)` -/
def truthy : Json → Bool
  | .null | .bool false | .int 0 | .str "" | .arr [] | .obj [] => false
  | .float (.finite d) => d.coeff ≠ 0
  | _ => true

/-- a string that is not blank, as it stands -/
def nonBlank? (v : Json) : Option String := v.asStr.filter fun s => Py.strip s ≠ ""

def CoverageKind.ofText? : Json → Option CoverageKind
  | .str "ssp_item" => some .sspItem
  | .str "controls" => some .controls
  | _ => none

/-- the identifiers of the items that an entry covers -/
def loadItemIds (requirementId : Json) (kind : CoverageKind) (raw : Json) (knownItemIds : List String) :
    Except Err (Sequence String) :=
  match kind with
  | .controls =>
    if truthy raw then raise .profileBundle ("standard_coverage " ++ reprOf host requirementId ++
      " with coverage_kind 'controls' must not declare item_ids")
    else .ok (.tuple [])
  | .sspItem =>
    match raw with
    | .arr (item :: items) =>
      let itemIds := (item :: items).map (pyStrOf host)
      let unknownIds := KeyedList.sorted id (itemIds.filter (· ∉ knownItemIds)).dedup
      if unknownIds ≠ [] then raise .profileBundle ("standard_coverage " ++ reprOf host requirementId ++
        " references unknown SSP item_ids: " ++ ", ".intercalate unknownIds)
      else .ok (.tuple itemIds)
    | _ => raise .profileBundle ("standard_coverage " ++ reprOf host requirementId ++
      " with coverage_kind 'ssp_item' must declare item_ids")

def loadEntry (sources : List ProfileSource) (knownItemIds : List String) : Nat × Json → Except Err StandardCoverage
  | (index, .obj entry) => do
    let place := "standard_coverage[" ++ toString index ++ "]"
    let requirementId := field "requirement_id" entry
    let some sourceId := nonBlank? (field "source_id" entry) | raise .profileBundle (place ++ " must declare source_id")
    ensure (sourceId ∈ sources.map ProfileSource.sourceId) .profileBundle ("standard_coverage requirement " ++
      reprOf host requirementId ++ " references unknown source_id " ++ host.reprStr sourceId)
    let some requirement := nonBlank? requirementId | raise .profileBundle (place ++ " must declare requirement_id")
    let some title := nonBlank? (field "title" entry) | raise .profileBundle (place ++ " must declare title")
    let some kind := CoverageKind.ofText? (field "coverage_kind" entry)
      | raise .profileBundle (place ++ " has unsupported coverage_kind " ++ reprOf host (field "coverage_kind" entry))
    let .bool required := field "required" entry | raise .profileBundle (place ++ ".required must be a boolean")
    let itemIds ← loadItemIds host requirementId kind ((Json.member "item_ids" entry).getD (.arr [])) knownItemIds
    return ⟨Py.strip sourceId, Py.strip requirement, Py.strip title, kind, itemIds, required⟩
  | (index, _) => raise .profileBundle ("standard_coverage[" ++ toString index ++ "] must be an object")

/-- `_load_standard_coverage` -/
def loadStandardCoverage (raw : Option Json) (sources : List ProfileSource) (knownItemIds : List String) :
    Except Err (List StandardCoverage) :=
  match raw with
  | none | some .null => .ok []
  | some (.arr entries) => do
    let loaded ← (entries.zipIdx.map Prod.swap).mapM (loadEntry host sources knownItemIds)
    ensure (loaded.map StandardCoverage.requirementId).Nodup .profileBundle
      "standard_coverage requirement_id values must be unique"
    return KeyedList.sorted StandardCoverage.requirementId loaded
  | some _ => raise .profileBundle "standard_coverage must be an array"

/-- what the loader has checked of a bundle -/
structure Loaded (b : ProfileBundle) : Prop where
  /-- the schema of manifests asks for a release -/
  release : b.manifest.nistControlCatalogRelease ≠ ""
  coverage : ∃ raw knownItemIds, loadStandardCoverage host raw b.manifest.sources knownItemIds = .ok b.standardCoverage

end Loading

/-! ## What is stored -/

/-- a tuple of records -/
def recordsJson {α : Type} (dump : α → Json) (xs : List α) : Json := .arr (xs.map dump)

def ProfileSource.dump (x : ProfileSource) : Json :=
  .obj [("source_id", .str x.sourceId), ("title", .str x.title), ("version", .str x.version),
    ("reference", .str x.reference)]

def ProfileBundleFile.dump (x : ProfileBundleFile) : Json :=
  .obj [("role", .str x.role), ("path", .str x.path), ("sha256", .str x.sha256)]

def ProfileManifest.dump (m : ProfileManifest) : Json :=
  .obj [("schema_version", .str m.schemaVersion), ("profile_id", .str m.profileId),
    ("profile_version", .str m.profileVersion), ("nist_control_catalog_release", .str m.nistControlCatalogRelease),
    ("display_name", .str m.displayName), ("sources", recordsJson ProfileSource.dump m.sources),
    ("files", recordsJson ProfileBundleFile.dump m.files), ("sha256", .str m.sha256)]

def ProfileControl.dump (c : ProfileControl) : Json :=
  .obj [("control_id", .str c.controlId), ("title", .str c.title), ("requirement_text", .str c.requirementText),
    ("catalog_pointer", .str c.catalogPointer)]

def dumpControlResponse (p : ControlResponsePolicy) : Json :=
  .obj [("implementation_statuses", stringsJson p.implementationStatuses),
    ("responsibilities", stringsJson p.responsibilities), ("question_owner_types", stringsJson p.questionOwnerTypes),
    ("evidence_required_for_agent_statement", .bool p.evidenceRequiredForAgentStatement)]

def dumpDeterministic (p : ImplementationStatementDeterministicPolicy) : Json :=
  .obj [("reject_oscal_parameter_insert_syntax", .bool p.rejectOscalParameterInsertSyntax),
    ("require_question_for_unresolved_parameterized_controls",
      .bool p.requireQuestionForUnresolvedParameterizedControls),
    ("require_evidence_for_agent_non_unknown_claims", .bool p.requireEvidenceForAgentNonUnknownClaims),
    ("require_statement_gap_or_question_before_approval", .bool p.requireStatementGapOrQuestionBeforeApproval),
    ("semantic_quality_findings_are_advisory", .bool p.semanticQualityFindingsAreAdvisory)]

def dumpInstructions (p : ImplementationStatementAgentInstructions) : Json :=
  .obj [("statement_content", stringsJson p.statementContent),
    ("organization_defined_parameters", stringsJson p.organizationDefinedParameters),
    ("inherited_and_hybrid_responsibility", stringsJson p.inheritedAndHybridResponsibility),
    ("semantic_review", stringsJson p.semanticReview)]

def dumpAuthorityRef (r : ImplementationStatementAuthorityRef) : Json :=
  .obj [("source_id", .str r.sourceId), ("requirement_ids", stringsJson r.requirementIds)]

def dumpStatementPolicy (p : ImplementationStatementPolicy) : Json :=
  .obj [("policy_version", .str p.policyVersion), ("deterministic", dumpDeterministic p.deterministic),
    ("agent_instructions", dumpInstructions p.agentInstructions),
    ("authority_refs", recordsJson dumpAuthorityRef p.authorityRefs)]

def CoverageKind.text : CoverageKind → String
  | .sspItem => "ssp_item"
  | .controls => "controls"

def StandardCoverage.dump (e : StandardCoverage) : Json :=
  .obj [("source_id", .str e.sourceId), ("requirement_id", .str e.requirementId), ("title", .str e.title),
    ("coverage_kind", .str (CoverageKind.text e.coverageKind)), ("item_ids", stringsJson e.itemIds.items),
    ("required", .bool e.required)]

def ValueType.text : ValueType → String
  | .string => "string"
  | .stringList => "string_list"

def StructuredKind.text : StructuredKind → String
  | .authorizationBoundary => "authorization_boundary"
  | .componentInventory => "component_inventory"
  | .interconnectionRegister => "interconnection_register"
  | .informationTypeRegister => "information_type_register"

/-- `None` is null -/
def optionJson {α : Type} (dump : α → Json) (x : Option α) : Json := (x.map dump).getD .null

def dumpItem (x : SspRequiredItem) : Json :=
  .obj [("item_id", .str x.itemId), ("title", .str x.title), ("value_type", .str (ValueType.text x.valueType)),
    ("min_length", optionJson (fun n : Nat => .int n) x.minLength), ("allowed_values", stringsJson x.allowedValues),
    ("evidence_required_for_agent", .bool x.evidenceRequiredForAgent), ("required", .bool x.required),
    ("standard_refs", stringsJson x.standardRefs),
    ("structured_kind", optionJson (fun k => .str (StructuredKind.text k)) x.structuredKind)]

/-- `serialize_profile_bundle`, which is `asdict` -/
def serializeProfileBundle (b : ProfileBundle) : Json :=
  .obj [("manifest", b.manifest.dump), ("catalog_controls", recordsJson ProfileControl.dump b.catalogControls),
    ("low_control_ids", stringsJson b.lowControlIds), ("moderate_control_ids", stringsJson b.moderateControlIds),
    ("high_control_ids", stringsJson b.highControlIds), ("ssp_required_items", recordsJson dumpItem b.sspRequiredItems),
    ("control_response", dumpControlResponse b.controlResponse),
    ("standard_coverage", recordsJson StandardCoverage.dump b.standardCoverage),
    ("implementation_statement_policy", dumpStatementPolicy b.implementationStatementPolicy)]

/-! ## Reading it -/

def memberBool (key : String) (fs : List (String × Json)) : Option Bool :=
  (Json.member key fs).bind fun
    | .bool b => some b
    | _ => none

/-- `tuple(fields[key])` of strings -/
def memberStrs (key : String) (fs : List (String × Json)) : Option (List String) :=
  (memberArr key fs).bind fun xs => xs.mapM Json.asStr

/-- `tuple(read(item) for item in fields[key])` -/
def memberRecords {α : Type} (read : Json → Option α) (key : String) (fs : List (String × Json)) : Option (List α) :=
  (memberArr key fs).bind fun xs => xs.mapM read

/-- `cls(**item)`: the members are fields of the class -/
def fieldsOf (names : List String) (v : Json) : Option (List (String × Json)) :=
  v.asObj.filter fun fs => fs.all fun f => f.1 ∈ names

def ProfileSource.read (v : Json) : Option ProfileSource := do
  let fs ← fieldsOf ["source_id", "title", "version", "reference"] v
  return ⟨← memberStr "source_id" fs, ← memberStr "title" fs, ← memberStr "version" fs, ← memberStr "reference" fs⟩

def ProfileBundleFile.read (v : Json) : Option ProfileBundleFile := do
  let fs ← fieldsOf ["role", "path", "sha256"] v
  return ⟨← memberStr "role" fs, ← memberStr "path" fs, ← memberStr "sha256" fs⟩

/-- the release of a manifest, or the version of its catalog's source -/
def catalogRelease (fs : List (String × Json)) (sources : List ProfileSource) : String :=
  let release := (memberStr "nist_control_catalog_release" fs).getD ""
  if release = "" then ((sources.find? (·.sourceId == "nist-sp-800-53")).map ProfileSource.version).getD ""
  else release

/-- `_deserialize_stored_manifest` -/
def ProfileManifest.read (v : Json) : Option ProfileManifest := do
  let fs ← v.asObj
  let sources ← memberRecords ProfileSource.read "sources" fs
  guard (catalogRelease fs sources ≠ "")
  return {
    schemaVersion := ← memberStr "schema_version" fs
    profileId := ← memberStr "profile_id" fs
    profileVersion := ← memberStr "profile_version" fs
    nistControlCatalogRelease := catalogRelease fs sources
    displayName := ← memberStr "display_name" fs
    sources := sources
    files := ← memberRecords ProfileBundleFile.read "files" fs
    sha256 := ← memberStr "sha256" fs }

def ProfileControl.read (v : Json) : Option ProfileControl := do
  let fs ← fieldsOf ["control_id", "title", "requirement_text", "catalog_pointer"] v
  return ⟨← memberStr "control_id" fs, ← memberStr "title" fs, ← memberStr "requirement_text" fs,
    ← memberStr "catalog_pointer" fs⟩

/-- `_deserialize_control_response` -/
def readControlResponse (raw : Option Json) : Option ControlResponsePolicy :=
  match raw with
  | none | some .null => some defaultControlResponsePolicy
  | some v => do
    let fs ← v.asObj
    return ⟨← memberStrs "implementation_statuses" fs, ← memberStrs "responsibilities" fs,
      ← memberStrs "question_owner_types" fs, ← memberBool "evidence_required_for_agent_statement" fs⟩

def defaultStatementPolicy : ImplementationStatementPolicy where
  policyVersion := "1.0.0"
  deterministic := ⟨true, true, true, true, true⟩
  agentInstructions := {
    statementContent := []
    organizationDefinedParameters := [
      "Never invent values for organization-defined parameters referenced in control requirement_text placeholders.",
      "Use direct evidence only when it explicitly supports a parameter value and cite supporting_fact_ids.",
      "When evidence does not support a parameter value, leave implementation_statement empty, keep status and " ++
        "responsibility unknown, and ask one concise control-targeted question for the missing agency or " ++
        "organization value.",
      "Never emit literal OSCAL placeholder syntax in implementation_statement text."]
    inheritedAndHybridResponsibility := [
      "Use inherited or hybrid responsibility only when direct evidence supports that split.",
      "When evidence supports inherited or hybrid responsibility, describe the known provider or common portion and " ++
        "the system-specific portion separately.",
      "Never invent provider scope, inheritance boundaries, or shared-service details.",
      "When evidence does not support inheritance details, keep responsibility unknown and ask a targeted question."]
    semanticReview := [] }
  authorityRefs := []

def readDeterministic (fs : List (String × Json)) : Option ImplementationStatementDeterministicPolicy := do
  return ⟨← memberBool "reject_oscal_parameter_insert_syntax" fs,
    ← memberBool "require_question_for_unresolved_parameterized_controls" fs,
    ← memberBool "require_evidence_for_agent_non_unknown_claims" fs,
    ← memberBool "require_statement_gap_or_question_before_approval" fs,
    ← memberBool "semantic_quality_findings_are_advisory" fs⟩

def readInstructions (fs : List (String × Json)) : Option ImplementationStatementAgentInstructions := do
  return ⟨← memberStrs "statement_content" fs, ← memberStrs "organization_defined_parameters" fs,
    ← memberStrs "inherited_and_hybrid_responsibility" fs, ← memberStrs "semantic_review" fs⟩

def readAuthorityRef (v : Json) : Option ImplementationStatementAuthorityRef := do
  let fs ← v.asObj
  return ⟨← memberStr "source_id" fs, ← memberStrs "requirement_ids" fs⟩

/-- `fields.get(key, ())`, then `read` of each item -/
def membersOrNone {α : Type} (read : Json → Option α) (key : String) (fs : List (String × Json)) : Option (List α) :=
  if (Json.member key fs).isNone then some [] else memberRecords read key fs

/-- `_deserialize_implementation_statement_policy`: what is malformed is the default -/
def readStatementPolicy (raw : Option Json) : ImplementationStatementPolicy :=
  (do
    let fs ← raw.bind Json.asObj
    let deterministic ← (Json.member "deterministic" fs).bind Json.asObj
    let instructions ← (Json.member "agent_instructions" fs).bind Json.asObj
    return ⟨← memberStr "policy_version" fs, ← readDeterministic deterministic, ← readInstructions instructions,
      ← membersOrNone readAuthorityRef "authority_refs" fs⟩ : Option ImplementationStatementPolicy).getD
    defaultStatementPolicy

/-- `StandardCoverage(**entry)`: the entry's list of item identifiers stays a list -/
def StandardCoverage.read (v : Json) : Option StandardCoverage := do
  let fs ← fieldsOf ["source_id", "requirement_id", "title", "coverage_kind", "item_ids", "required"] v
  return ⟨← memberStr "source_id" fs, ← memberStr "requirement_id" fs, ← memberStr "title" fs,
    ← (Json.member "coverage_kind" fs).bind CoverageKind.ofText?, .list (← memberStrs "item_ids" fs),
    ← memberBool "required" fs⟩

def ValueType.ofText? : Json → Option ValueType
  | .str "string" => some .string
  | .str "string_list" => some .stringList
  | _ => none

def StructuredKind.ofText? : Json → Option StructuredKind
  | .str "authorization_boundary" => some .authorizationBoundary
  | .str "component_inventory" => some .componentInventory
  | .str "interconnection_register" => some .interconnectionRegister
  | .str "information_type_register" => some .informationTypeRegister
  | _ => none

/-- null is `None` -/
def readOption {α : Type} (read : Json → Option α) : Json → Option (Option α)
  | .null => some none
  | v => (read v).map some

def readLength : Json → Option Nat
  | .int n => some n.toNat
  | _ => none

def readItem (v : Json) : Option SspRequiredItem := do
  let fs ← v.asObj
  return {
    itemId := ← memberStr "item_id" fs
    title := ← memberStr "title" fs
    valueType := ← (Json.member "value_type" fs).bind ValueType.ofText?
    minLength := ← (Json.member "min_length" fs).bind (readOption readLength)
    allowedValues := ← memberStrs "allowed_values" fs
    evidenceRequiredForAgent := ← memberBool "evidence_required_for_agent" fs
    required := ← if (Json.member "required" fs).isNone then some true else memberBool "required" fs
    standardRefs := ← membersOrNone Json.asStr "standard_refs" fs
    structuredKind := ← readOption StructuredKind.ofText? (field "structured_kind" fs) }

def ProfileBundle.read (document : List (String × Json)) : Option ProfileBundle := do
  return {
    manifest := ← (Json.member "manifest" document).bind ProfileManifest.read
    catalogControls := ← memberRecords ProfileControl.read "catalog_controls" document
    lowControlIds := ← memberStrs "low_control_ids" document
    moderateControlIds := ← memberStrs "moderate_control_ids" document
    highControlIds := ← memberStrs "high_control_ids" document
    sspRequiredItems := ← memberRecords readItem "ssp_required_items" document
    controlResponse := ← readControlResponse (Json.member "control_response" document)
    standardCoverage := ← membersOrNone StandardCoverage.read "standard_coverage" document
    implementationStatementPolicy := readStatementPolicy (Json.member "implementation_statement_policy" document) }

/-- `deserialize_profile_bundle` -/
def deserializeProfileBundle : Json → Except Err ProfileBundle
  | .obj document =>
    match ProfileBundle.read document with
    | some b => .ok b
    | none => raise .profileBundle "stored profile bundle is malformed"
  | _ => raise .profileBundle "stored profile bundle must be an object"

/-! ## Resolution -/

structure ResolvedProfile where
  profileId : String
  profileVersion : String
  nistControlCatalogRelease : String
  manifestSha256 : String
  impactLevel : String
  sources : List ProfileSource
  controls : List ProfileControl
  sspRequiredItems : List SspRequiredItem
  controlResponse : ControlResponsePolicy
  standardCoverage : List StandardCoverage
  implementationStatementPolicy : ImplementationStatementPolicy
deriving DecidableEq, Repr

def ProfileBundle.controlIdsFor (b : ProfileBundle) (impactLevel : String) : Except Err (List String) :=
  if impactLevel = "low" then .ok b.lowControlIds
  else if impactLevel = "moderate" then .ok b.moderateControlIds
  else if impactLevel = "high" then .ok b.highControlIds
  else raise .profileBundle ("unsupported impact level '" ++ impactLevel ++ "'; expected low, moderate, or high")

/-- `controls_by_id[control_id]` -/
def lookupControl (catalog : List ProfileControl) (id : String) : Except Err ProfileControl :=
  match KeyedList.get? ProfileControl.controlId id (KeyedList.ofList ProfileControl.controlId catalog) with
  | some c => .ok c
  | none => raise .keyError id

/-- `resolve_profile` -/
def resolveProfile (b : ProfileBundle) (impactLevel : String) : Except Err ResolvedProfile := do
  let selectedIds ← b.controlIdsFor impactLevel
  let controls ← selectedIds.mapM (lookupControl b.catalogControls)
  return {
    profileId := b.manifest.profileId
    profileVersion := b.manifest.profileVersion
    nistControlCatalogRelease := b.manifest.nistControlCatalogRelease
    manifestSha256 := b.manifest.sha256
    impactLevel := impactLevel
    sources := b.manifest.sources
    controls := controls
    sspRequiredItems := b.sspRequiredItems
    controlResponse := b.controlResponse
    standardCoverage := b.standardCoverage
    implementationStatementPolicy := b.implementationStatementPolicy }

/-! ## Members of a stored record -/

/-- the members of a record, as its text gives them back -/
def stored (fs : List (String × Json)) : List (String × Json) :=
  (KeyedList.sorted Prod.fst fs).map fun p => (p.1, p.2.canon)

section Members

variable {fs : List (String × Json)} (hfs : (Json.obj fs).WellFormed)
include hfs

theorem member_stored (key : String) : Json.member key (stored fs) = (Json.member key fs).map Json.canon :=
  JsonText.member_canon hfs key

theorem memberStr_stored (key : String) : memberStr key (stored fs) = memberStr key fs := by
  rw [memberStr, memberStr, member_stored hfs]
  cases Json.member key fs with
  | none => rfl
  | some v => cases v <;> rfl

theorem memberBool_stored (key : String) : memberBool key (stored fs) = memberBool key fs := by
  rw [memberBool, memberBool, member_stored hfs]
  cases Json.member key fs with
  | none => rfl
  | some v => cases v <;> rfl

theorem memberStrs_stored (key : String) {xs : List String} (h : Json.member key fs = some (stringsJson xs)) :
    memberStrs key (stored fs) = some xs := by
  rw [memberStrs, memberArr, member_stored hfs, h, Option.map_some, canon_stringsJson]
  exact mapM_asStr xs

theorem memberRecords_stored {α : Type} {dump : α → Json} {read : Json → Option α} {f : α → α} (key : String)
    {xs : List α} (h : Json.member key fs = some (recordsJson dump xs))
    (hread : ∀ x ∈ xs, read (dump x).canon = some (f x)) : memberRecords read key (stored fs) = some (xs.map f) := by
  rw [memberRecords, memberArr, member_stored hfs, h, Option.map_some, recordsJson, canon_arr]
  exact mapM_read hread

theorem membersOrNone_stored {α : Type} {dump : α → Json} {read : Json → Option α} {f : α → α} (key : String)
    {xs : List α} (h : Json.member key fs = some (recordsJson dump xs))
    (hread : ∀ x ∈ xs, read (dump x).canon = some (f x)) : membersOrNone read key (stored fs) = some (xs.map f) := by
  rw [membersOrNone, member_stored hfs, h]
  exact memberRecords_stored hfs key h hread

theorem memberBind_stored {α : Type} {read : Json → Option α} (key : String) {v : Json} {a : α}
    (h : Json.member key fs = some v) (hread : read v.canon = some a) :
    (Json.member key (stored fs)).bind read = some a := by
  rw [member_stored hfs, h]
  exact hread

theorem member_stored_isNone (key : String) {v : Json} (h : Json.member key fs = some v) :
    (Json.member key (stored fs)).isNone = false := by
  rw [member_stored hfs, h]
  rfl

theorem field_stored {α : Type} {read : Json → Option α} (key : String) {v : Json} {a : α}
    (h : Json.member key fs = some v) (hread : read v.canon = some a) : read (field key (stored fs)) = some a := by
  rw [field, member_stored hfs, h]
  exact hread

theorem catalogRelease_stored {release : String} (h : memberStr "nist_control_catalog_release" fs = some release)
    (hrelease : release ≠ "") (sources : List ProfileSource) : catalogRelease (stored fs) sources = release := by
  rw [catalogRelease, memberStr_stored hfs, h]
  exact if_neg hrelease

end Members

theorem fieldsOf_stored {names : List String} {fs : List (String × Json)} (h : fs.all (fun f => f.1 ∈ names) = true) :
    fieldsOf names (.obj (stored fs)) = some (stored fs) := by
  have hall : (stored fs).all (fun f => f.1 ∈ names) = true := by
    rw [List.all_eq_true] at h ⊢
    intro f hf
    obtain ⟨g, hg, rfl⟩ := List.mem_map.1 hf
    exact h g ((KeyedList.sorted_perm fs).mem_iff.1 hg)
  rw [fieldsOf, Json.asObj, Option.filter_some, if_pos hall]

theorem wellFormed_recordsJson {α : Type} {dump : α → Json} {xs : List α} (h : ∀ x ∈ xs, (dump x).WellFormed) :
    (recordsJson dump xs).WellFormed := by
  refine (Json.wellFormedItems_iff _).2 ?_
  rw [List.forall_mem_map]
  exact h

/-! ## Records are read back -/

namespace ProfileSource

theorem wellFormed_dump (x : ProfileSource) : x.dump.WellFormed :=
  ⟨of_decide_eq_true rfl, trivial, trivial, trivial, trivial, trivial⟩

theorem read_dump (x : ProfileSource) : read x.dump.canon = some x := by
  have hwf := x.wellFormed_dump
  unfold dump at hwf ⊢
  rw [Json.canon_obj, ← stored, read, fieldsOf_stored rfl]
  simp only [memberStr_stored hwf, Option.bind_eq_bind, Option.bind_some]
  rfl

end ProfileSource

namespace ProfileBundleFile

theorem wellFormed_dump (x : ProfileBundleFile) : x.dump.WellFormed :=
  ⟨of_decide_eq_true rfl, trivial, trivial, trivial, trivial⟩

theorem read_dump (x : ProfileBundleFile) : read x.dump.canon = some x := by
  have hwf := x.wellFormed_dump
  unfold dump at hwf ⊢
  rw [Json.canon_obj, ← stored, read, fieldsOf_stored rfl]
  simp only [memberStr_stored hwf, Option.bind_eq_bind, Option.bind_some]
  rfl

end ProfileBundleFile

namespace ProfileManifest

theorem wellFormed_dump (m : ProfileManifest) : m.dump.WellFormed :=
  ⟨of_decide_eq_true rfl, trivial, trivial, trivial, trivial, trivial,
    wellFormed_recordsJson fun x _ => x.wellFormed_dump, wellFormed_recordsJson fun x _ => x.wellFormed_dump, trivial,
    trivial⟩

theorem read_dump {m : ProfileManifest} (hrelease : m.nistControlCatalogRelease ≠ "") : read m.dump.canon = some m := by
  have hwf := m.wellFormed_dump
  unfold dump at hwf ⊢
  rw [Json.canon_obj, ← stored]
  have hsources : memberRecords ProfileSource.read "sources" _ = some (m.sources.map id) :=
    memberRecords_stored hwf "sources" rfl fun x _ => x.read_dump
  have hfiles : memberRecords ProfileBundleFile.read "files" _ = some (m.files.map id) :=
    memberRecords_stored hwf "files" rfl fun x _ => x.read_dump
  have hcatalog : catalogRelease _ m.sources = m.nistControlCatalogRelease :=
    catalogRelease_stored hwf rfl hrelease m.sources
  rw [List.map_id] at hsources hfiles
  simp only [read, Json.asObj, hsources, hfiles, hcatalog, memberStr_stored hwf, guard, if_pos hrelease,
    Option.bind_eq_bind, Option.bind_some]
  rfl

end ProfileManifest

namespace ProfileControl

theorem wellFormed_dump (c : ProfileControl) : c.dump.WellFormed :=
  ⟨of_decide_eq_true rfl, trivial, trivial, trivial, trivial, trivial⟩

theorem read_dump (c : ProfileControl) : read c.dump.canon = some c := by
  have hwf := c.wellFormed_dump
  unfold dump at hwf ⊢
  rw [Json.canon_obj, ← stored, read, fieldsOf_stored rfl]
  simp only [memberStr_stored hwf, Option.bind_eq_bind, Option.bind_some]
  rfl

end ProfileControl

theorem wellFormed_dumpControlResponse (p : ControlResponsePolicy) : (dumpControlResponse p).WellFormed :=
  ⟨of_decide_eq_true rfl, wellFormed_stringsJson _, wellFormed_stringsJson _, wellFormed_stringsJson _, trivial,
    trivial⟩

theorem readControlResponse_dump (p : ControlResponsePolicy) :
    readControlResponse (some (dumpControlResponse p).canon) = some p := by
  have hwf := wellFormed_dumpControlResponse p
  unfold dumpControlResponse at hwf ⊢
  rw [Json.canon_obj, ← stored, readControlResponse.eq_def]
  simp only [Json.asObj, memberBool_stored hwf, memberStrs_stored hwf "implementation_statuses" rfl,
    memberStrs_stored hwf "responsibilities" rfl, memberStrs_stored hwf "question_owner_types" rfl,
    Option.bind_eq_bind, Option.bind_some]
  rfl

theorem wellFormed_dumpDeterministic (p : ImplementationStatementDeterministicPolicy) :
    (dumpDeterministic p).WellFormed :=
  ⟨of_decide_eq_true rfl, trivial, trivial, trivial, trivial, trivial, trivial⟩

theorem wellFormed_dumpInstructions (p : ImplementationStatementAgentInstructions) : (dumpInstructions p).WellFormed :=
  ⟨of_decide_eq_true rfl, wellFormed_stringsJson _, wellFormed_stringsJson _, wellFormed_stringsJson _,
    wellFormed_stringsJson _, trivial⟩

theorem wellFormed_dumpAuthorityRef (r : ImplementationStatementAuthorityRef) : (dumpAuthorityRef r).WellFormed :=
  ⟨of_decide_eq_true rfl, trivial, wellFormed_stringsJson _, trivial⟩

theorem wellFormed_dumpStatementPolicy (p : ImplementationStatementPolicy) : (dumpStatementPolicy p).WellFormed :=
  ⟨of_decide_eq_true rfl, trivial, wellFormed_dumpDeterministic _, wellFormed_dumpInstructions _,
    wellFormed_recordsJson fun r _ => wellFormed_dumpAuthorityRef r, trivial⟩

theorem readAuthorityRef_dump (r : ImplementationStatementAuthorityRef) :
    readAuthorityRef (dumpAuthorityRef r).canon = some r := by
  have hwf := wellFormed_dumpAuthorityRef r
  unfold dumpAuthorityRef at hwf ⊢
  rw [Json.canon_obj, ← stored, readAuthorityRef]
  simp only [Json.asObj, memberStr_stored hwf, memberStrs_stored hwf "requirement_ids" rfl, Option.bind_eq_bind,
    Option.bind_some]
  rfl

theorem readDeterministic_dump (p : ImplementationStatementDeterministicPolicy) :
    ((dumpDeterministic p).canon.asObj).bind readDeterministic = some p := by
  have hwf := wellFormed_dumpDeterministic p
  unfold dumpDeterministic at hwf ⊢
  rw [Json.canon_obj, ← stored, Json.asObj, Option.bind_some, readDeterministic]
  simp only [memberBool_stored hwf]
  rfl

theorem readInstructions_dump (p : ImplementationStatementAgentInstructions) :
    ((dumpInstructions p).canon.asObj).bind readInstructions = some p := by
  have hwf := wellFormed_dumpInstructions p
  unfold dumpInstructions at hwf ⊢
  rw [Json.canon_obj, ← stored, Json.asObj, Option.bind_some, readInstructions]
  simp only [memberStrs_stored hwf "statement_content" rfl,
    memberStrs_stored hwf "organization_defined_parameters" rfl,
    memberStrs_stored hwf "inherited_and_hybrid_responsibility" rfl, memberStrs_stored hwf "semantic_review" rfl]
  rfl

theorem readStatementPolicy_dump (p : ImplementationStatementPolicy) :
    readStatementPolicy (some (dumpStatementPolicy p).canon) = p := by
  have hwf := wellFormed_dumpStatementPolicy p
  have hdeterministic := readDeterministic_dump p.deterministic
  have hinstructions := readInstructions_dump p.agentInstructions
  unfold dumpStatementPolicy at hwf ⊢
  rw [Json.canon_obj, ← stored]
  have hrefs : membersOrNone readAuthorityRef "authority_refs" _ = some (p.authorityRefs.map id) :=
    membersOrNone_stored hwf "authority_refs" rfl fun r _ => readAuthorityRef_dump r
  obtain ⟨deterministic, hobj, hread⟩ := Option.bind_eq_some_iff.1 hdeterministic
  obtain ⟨instructions, hobj', hread'⟩ := Option.bind_eq_some_iff.1 hinstructions
  have hmember : (Json.member "deterministic" _).bind Json.asObj = some deterministic :=
    memberBind_stored hwf "deterministic" rfl hobj
  have hmember' : (Json.member "agent_instructions" _).bind Json.asObj = some instructions :=
    memberBind_stored hwf "agent_instructions" rfl hobj'
  rw [List.map_id] at hrefs
  simp only [readStatementPolicy, Option.bind_some, Json.asObj, hmember, hmember', hread, hread', hrefs,
    memberStr_stored hwf, Option.bind_eq_bind]
  rfl

/-- an entry as it is read back -/
def StandardCoverage.reread (e : StandardCoverage) : StandardCoverage := { e with itemIds := .list e.itemIds.items }

namespace StandardCoverage

theorem wellFormed_dump (e : StandardCoverage) : e.dump.WellFormed :=
  ⟨of_decide_eq_true rfl, trivial, trivial, trivial, trivial, wellFormed_stringsJson _, trivial, trivial⟩

theorem read_dump (e : StandardCoverage) : read e.dump.canon = some e.reread := by
  have hwf := e.wellFormed_dump
  unfold dump at hwf ⊢
  rw [Json.canon_obj, ← stored, read, fieldsOf_stored rfl]
  have htext : CoverageKind.ofText? (Json.str (CoverageKind.text e.coverageKind)).canon = some e.coverageKind := by
    cases e.coverageKind <;> rfl
  have hkind : (Json.member "coverage_kind" _).bind CoverageKind.ofText? = some e.coverageKind :=
    memberBind_stored hwf "coverage_kind" rfl htext
  simp only [memberStr_stored hwf, memberBool_stored hwf, hkind, memberStrs_stored hwf "item_ids" rfl,
    Option.bind_eq_bind, Option.bind_some]
  rfl

end StandardCoverage

theorem wellFormed_dumpItem (x : SspRequiredItem) : (dumpItem x).WellFormed := by
  have hlength : (optionJson (fun n : Nat => .int n) x.minLength).WellFormed := by
    cases x.minLength <;> trivial
  have hkind : (optionJson (fun k => .str (StructuredKind.text k)) x.structuredKind).WellFormed := by
    cases x.structuredKind <;> trivial
  exact ⟨of_decide_eq_true rfl, trivial, trivial, trivial, hlength, wellFormed_stringsJson _, trivial, trivial,
    wellFormed_stringsJson _, hkind, trivial⟩

theorem readItem_dump (x : SspRequiredItem) : readItem (dumpItem x).canon = some x := by
  have hwf := wellFormed_dumpItem x
  unfold dumpItem at hwf ⊢
  rw [Json.canon_obj, ← stored, readItem]
  have htext : ValueType.ofText? (Json.str (ValueType.text x.valueType)).canon = some x.valueType := by
    cases x.valueType <;> rfl
  have hnumber : readOption readLength (optionJson (fun n : Nat => .int n) x.minLength).canon = some x.minLength := by
    cases x.minLength <;> rfl
  have hname : readOption StructuredKind.ofText?
      (optionJson (fun k => .str (StructuredKind.text k)) x.structuredKind).canon = some x.structuredKind := by
    cases x.structuredKind with
    | none => rfl
    | some k => cases k <;> rfl
  have htype : (Json.member "value_type" _).bind ValueType.ofText? = some x.valueType :=
    memberBind_stored hwf "value_type" rfl htext
  have hlength : (Json.member "min_length" _).bind (readOption readLength) = some x.minLength :=
    memberBind_stored hwf "min_length" rfl hnumber
  have hkind : readOption StructuredKind.ofText? (field "structured_kind" _) = some x.structuredKind :=
    field_stored hwf "structured_kind" rfl hname
  have hrequired : (Json.member "required" _).isNone = false := member_stored_isNone hwf "required" rfl
  have hrefs : membersOrNone Json.asStr "standard_refs" _ = some (x.standardRefs.map id) :=
    membersOrNone_stored hwf "standard_refs" rfl fun _ _ => rfl
  rw [List.map_id] at hrefs
  simp only [Json.asObj, memberStr_stored hwf, htype, hlength, memberStrs_stored hwf "allowed_values" rfl, hkind,
    hrequired, hrefs, memberBool_stored hwf, Option.bind_eq_bind, Option.bind_some]
  rfl

/-! ## Bundles are read back -/

/-- a bundle as it is read back -/
def ProfileBundle.reread (b : ProfileBundle) : ProfileBundle :=
  { b with standardCoverage := b.standardCoverage.map StandardCoverage.reread }

theorem wellFormed_serialize (b : ProfileBundle) : (serializeProfileBundle b).WellFormed :=
  ⟨of_decide_eq_true rfl, b.manifest.wellFormed_dump, wellFormed_recordsJson fun c _ => c.wellFormed_dump,
    wellFormed_stringsJson _, wellFormed_stringsJson _, wellFormed_stringsJson _,
    wellFormed_recordsJson fun x _ => wellFormed_dumpItem x, wellFormed_dumpControlResponse _,
    wellFormed_recordsJson fun e _ => e.wellFormed_dump, wellFormed_dumpStatementPolicy _, trivial⟩

theorem deserialize_canon {b : ProfileBundle} (hrelease : b.manifest.nistControlCatalogRelease ≠ "") :
    deserializeProfileBundle (serializeProfileBundle b).canon = .ok b.reread := by
  have hwf := wellFormed_serialize b
  unfold serializeProfileBundle at hwf ⊢
  rw [Json.canon_obj, ← stored]
  have hmanifest : (Json.member "manifest" _).bind ProfileManifest.read = some b.manifest :=
    memberBind_stored hwf "manifest" rfl (ProfileManifest.read_dump hrelease)
  have hcontrols : memberRecords ProfileControl.read "catalog_controls" _ = some (b.catalogControls.map id) :=
    memberRecords_stored hwf "catalog_controls" rfl fun c _ => c.read_dump
  have hitems : memberRecords readItem "ssp_required_items" _ = some (b.sspRequiredItems.map id) :=
    memberRecords_stored hwf "ssp_required_items" rfl fun x _ => readItem_dump x
  have hcoverage : membersOrNone StandardCoverage.read "standard_coverage" _ =
      some (b.standardCoverage.map StandardCoverage.reread) :=
    membersOrNone_stored hwf "standard_coverage" rfl fun e _ => e.read_dump
  have hresponse : Json.member "control_response" (stored _) = some (dumpControlResponse b.controlResponse).canon :=
    member_stored hwf "control_response"
  have hpolicy : Json.member "implementation_statement_policy" (stored _) =
      some (dumpStatementPolicy b.implementationStatementPolicy).canon :=
    member_stored hwf "implementation_statement_policy"
  rw [List.map_id] at hcontrols hitems
  simp only [deserializeProfileBundle, ProfileBundle.read, hmanifest, hcontrols, hitems, hcoverage, hresponse, hpolicy,
    readControlResponse_dump, readStatementPolicy_dump, memberStrs_stored hwf "low_control_ids" rfl,
    memberStrs_stored hwf "moderate_control_ids" rfl, memberStrs_stored hwf "high_control_ids" rfl,
    Option.bind_eq_bind, Option.bind_some]
  rfl

/-- **A stored bundle is read back** from its text, with lists of item identifiers in its standard coverage. -/
theorem deserialize_serialize {b : ProfileBundle} (hrelease : b.manifest.nistControlCatalogRelease ≠ "")
    {f : Separators} (hf : JsonText.Blanks f) :
    ∃ v, JsonText.loads ((serializeProfileBundle b).dumps f) = some v ∧ deserializeProfileBundle v = .ok b.reread :=
  ⟨_, JsonText.loads_dumps hf (wellFormed_serialize b), deserialize_canon hrelease⟩

/-! ## Standard coverage holds tuples -/

section Loading

variable {host : Host}

theorem loadItemIds_tuple {requirementId : Json} {kind : CoverageKind} {raw : Json} {knownItemIds : List String}
    {itemIds : Sequence String} (h : loadItemIds host requirementId kind raw knownItemIds = .ok itemIds) :
    ∃ xs, itemIds = .tuple xs := by
  unfold loadItemIds at h
  cases kind with
  | controls =>
    simp only at h
    split_ifs at h
    · cases h
    · exact ⟨[], (Except.ok.inj h).symm⟩
  | sspItem =>
    simp only at h
    split at h
    · split_ifs at h
      · cases h
      · exact ⟨_, (Except.ok.inj h).symm⟩
    · cases h

theorem loadEntry_tuple {sources : List ProfileSource} {knownItemIds : List String} {x : Nat × Json}
    {e : StandardCoverage} (h : loadEntry host sources knownItemIds x = .ok e) : ∃ xs, e.itemIds = .tuple xs := by
  obtain ⟨index, v⟩ := x
  cases v with
  | obj entry =>
    simp only [loadEntry] at h
    split at h
    · obtain ⟨-, -, h⟩ := bind_eq_ok.1 h
      split at h
      · split at h
        · split at h
          · split at h
            · obtain ⟨itemIds, hitems, h⟩ := bind_eq_ok.1 h
              obtain rfl := pure_eq_ok.1 h
              exact loadItemIds_tuple hitems
            · cases h
          · cases h
        · cases h
      · cases h
    · cases h
  | _ => cases h

theorem loadStandardCoverage_tuple {raw : Option Json} {sources : List ProfileSource} {knownItemIds : List String}
    {entries : List StandardCoverage} (h : loadStandardCoverage host raw sources knownItemIds = .ok entries) :
    ∀ e ∈ entries, ∃ xs, e.itemIds = .tuple xs := by
  unfold loadStandardCoverage at h
  split at h
  · cases h
    simp
  · cases h
    simp
  · obtain ⟨loaded, hloaded, h⟩ := bind_eq_ok.1 h
    obtain ⟨-, -, h⟩ := bind_eq_ok.1 h
    obtain rfl := pure_eq_ok.1 h
    intro e he
    obtain ⟨x, -, hx⟩ := exists_of_mem_mapM hloaded ((KeyedList.sorted_perm loaded).mem_iff.1 he)
    exact loadEntry_tuple hx
  · cases h

theorem reread_ne {e : StandardCoverage} (h : ∃ xs, e.itemIds = .tuple xs) : e.reread ≠ e := by
  obtain ⟨xs, hxs⟩ := h
  intro heq
  have hitems : Sequence.list e.itemIds.items = e.itemIds := congrArg StandardCoverage.itemIds heq
  rw [hxs] at hitems
  cases hitems

/-- a loaded bundle is read back as it was where it has no standard coverage -/
theorem reread_eq_iff {b : ProfileBundle} (hb : Loaded host b) : b.reread = b ↔ b.standardCoverage = [] := by
  obtain ⟨raw, knownItemIds, hload⟩ := hb.coverage
  constructor
  · intro heq
    have hmap : b.standardCoverage.map StandardCoverage.reread = b.standardCoverage :=
      congrArg ProfileBundle.standardCoverage heq
    cases hentries : b.standardCoverage with
    | nil => rfl
    | cons e es =>
      rw [hentries, List.map_cons, List.cons.injEq] at hmap
      exact absurd hmap.1 (reread_ne (loadStandardCoverage_tuple hload e (hentries ▸ List.mem_cons_self)))
  · intro hnone
    rw [ProfileBundle.reread, hnone]
    cases b
    cases hnone
    rfl

end Loading

/-- **A loaded bundle comes back** from its stored text as it was, and resolves to the same profiles, if and only if it
has no standard coverage. -/
theorem roundTrip_iff (host : Host) (b : ProfileBundle) (hb : Loaded host b) (f : Separators) (hf : JsonText.Blanks f) :
    (∃ v b', JsonText.loads ((serializeProfileBundle b).dumps f) = some v ∧ deserializeProfileBundle v = .ok b' ∧
      b' = b ∧ ∀ impactLevel, resolveProfile b' impactLevel = resolveProfile b impactLevel) ↔
      b.standardCoverage = [] := by
  obtain ⟨v, hv, hread⟩ := deserialize_serialize hb.release hf
  rw [← reread_eq_iff hb]
  constructor
  · rintro ⟨v', b', hv', hread', rfl, -⟩
    obtain rfl : v = v' := Option.some.inj (hv.symm.trans hv')
    exact Except.ok.inj (hread.symm.trans hread')
  · intro heq
    exact ⟨v, b.reread, hv, hread, heq, fun impactLevel => by rw [heq]⟩

namespace OneStandard

def host : Host := ⟨id, id, fun _ => "", id, fun _ => ""⟩

/-- the loader's entry for the controls of a standard -/
def coverage : StandardCoverage := ⟨"nist-sp-800-53", "controls", "Control baseline", .controls, .tuple [], true⟩

/-- the same entry in the requirements file -/
def coverageJson : Json :=
  .obj [("source_id", .str "nist-sp-800-53"), ("requirement_id", .str "controls"), ("title", .str "Control baseline"),
    ("coverage_kind", .str "controls"), ("required", .bool true)]

def digest : String := String.ofList (List.replicate 64 '0')

/-- a bundle of one control and one requirement, with the given standard coverage -/
def bundle (standardCoverage : List StandardCoverage) : ProfileBundle where
  manifest := {
    schemaVersion := "1.0.0"
    profileId := "fisma"
    profileVersion := "1.0.0"
    nistControlCatalogRelease := "5.2.0"
    displayName := "FISMA"
    sources := [⟨"nist-sp-800-53", "Controls", "5.2.0", "NIST SP 800-53"⟩]
    files := [⟨"baselines", "baselines.json", digest⟩, ⟨"catalog", "catalog.json", digest⟩,
      ⟨"ssp_requirements", "ssp.json", digest⟩]
    sha256 := digest }
  catalogControls := [⟨"AC-1", "Policy", "Develop a policy.", "/controls/0"⟩]
  lowControlIds := ["AC-1"]
  moderateControlIds := ["AC-1"]
  highControlIds := ["AC-1"]
  sspRequiredItems := [⟨"system.purpose", "Purpose", .string, none, [], true, true, ["controls"], none⟩]
  controlResponse := defaultControlResponsePolicy
  standardCoverage := standardCoverage
  implementationStatementPolicy := defaultStatementPolicy

theorem loaded_none : Loaded host (bundle []) := ⟨by decide, none, [], rfl⟩

theorem loaded_coverage : Loaded host (bundle [coverage]) :=
  ⟨by decide, some (.arr [coverageJson]), ["system.purpose"], rfl⟩

end OneStandard

theorem roundTrip_iff_none :
    Loaded OneStandard.host (OneStandard.bundle []) ∧
      ∃ v b', JsonText.loads ((serializeProfileBundle (OneStandard.bundle [])).dumps .compact) = some v ∧
        deserializeProfileBundle v = .ok b' ∧ b' = OneStandard.bundle [] ∧
        ∀ impactLevel, resolveProfile b' impactLevel = resolveProfile (OneStandard.bundle []) impactLevel :=
  ⟨OneStandard.loaded_none,
    (roundTrip_iff OneStandard.host (OneStandard.bundle []) OneStandard.loaded_none .compact
      JsonText.blanks_compact).2 rfl⟩

/-- a bundle with one entry of standard coverage does not come back as it was -/
theorem oneStandard_changed :
    Loaded OneStandard.host (OneStandard.bundle [OneStandard.coverage]) ∧
      ¬∃ v b', JsonText.loads ((serializeProfileBundle (OneStandard.bundle [OneStandard.coverage])).dumps .compact) =
          some v ∧
        deserializeProfileBundle v = .ok b' ∧ b' = OneStandard.bundle [OneStandard.coverage] ∧
        ∀ impactLevel, resolveProfile b' impactLevel =
          resolveProfile (OneStandard.bundle [OneStandard.coverage]) impactLevel := by
  refine ⟨OneStandard.loaded_coverage, ?_⟩
  rintro ⟨v, b', hv, hread, rfl, -⟩
  obtain ⟨v', hv', hread'⟩ := deserialize_serialize OneStandard.loaded_coverage.release JsonText.blanks_compact
  obtain rfl : v = v' := Option.some.inj (hv.symm.trans hv')
  have heq := (reread_eq_iff OneStandard.loaded_coverage).1 (Except.ok.inj (hread'.symm.trans hread))
  cases heq

end AtoService.Workspace.Stored
