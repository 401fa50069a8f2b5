/-
The draft OSCAL export of an approved snapshot: `oscal_export.py`.

`ExportSnapshot` is what `normalize_export_snapshot` gives and the export reads: sections and questions under distinct
identifiers, and controls whose identifiers are not blank. `buildOscalDocument` writes the document; identifiers of its
parts are `uuid5` of a kind and of what tells the part from others of its kind.

- `recover_requirement`: a control is read back from its implemented requirement.
- `sectionsPlaced`: a section stands in one place of the document, and a place without one says that it is unresolved.
- `uuids_nodup_iff`: the identifiers in a document are distinct if and only if the control identifiers are, once they
  are normalized.
- `oscal_lossless_iff`: the three together.
-/
import AtoService.Lib.Json
import AtoService.Lib.Results

namespace AtoService.Workspace.Oscal

/-! ## Snapshots -/

structure ExportSection where
  sectionId : String
  title : String
  content : String
deriving DecidableEq, Repr

structure ExportControl where
  controlId : String
  state : String
  implementationStatus : String
  responsibility : String
  implementationStatement : String
  evidenceLinks : List String
deriving DecidableEq, Repr

structure ExportQuestion where
  questionId : String
  target : String
  question : String
  ownerType : String
  status : String
deriving DecidableEq, Repr

structure ExportSnapshot where
  workspaceId : String
  revisionId : String
  contentSha256 : String
  approvedAt : String
  displayName : String
  externalSystemId : Option String
  profileId : String
  profileVersion : String
  sections : List ExportSection
  controls : List ExportControl
  openQuestions : List ExportQuestion
  sections_distinct : (sections.map ExportSection.sectionId).Nodup
  controls_named : ∀ c ∈ controls, Py.strip c.controlId ≠ ""
  questions_distinct : (openQuestions.map ExportQuestion.questionId).Nodup

/-- functions of the Python library: `str.casefold`, `str.upper`, and `str(uuid.uuid5(namespace, name))` -/
structure Library where
  casefold : String → String
  upper : String → String
  uuid5 : List Char → String

variable (lib : Library)

/-! ## Parts of the document -/

/-- `":".join((kind, *parts))` -/
def material (kind : String) (parts : List String) : List Char := joinText [':'] ((kind :: parts).map Py.chars)

def stableUuid (kind : String) (parts : List String) : String := lib.uuid5 (material kind parts)

def exportPropNs : String := "https://ato-analyzer.local/ns/ssp-workspace-export/v1"

def exportProp (name value : String) : Json :=
  .obj [("name", .str name), ("ns", .str exportPropNs), ("value", .str value)]

/-- OscalCatalogError -/
structure OscalCatalogError where
  message : String
deriving DecidableEq, Repr

def normalizeOscalControlId (controlId : String) : Except OscalCatalogError String := do
  Results.ensure (Py.strip controlId ≠ "") ⟨"control id must be a non-empty string"⟩
  return lib.upper (Py.strip controlId)

def implementationStatusToOscal : List (String × String) :=
  [("implemented", "implemented"), ("partially_implemented", "partial"), ("planned", "planned"),
    ("not_applicable", "not-applicable")]

def oscalStatus? (status : String) : Option String := implementationStatusToOscal.lookup status

/-- `text or fallback` -/
def orElse (text fallback : String) : String := if text = "" then fallback else text

/-- the lines that come before the statement of an inherited control -/
def inheritedLines (responsibility implementationStatus : String) : String :=
  "Inherited control: leveraged authorization and provider details were not fabricated for this draft export. " ++
    "Responsibility: " ++ responsibility ++ ". Implementation status: " ++ implementationStatus ++ "."

def inheritedControlRemarks (c : ExportControl) (statement : String) : String :=
  if statement = "" then inheritedLines c.responsibility c.implementationStatus
  else inheritedLines c.responsibility c.implementationStatus ++ " " ++ statement

def evidenceHref (workspaceId contentSha256 evidenceReference : String) : String :=
  "urn:ato-analyzer:evidence:" ++ stableUuid lib "evidence-link" [workspaceId, contentSha256, evidenceReference]

def buildByComponent (s : ExportSnapshot) (c : ExportControl) (statement componentUuid : String) :
    Except OscalCatalogError Json := do
  let controlId ← normalizeOscalControlId lib c.controlId
  return .obj <|
    [("component-uuid", .str componentUuid),
      ("uuid", .str (stableUuid lib "by-component" [s.workspaceId, s.revisionId, s.contentSha256, controlId])),
      ("description", .str statement)] ++
    match oscalStatus? c.implementationStatus with
    | some status => [("implementation-status", .obj [("state", .str status)])]
    | none => []

/-- where the statement of a control stands: in its remarks, or in the system's component -/
def statementFields (s : ExportSnapshot) (c : ExportControl) (componentUuid : String) :
    Except OscalCatalogError (List (String × Json)) :=
  let statement := Py.strip c.implementationStatement
  if c.responsibility = "inherited" then return [("remarks", .str (inheritedControlRemarks c statement))]
  else if statement ≠ "" ∧ c.responsibility ∈ ["system_specific", "hybrid"] then do
    let byComponent ← buildByComponent lib s c statement componentUuid
    return [("by-components", .arr [byComponent])]
  else if statement ≠ "" then return [("remarks", .str statement)]
  else return []

def statusProp (c : ExportControl) : Json :=
  match oscalStatus? c.implementationStatus with
  | some _ => exportProp "implementation-status" c.implementationStatus
  | none => exportProp "implementation-status-unmapped" c.implementationStatus

def evidenceLinks (s : ExportSnapshot) (c : ExportControl) : List (String × Json) :=
  if c.evidenceLinks = [] then []
  else
    [("links", .arr (c.evidenceLinks.map fun reference =>
      .obj [("href", .str (evidenceHref lib s.workspaceId s.contentSha256 reference)), ("rel", .str "evidence")]))]

def buildImplementedRequirement (s : ExportSnapshot) (componentUuid : String) (c : ExportControl) :
    Except OscalCatalogError Json := do
  let controlId ← normalizeOscalControlId lib c.controlId
  let statement ← statementFields lib s c componentUuid
  return .obj <|
    [("uuid", .str (stableUuid lib "implemented-requirement"
        [s.workspaceId, s.revisionId, s.contentSha256, controlId])),
      ("control-id", .str controlId),
      ("props", .arr <|
        [exportProp "workspace-control-state" c.state, exportProp "responsibility" c.responsibility, statusProp c] ++
          c.evidenceLinks.map (exportProp "evidence-reference"))] ++
    statement ++ evidenceLinks lib s c

/-! ## Sections -/

def purposeSectionIds : List String :=
  ["purpose", "system_purpose", "system-purpose", "description", "system_description", "system-description"]

def boundarySectionIds : List String := ["boundary", "authorization_boundary", "authorization-boundary"]

def informationTypeSectionIds : List String :=
  ["information_types", "information-types", "information_type", "information-type"]

/-- `needle in text` -/
def contains (needle text : String) : Bool := (Py.chars text).tails.any fun rest => (Py.chars needle).isPrefixOf rest

def isPurpose (x : ExportSection) : Bool :=
  x.sectionId ∈ purposeSectionIds || contains "purpose" (lib.casefold x.title) ||
    contains "system description" (lib.casefold x.title)

def isBoundary (x : ExportSection) : Bool :=
  x.sectionId ∈ boundarySectionIds || contains "authorization boundary" (lib.casefold x.title)

def isInformation (x : ExportSection) : Bool :=
  x.sectionId ∈ informationTypeSectionIds || contains "information type" (lib.casefold x.title)

structure Partition where
  purpose : Option ExportSection := none
  boundary : Option ExportSection := none
  information : Option ExportSection := none
  unmapped : List ExportSection := []
deriving DecidableEq, Repr

/-- the first section of each kind, in this order of kinds; the others are not mapped -/
def place (p : Partition) (x : ExportSection) : Partition :=
  if p.purpose.isNone && isPurpose lib x then { p with purpose := some x }
  else if p.boundary.isNone && isBoundary lib x then { p with boundary := some x }
  else if p.information.isNone && isInformation lib x then { p with information := some x }
  else { p with unmapped := p.unmapped ++ [x] }

def partitionSections (sections : List ExportSection) : Partition := sections.foldl (place lib) {}

/-! ## The document -/

def unresolvedSystemDescription : String :=
  "System description unresolved: no purpose or description section was present in the approved snapshot."

def unresolvedAuthorizationBoundary : String :=
  "Authorization boundary unresolved: no authorization-boundary section was present in the approved snapshot."

def unresolvedInformationTypes : String :=
  "Information types unresolved: no information-type section was present in the approved snapshot."

def hs001Disclaimer : String :=
  "HS-001: Authority sources in docs/contracts/authority-manifest.json remain draft or pending review; this export " ++
    "does not assert authority qualification."

def hs002Disclaimer : String :=
  "HS-002: Agency template parity is not claimed; this export is draft working material from the internal SSP " ++
    "workspace."

def buildMetadata (s : ExportSnapshot) : Json :=
  .obj [("title", .str (s.displayName ++ " System Security Plan (Draft)")), ("last-modified", .str s.approvedAt),
    ("version", .str "draft"), ("oscal-version", .str "1.2.2"),
    ("props", .arr [exportProp "export-kind" "draft", exportProp "workspace-id" s.workspaceId,
      exportProp "revision-id" s.revisionId, exportProp "content-sha256" s.contentSha256,
      exportProp "profile-id" s.profileId, exportProp "profile-version" s.profileVersion,
      exportProp "hs-001-disclaimer" hs001Disclaimer, exportProp "hs-002-disclaimer" hs002Disclaimer])]

def buildSystemId (s : ExportSnapshot) : Json :=
  match s.externalSystemId.filter fun id => Py.strip id ≠ "" with
  | some id => .obj [("identifier-type", .str "https://ato-analyzer.local/id/system"), ("id", .str (Py.strip id))]
  | none => .obj [("identifier-type", .str "https://ato-analyzer.local/id/workspace"), ("id", .str s.workspaceId)]

def buildInformationTypes (information : Option ExportSection) (informationTypeUuid : String) : Json :=
  match information with
  | some x => .arr [.obj [("uuid", .str informationTypeUuid), ("title", .str (orElse x.title "Information Types")),
      ("description", .str (orElse (Py.strip x.content) unresolvedInformationTypes))]]
  | none => .arr [.obj [("uuid", .str informationTypeUuid), ("title", .str "Unresolved information types"),
      ("description", .str unresolvedInformationTypes)]]

def sectionResource (s : ExportSnapshot) (x : ExportSection) : Json :=
  .obj [("uuid", .str (stableUuid lib "back-matter-section"
      [s.workspaceId, s.revisionId, s.contentSha256, x.sectionId])),
    ("title", .str x.title), ("description", .str (orElse (Py.strip x.content) "No content provided.")),
    ("props", .arr [exportProp "source-section-id" x.sectionId])]

def questionResource (s : ExportSnapshot) (q : ExportQuestion) : Json :=
  .obj [("uuid", .str (stableUuid lib "back-matter-question"
      [s.workspaceId, s.revisionId, s.contentSha256, q.questionId])),
    ("title", .str ("Open question: " ++ q.target)),
    ("description", .str (q.question ++ " (owner: " ++ q.ownerType ++ ")")),
    ("props", .arr [exportProp "question-id" q.questionId, exportProp "question-status" q.status])]

def buildBackMatter (s : ExportSnapshot) (unmapped : List ExportSection) (questions : List ExportQuestion) :
    List (String × Json) :=
  let resources := unmapped.map (sectionResource lib s) ++ questions.map (questionResource lib s)
  if resources = [] then [] else [("back-matter", .obj [("resources", .arr resources)])]

def componentUuid (s : ExportSnapshot) : String := stableUuid lib "component" [s.workspaceId, s.contentSha256]

def informationTypeUuid (s : ExportSnapshot) : String :=
  stableUuid lib "information-type" [s.workspaceId, s.contentSha256]

/-- the text of a section that has a place of its own -/
def sectionText (x : Option ExportSection) (unresolved : String) : String :=
  match x with
  | some x => Py.strip x.content
  | none => unresolved

def systemCharacteristics (s : ExportSnapshot) (p : Partition) : Json :=
  .obj [("system-ids", .arr [buildSystemId s]), ("system-name", .str s.displayName),
    ("description", .str (sectionText p.purpose unresolvedSystemDescription)),
    ("system-information",
      .obj [("information-types", buildInformationTypes p.information (informationTypeUuid lib s))]),
    ("status", .obj [("state", .str "other"),
      ("remarks", .str ("Operational authorization status is unknown; this draft export does not assert an " ++
        "operational system."))]),
    ("authorization-boundary", .obj [("description", .str (sectionText p.boundary unresolvedAuthorizationBoundary))])]

def systemImplementation (s : ExportSnapshot) : Json :=
  .obj [("components", .arr [.obj [("uuid", .str (componentUuid lib s)), ("type", .str "this-system"),
    ("title", .str s.displayName),
    ("description", .str ("Synthetic OSCAL component representing the current system described by the approved " ++
      "workspace snapshot.")),
    ("status", .obj [("state", .str "other")])]])]

def controlImplementation (requirements : List Json) : Json :=
  .obj [("description", .str "Draft control implementation mapped from the approved internal SSP workspace snapshot."),
    ("implemented-requirements", .arr requirements)]

def buildOscalDocument (s : ExportSnapshot) (includeOpenQuestions : Bool) : Except OscalCatalogError Json := do
  let p := partitionSections lib s.sections
  let requirements ← s.controls.mapM (buildImplementedRequirement lib s (componentUuid lib s))
  return .obj [("system-security-plan", .obj <|
    [("uuid", .str (stableUuid lib "ssp" [s.workspaceId, s.revisionId])), ("metadata", buildMetadata s),
      ("import-profile",
        .obj [("href", .str ("urn:ato-analyzer:profile:" ++ s.profileId ++ ":" ++ s.profileVersion))]),
      ("system-characteristics", systemCharacteristics lib s p), ("system-implementation", systemImplementation lib s),
      ("control-implementation", controlImplementation requirements)] ++
    buildBackMatter lib s p.unmapped (if includeOpenQuestions then s.openQuestions else []))]

/-! ## Controls are read back -/

/-- what the export keeps of a control -/
structure ControlData where
  controlId : String
  state : String
  implementationStatus : String
  responsibility : String
  statement : String
  evidence : List String
deriving DecidableEq, Repr

def ExportControl.data (c : ExportControl) : ControlData :=
  ⟨lib.upper (Py.strip c.controlId), c.state, c.implementationStatus, c.responsibility,
    Py.strip c.implementationStatement, c.evidenceLinks⟩

/-- a member that is a string -/
def text? (key : String) (fields : List (String × Json)) : Option String := Json.member key fields >>= Json.asStr

/-- the values of the props of one name -/
def propValues (name : String) (props : List Json) : List String :=
  props.filterMap fun p =>
    p.asObj >>= fun fields => if text? "name" fields = some name then text? "value" fields else none

/-- the statement of a control, from where its responsibility puts it -/
def statementOf (responsibility implementationStatus : String) (fields : List (String × Json)) : String :=
  if responsibility = "inherited" then
    String.ofList (((Py.chars ((text? "remarks" fields).getD "")).drop
      ((Py.chars (inheritedLines responsibility implementationStatus)).length + 1)))
  else if responsibility ∈ ["system_specific", "hybrid"] then
    ((Json.member "by-components" fields >>= Json.asArr >>= List.head? >>= Json.asObj >>= text? "description")).getD ""
  else (text? "remarks" fields).getD ""

def recoverControl (requirement : Json) : Option ControlData := do
  let fields ← requirement.asObj
  let controlId ← text? "control-id" fields
  let props ← Json.member "props" fields >>= Json.asArr
  let state ← (propValues "workspace-control-state" props).head?
  let responsibility ← (propValues "responsibility" props).head?
  let status ← (propValues "implementation-status" props ++ propValues "implementation-status-unmapped" props).head?
  return ⟨controlId, state, status, responsibility, statementOf responsibility status fields,
    propValues "evidence-reference" props⟩

/-- the value at the end of a path of members -/
def at? (path : List String) (document : Json) : Option Json :=
  path.foldlM (fun value key => value.asObj >>= Json.member key) document

/-- every control is read back from its implemented requirement, in order -/
def ControlsKept (s : ExportSnapshot) (document : Json) : Prop :=
  ∃ requirements,
    at? ["system-security-plan", "control-implementation", "implemented-requirements"] document =
      some (.arr requirements) ∧
    List.Forall₂ (fun c requirement => recoverControl requirement = some (c.data lib)) s.controls requirements

/-! ## Sections are read back -/

inductive Place where
  | description
  | boundary
  | informationTypes
  | backMatter
deriving DecidableEq, Repr

/-- the description of a back-matter resource that was written for a section -/
def sectionDescription (resource : Json) : Option String := do
  let fields ← resource.asObj
  let props ← Json.member "props" fields >>= Json.asArr
  let _ ← (propValues "source-section-id" props).head?
  text? "description" fields

/-- the texts of a document at a place -/
def textsAt (document : Json) : Place → List String
  | .description =>
    (at? ["system-security-plan", "system-characteristics", "description"] document >>= Json.asStr).toList
  | .boundary =>
    (at? ["system-security-plan", "system-characteristics", "authorization-boundary", "description"] document >>=
      Json.asStr).toList
  | .informationTypes =>
    ((at? ["system-security-plan", "system-characteristics", "system-information", "information-types"] document >>=
      Json.asArr).getD []).filterMap fun entry => entry.asObj >>= text? "description"
  | .backMatter =>
    ((at? ["system-security-plan", "back-matter", "resources"] document >>= Json.asArr).getD []).filterMap
      sectionDescription

/-- the text of a section at a place; two of the places say so when it is empty -/
def shownAt (place : Place) (x : ExportSection) : String :=
  match place with
  | .description | .boundary => Py.strip x.content
  | .informationTypes => orElse (Py.strip x.content) unresolvedInformationTypes
  | .backMatter => orElse (Py.strip x.content) "No content provided."

/-- what stands at a place without a section -/
def unresolvedAt : Place → List String
  | .description => [unresolvedSystemDescription]
  | .boundary => [unresolvedAuthorizationBoundary]
  | .informationTypes => [unresolvedInformationTypes]
  | .backMatter => []

/-- the sections, each once, over the places of the document, and nothing else at the places -/
def SectionsPlaced (s : ExportSnapshot) (document : Json) : Prop :=
  ∃ placed : Place → List ExportSection,
    (placed .description ++ placed .boundary ++ placed .informationTypes ++ placed .backMatter).Perm s.sections ∧
    ∀ place, textsAt document place =
      if placed place = [] then unresolvedAt place else (placed place).map (shownAt place)

/-! ## Identifiers in a document -/

mutual

/-- the values of the members called `uuid`; a link to evidence refers to an identifier and is no member of this name -/
def uuids : Json → List String
  | .obj fs => uuidsFields fs
  | .arr xs => uuidsItems xs
  | _ => []

def uuidsItems : List Json → List String
  | [] => []
  | x :: xs => uuids x ++ uuidsItems xs

def uuidsFields : List (String × Json) → List String
  | [] => []
  | (key, v) :: fs => (if key = "uuid" then v.asStr.toList else []) ++ uuids v ++ uuidsFields fs

end

variable {lib}

theorem normalizeOscalControlId_ok {id : String} (h : Py.strip id ≠ "") :
    normalizeOscalControlId lib id = .ok (lib.upper (Py.strip id)) := by
  rw [normalizeOscalControlId, Results.ensure, if_pos h]
  rfl

attribute [local simp] Json.member_nil Json.member_cons

theorem propValues_cons (name name' value : String) (props : List Json) :
    propValues name (exportProp name' value :: props) =
      if name' = name then value :: propValues name props else propValues name props := by
  have hprop : ((exportProp name' value).asObj >>= fun fields =>
      if text? "name" fields = some name then text? "value" fields else none) =
        if name' = name then some value else none := by
    show (if text? "name" [("name", .str name'), ("ns", .str exportPropNs), ("value", .str value)] = some name then
      text? "value" [("name", .str name'), ("ns", .str exportPropNs), ("value", .str value)] else none) = _
    simp [text?, Json.asStr]
  rw [propValues, List.filterMap_cons, hprop, ← propValues]
  split_ifs <;> rfl

theorem propValues_map (name name' : String) (values : List String) :
    propValues name (values.map (exportProp name')) = if name' = name then values else [] := by
  induction values with
  | nil => simp [propValues]
  | cons v values ih =>
    rw [List.map_cons, propValues_cons, ih]
    split_ifs <;> rfl

theorem chars_append (a b : String) : Py.chars (a ++ b) = Py.chars a ++ Py.chars b := by
  rw [Py.chars_eq, Py.chars_eq, Py.chars_eq, String.toList_append]

theorem member_evidenceLinks {key : String} (hkey : key ≠ "links") (s : ExportSnapshot) (c : ExportControl) :
    Json.member key (evidenceLinks lib s c) = none := by
  unfold evidenceLinks
  split_ifs
  · rfl
  · rw [Json.member_cons, if_neg hkey.symm, Json.member_nil]

/-- the lines before the statement of an inherited control are taken off again -/
theorem drop_inheritedLines (c : ExportControl) (statement : String) :
    String.ofList ((Py.chars (inheritedControlRemarks c statement)).drop
      ((Py.chars (inheritedLines c.responsibility c.implementationStatus)).length + 1)) = statement := by
  unfold inheritedControlRemarks
  by_cases hempty : statement = ""
  · rw [if_pos hempty, List.drop_eq_nil_of_le (Nat.le_succ _), hempty]
  · have hspace : Py.chars " " = [' '] := by decide
    rw [if_neg hempty, chars_append, chars_append, hspace, List.append_assoc, List.drop_append,
      Nat.add_sub_cancel_left, List.drop_eq_nil_of_le (Nat.le_succ _)]
    show String.ofList (Py.chars statement) = statement
    rw [Py.chars_eq, String.ofList_toList]

/-- the props of an implemented requirement -/
def requirementProps (c : ExportControl) : List Json :=
  exportProp "workspace-control-state" c.state :: exportProp "responsibility" c.responsibility :: statusProp c ::
    c.evidenceLinks.map (exportProp "evidence-reference")

/-- the members that come before the statement -/
def requirementHead (lib : Library) (s : ExportSnapshot) (c : ExportControl) : List (String × Json) :=
  [("uuid", .str (stableUuid lib "implemented-requirement"
      [s.workspaceId, s.revisionId, s.contentSha256, lib.upper (Py.strip c.controlId)])),
    ("control-id", .str (lib.upper (Py.strip c.controlId))), ("props", .arr (requirementProps c))]

/-- the component that carries a statement, when one does -/
def componentFields (lib : Library) (s : ExportSnapshot) (c : ExportControl) (component : String) :
    List (String × Json) :=
  [("component-uuid", .str component),
    ("uuid", .str (stableUuid lib "by-component"
      [s.workspaceId, s.revisionId, s.contentSha256, lib.upper (Py.strip c.controlId)])),
    ("description", .str (Py.strip c.implementationStatement))] ++
  match oscalStatus? c.implementationStatus with
  | some status => [("implementation-status", .obj [("state", .str status)])]
  | none => []

/-- a control whose statement stands in a component -/
def HasComponent (c : ExportControl) : Prop :=
  c.responsibility ≠ "inherited" ∧ Py.strip c.implementationStatement ≠ "" ∧
    c.responsibility ∈ ["system_specific", "hybrid"]

instance (c : ExportControl) : Decidable (HasComponent c) := inferInstanceAs (Decidable (_ ∧ _ ∧ _))

def statementMembers (lib : Library) (s : ExportSnapshot) (c : ExportControl) (component : String) :
    List (String × Json) :=
  if HasComponent c then [("by-components", .arr [.obj (componentFields lib s c component)])]
  else if c.responsibility = "inherited" then
    [("remarks", .str (inheritedControlRemarks c (Py.strip c.implementationStatement)))]
  else if Py.strip c.implementationStatement ≠ "" then [("remarks", .str (Py.strip c.implementationStatement))]
  else []

/-- the implemented requirement of a control -/
def requirement (lib : Library) (s : ExportSnapshot) (component : String) (c : ExportControl) : Json :=
  .obj (requirementHead lib s c ++ statementMembers lib s c component ++ evidenceLinks lib s c)

theorem buildImplementedRequirement_ok {s : ExportSnapshot} {c : ExportControl} (component : String)
    (hnamed : Py.strip c.controlId ≠ "") :
    buildImplementedRequirement lib s component c = .ok (requirement lib s component c) := by
  have hstatement : statementFields lib s c component = .ok (statementMembers lib s c component) := by
    unfold statementFields statementMembers
    by_cases hinherited : c.responsibility = "inherited"
    · rw [if_pos hinherited, if_neg fun h => h.1 hinherited, if_pos hinherited]
      rfl
    · rw [if_neg hinherited]
      by_cases hsystem : Py.strip c.implementationStatement ≠ "" ∧ c.responsibility ∈ ["system_specific", "hybrid"]
      · rw [if_pos hsystem, if_pos ⟨hinherited, hsystem⟩, buildByComponent, normalizeOscalControlId_ok hnamed]
        rfl
      · rw [if_neg hsystem, if_neg fun h : HasComponent c => hsystem h.2, if_neg hinherited]
        split_ifs <;> rfl
  rw [buildImplementedRequirement, normalizeOscalControlId_ok hnamed, hstatement]
  rfl

theorem statementOf_requirement (s : ExportSnapshot) (component : String) (c : ExportControl) :
    statementOf c.responsibility c.implementationStatus
        (requirementHead lib s c ++ statementMembers lib s c component ++ evidenceLinks lib s c) =
      Py.strip c.implementationStatement := by
  have hremarks : Json.member "remarks" (evidenceLinks lib s c) = none := member_evidenceLinks (by decide) s c
  have hcomponents : Json.member "by-components" (evidenceLinks lib s c) = none := member_evidenceLinks (by decide) s c
  unfold statementMembers
  by_cases hcomponent : HasComponent c
  · have hdescription : text? "description" (componentFields lib s c component) =
        some (Py.strip c.implementationStatement) := by
      simp [text?, componentFields, Json.asStr]
    rw [if_pos hcomponent, statementOf, if_neg hcomponent.1, if_pos hcomponent.2.2]
    simp [requirementHead, Json.asArr, Json.asObj, hdescription]
  · rw [if_neg hcomponent]
    by_cases hinherited : c.responsibility = "inherited"
    · rw [if_pos hinherited, statementOf, if_pos hinherited]
      simp [requirementHead, text?, Json.asStr, drop_inheritedLines]
    · rw [if_neg hinherited]
      by_cases hempty : Py.strip c.implementationStatement = ""
      · rw [if_neg (not_not_intro hempty), statementOf, if_neg hinherited, hempty]
        split_ifs
        · simp [requirementHead, hcomponents]
        · simp [requirementHead, text?, hremarks]
      · have hother : c.responsibility ∉ ["system_specific", "hybrid"] := fun h => hcomponent ⟨hinherited, hempty, h⟩
        rw [if_pos hempty, statementOf, if_neg hinherited, if_neg hother]
        simp [requirementHead, text?, Json.asStr]

/-- the status stands under one of two names -/
theorem propValues_statusProp (c : ExportControl) (props : List Json) :
    propValues "implementation-status" (statusProp c :: props) ++
        propValues "implementation-status-unmapped" (statusProp c :: props) =
      (if oscalStatus? c.implementationStatus = none then [] else [c.implementationStatus]) ++
        propValues "implementation-status" props ++
        ((if oscalStatus? c.implementationStatus = none then [c.implementationStatus] else []) ++
        propValues "implementation-status-unmapped" props) := by
  unfold statusProp
  cases oscalStatus? c.implementationStatus with
  | none => simp [propValues_cons]
  | some status => simp [propValues_cons]

theorem propValues_statusProp_ne {name : String} (hmapped : "implementation-status" ≠ name)
    (hunmapped : "implementation-status-unmapped" ≠ name) (c : ExportControl) (props : List Json) :
    propValues name (statusProp c :: props) = propValues name props := by
  unfold statusProp
  cases oscalStatus? c.implementationStatus with
  | none => exact (propValues_cons _ _ _ _).trans (if_neg hunmapped)
  | some status => exact (propValues_cons _ _ _ _).trans (if_neg hmapped)

/-- **A control is read back** from its implemented requirement. -/
theorem recover_requirement (s : ExportSnapshot) (component : String) (c : ExportControl) :
    recoverControl (requirement lib s component c) = some (c.data lib) := by
  have hid : text? "control-id"
      (requirementHead lib s c ++ statementMembers lib s c component ++ evidenceLinks lib s c) =
      some (lib.upper (Py.strip c.controlId)) := by
    simp [requirementHead, text?, Json.asStr]
  have hprops : Json.member "props"
      (requirementHead lib s c ++ statementMembers lib s c component ++ evidenceLinks lib s c) =
      some (.arr (requirementProps c)) := by
    simp [requirementHead]
  have hstate : propValues "workspace-control-state" (requirementProps c) = [c.state] := by
    simp [requirementProps, propValues_cons, propValues_map, propValues_statusProp_ne]
  have hresponsibility : propValues "responsibility" (requirementProps c) = [c.responsibility] := by
    simp [requirementProps, propValues_cons, propValues_map, propValues_statusProp_ne]
  have hevidence : propValues "evidence-reference" (requirementProps c) = c.evidenceLinks := by
    simp [requirementProps, propValues_cons, propValues_map, propValues_statusProp_ne]
  have hstatus : (propValues "implementation-status" (requirementProps c) ++
      propValues "implementation-status-unmapped" (requirementProps c)).head? = some c.implementationStatus := by
    simp only [requirementProps, propValues_cons, String.reduceEq, if_false, propValues_statusProp, propValues_map]
    split_ifs <;> rfl
  rw [requirement, recoverControl]
  simp only [Json.asObj, hid, hprops, hstatus, hstate, hresponsibility, hevidence, Json.asArr, Option.bind_eq_bind,
    Option.bind_some, List.head?_cons, statementOf_requirement]
  rfl

/-! ## Sections in the document -/

/-- the sections that a partition holds -/
def Partition.all (p : Partition) : List ExportSection :=
  p.purpose.toList ++ p.boundary.toList ++ p.information.toList ++ p.unmapped

theorem place_all (p : Partition) (x : ExportSection) : (place lib p x).all.Perm (p.all ++ [x]) := by
  obtain ⟨purpose, boundary, information, unmapped⟩ := p
  have hmiddle (xs ys : List ExportSection) : (xs ++ [x] ++ ys).Perm (xs ++ ys ++ [x]) := by
    rw [List.append_assoc, List.append_assoc]
    exact (List.perm_append_comm).append_left xs
  unfold place
  split_ifs with hpurpose hboundary hinformation
  · obtain rfl : purpose = none := by simpa using (Bool.and_eq_true_iff.1 hpurpose).1
    simpa [Partition.all] using hmiddle [] (boundary.toList ++ information.toList ++ unmapped)
  · obtain rfl : boundary = none := by simpa using (Bool.and_eq_true_iff.1 hboundary).1
    simpa [Partition.all] using hmiddle purpose.toList (information.toList ++ unmapped)
  · obtain rfl : information = none := by simpa using (Bool.and_eq_true_iff.1 hinformation).1
    simpa [Partition.all] using hmiddle (purpose.toList ++ boundary.toList) unmapped
  · simp [Partition.all]

/-- no section is lost and none is placed twice -/
theorem partitionSections_all (sections : List ExportSection) : (partitionSections lib sections).all.Perm sections := by
  have hrun (p : Partition) : (sections.foldl (place lib) p).all.Perm (p.all ++ sections) := by
    induction sections generalizing p with
    | nil => simp
    | cons x xs ih =>
      rw [List.foldl_cons, List.append_cons]
      exact (ih (place lib p x)).trans ((place_all p x).append_right xs)
  exact hrun {}

/-- the document of a snapshot -/
def documentOf (lib : Library) (s : ExportSnapshot) (questions : List ExportQuestion) : Json :=
  .obj [("system-security-plan", .obj <|
    [("uuid", .str (stableUuid lib "ssp" [s.workspaceId, s.revisionId])), ("metadata", buildMetadata s),
      ("import-profile",
        .obj [("href", .str ("urn:ato-analyzer:profile:" ++ s.profileId ++ ":" ++ s.profileVersion))]),
      ("system-characteristics", systemCharacteristics lib s (partitionSections lib s.sections)),
      ("system-implementation", systemImplementation lib s),
      ("control-implementation", controlImplementation (s.controls.map (requirement lib s (componentUuid lib s))))] ++
    buildBackMatter lib s (partitionSections lib s.sections).unmapped questions)]

theorem buildOscalDocument_ok (s : ExportSnapshot) (includeOpenQuestions : Bool) :
    buildOscalDocument lib s includeOpenQuestions =
      .ok (documentOf lib s (if includeOpenQuestions then s.openQuestions else [])) := by
  have hcontrols : s.controls.mapM (buildImplementedRequirement lib s (componentUuid lib s)) =
      .ok (s.controls.map (requirement lib s (componentUuid lib s))) := by
    rw [Results.mapM_eq_ok, List.forall₂_map_right_iff, List.forall₂_same]
    intro c hc
    exact buildImplementedRequirement_ok _ (s.controls_named c hc)
  rw [buildOscalDocument, hcontrols]
  rfl

theorem controlsKept (s : ExportSnapshot) (questions : List ExportQuestion) :
    ControlsKept lib s (documentOf lib s questions) := by
  refine ⟨s.controls.map (requirement lib s (componentUuid lib s)), ?_, ?_⟩
  · simp [at?, documentOf, controlImplementation, Json.asObj]
  · rw [List.forall₂_map_right_iff, List.forall₂_same]
    intro c _
    exact recover_requirement s _ c

theorem sectionDescription_sectionResource (s : ExportSnapshot) (x : ExportSection) :
    sectionDescription (sectionResource lib s x) = some (orElse (Py.strip x.content) "No content provided.") := by
  simp [sectionDescription, sectionResource, Json.asObj, Json.asArr, propValues_cons, text?, Json.asStr]

theorem sectionDescription_questionResource (s : ExportSnapshot) (q : ExportQuestion) :
    sectionDescription (questionResource lib s q) = none := by
  have hprops : propValues "source-section-id"
      [exportProp "question-id" q.questionId, exportProp "question-status" q.status] = [] := by
    rw [propValues_cons, if_neg (by decide), propValues_cons, if_neg (by decide)]
    rfl
  simp [sectionDescription, questionResource, Json.asObj, Json.asArr, hprops]

theorem textsAt_backMatter (s : ExportSnapshot) (questions : List ExportQuestion) :
    textsAt (documentOf lib s questions) .backMatter =
      (partitionSections lib s.sections).unmapped.map fun x => orElse (Py.strip x.content) "No content provided." := by
  have hsections (xs : List ExportSection) : (xs.map (sectionResource lib s)).filterMap sectionDescription =
      xs.map fun x => orElse (Py.strip x.content) "No content provided." := by
    induction xs with
    | nil => rfl
    | cons x xs ih =>
      rw [List.map_cons, List.filterMap_cons_some (sectionDescription_sectionResource s x), ih, List.map_cons]
  have hquestions : (questions.map (questionResource lib s)).filterMap sectionDescription = [] := by
    rw [List.filterMap_eq_nil_iff, List.forall_mem_map]
    intro q _
    exact sectionDescription_questionResource s q
  have hall := hsections (partitionSections lib s.sections).unmapped
  unfold documentOf
  by_cases hempty : (partitionSections lib s.sections).unmapped.map (sectionResource lib s) ++
      questions.map (questionResource lib s) = []
  · have hback : buildBackMatter lib s (partitionSections lib s.sections).unmapped questions = [] := if_pos hempty
    obtain ⟨hnil, -⟩ := List.append_eq_nil_iff.1 hempty
    rw [hback, List.map_eq_nil_iff.1 hnil]
    simp [textsAt, at?, Json.asObj]
  · have hback : buildBackMatter lib s (partitionSections lib s.sections).unmapped questions =
        [("back-matter", .obj [("resources",
          .arr ((partitionSections lib s.sections).unmapped.map (sectionResource lib s) ++
            questions.map (questionResource lib s)))])] := if_neg hempty
    rw [hback]
    simp [textsAt, at?, Json.asObj, Json.asArr, hall, hquestions]

/-- every place shows the sections that the partition puts there -/
theorem sectionsPlaced (s : ExportSnapshot) (questions : List ExportQuestion) :
    SectionsPlaced s (documentOf lib s questions) := by
  set p := partitionSections lib s.sections with hp
  refine ⟨fun
    | .description => p.purpose.toList
    | .boundary => p.boundary.toList
    | .informationTypes => p.information.toList
    | .backMatter => p.unmapped, partitionSections_all s.sections, ?_⟩
  intro place
  cases place with
  | description =>
    have htexts : textsAt (documentOf lib s questions) .description =
        [sectionText p.purpose unresolvedSystemDescription] := by
      simp [textsAt, at?, documentOf, systemCharacteristics, Json.asObj, Json.asStr, hp]
    rw [htexts]
    cases p.purpose <;> rfl
  | boundary =>
    have htexts : textsAt (documentOf lib s questions) .boundary =
        [sectionText p.boundary unresolvedAuthorizationBoundary] := by
      simp [textsAt, at?, documentOf, systemCharacteristics, Json.asObj, Json.asStr, hp]
    rw [htexts]
    cases p.boundary <;> rfl
  | informationTypes =>
    have hentries : textsAt (documentOf lib s questions) .informationTypes =
        ((buildInformationTypes p.information (informationTypeUuid lib s)).asArr.getD []).filterMap
          fun entry => entry.asObj >>= text? "description" := by
      simp [textsAt, at?, documentOf, systemCharacteristics, Json.asObj, hp]
    rw [hentries]
    cases p.information <;>
      simp [buildInformationTypes, Json.asArr, Json.asObj, text?, Json.asStr, unresolvedAt, shownAt]
  | backMatter =>
    rw [textsAt_backMatter]
    cases p.unmapped <;> rfl

/-! ## Identifiers in the document -/

/-- what an identifier is made for -/
inductive Subject where
  | document
  | component
  | informationType
  | requirement (controlId : String)
  | byComponent (controlId : String)
  | section_ (sectionId : String)
  | question (questionId : String)
deriving DecidableEq, Repr

namespace Subject

def kind : Subject → String
  | document => "ssp"
  | component => "component"
  | informationType => "information-type"
  | requirement _ => "implemented-requirement"
  | byComponent _ => "by-component"
  | section_ _ => "back-matter-section"
  | question _ => "back-matter-question"

def parts (s : ExportSnapshot) : Subject → List String
  | document => [s.workspaceId, s.revisionId]
  | component => [s.workspaceId, s.contentSha256]
  | informationType => [s.workspaceId, s.contentSha256]
  | requirement id => [s.workspaceId, s.revisionId, s.contentSha256, id]
  | byComponent id => [s.workspaceId, s.revisionId, s.contentSha256, id]
  | section_ id => [s.workspaceId, s.revisionId, s.contentSha256, id]
  | question id => [s.workspaceId, s.revisionId, s.contentSha256, id]

def uuid (lib : Library) (s : ExportSnapshot) (x : Subject) : String := stableUuid lib x.kind (x.parts s)

theorem colon_notMem_kind (x : Subject) : ':' ∉ Py.chars x.kind := by
  cases x <;> exact of_decide_eq_true rfl

/-- the kind is read off before the first colon -/
theorem takeWhile_material (s : ExportSnapshot) (x : Subject) :
    (material x.kind (x.parts s)).takeWhile (· ≠ ':') = Py.chars x.kind := by
  have hsplit : ∃ rest, material x.kind (x.parts s) = Py.chars x.kind ++ ':' :: rest := by
    cases x <;> exact ⟨_, List.append_assoc _ _ _⟩
  obtain ⟨rest, hrest⟩ := hsplit
  have hkind : ∀ c ∈ Py.chars x.kind, decide (c ≠ ':') = true := by
    intro c hc
    exact decide_eq_true fun h => x.colon_notMem_kind (h ▸ hc)
  rw [hrest, List.takeWhile_append_of_pos hkind, List.takeWhile_cons_of_neg (by simp), List.append_nil]

theorem chars_injective : Function.Injective Py.chars := by
  intro a b h
  rw [Py.chars_eq, Py.chars_eq] at h
  exact String.toList_injective h

/-- different parts of a document have different names -/
theorem material_injective (s : ExportSnapshot) :
    Function.Injective fun x : Subject => material x.kind (x.parts s) := by
  intro x y h
  have hkind : x.kind = y.kind := by
    apply chars_injective
    rw [← takeWhile_material s x, ← takeWhile_material s y, show material x.kind _ = material y.kind _ from h]
  have hlast {kind a b : String} (h : material kind [s.workspaceId, s.revisionId, s.contentSha256, a] =
      material kind [s.workspaceId, s.revisionId, s.contentSha256, b]) : a = b := by
    apply chars_injective
    simpa [material, joinText] using h
  cases x <;> cases y <;> first
    | rfl
    | (simp [kind] at hkind; done)
    | exact congrArg _ (hlast h)

end Subject

section Identifiers

variable (lib)

/-- the parts of a requirement that have an identifier -/
def requirementSubjects (c : ExportControl) : List Subject :=
  .requirement (c.data lib).controlId :: if HasComponent c then [.byComponent (c.data lib).controlId] else []

/-- the parts of the document that have an identifier -/
def subjects (s : ExportSnapshot) (questions : List ExportQuestion) : List Subject :=
  [.document, .informationType, .component] ++ s.controls.flatMap (requirementSubjects lib) ++
    ((partitionSections lib s.sections).unmapped.map (fun x => .section_ x.sectionId) ++
      questions.map fun q => .question q.questionId)

end Identifiers

theorem uuidsItems_eq (xs : List Json) : uuidsItems xs = xs.flatMap uuids := by
  induction xs with
  | nil => rw [uuidsItems, List.flatMap_nil]
  | cons x xs ih => rw [uuidsItems, ih, List.flatMap_cons]

theorem uuidsFields_append (fs gs : List (String × Json)) :
    uuidsFields (fs ++ gs) = uuidsFields fs ++ uuidsFields gs := by
  induction fs with
  | nil => simp [uuidsFields]
  | cons f fs ih => simp [uuidsFields, ih]

theorem uuids_exportProp (name value : String) : uuids (exportProp name value) = [] := by
  simp [exportProp, uuids, uuidsFields]

theorem uuids_requirement (s : ExportSnapshot) (component : String) (c : ExportControl) :
    uuids (requirement lib s component c) = (requirementSubjects lib c).map (Subject.uuid lib s) := by
  have hprops : (requirementProps c).flatMap uuids = [] := by
    have hstatus : uuids (statusProp c) = [] := by
      unfold statusProp
      cases oscalStatus? c.implementationStatus <;> exact uuids_exportProp _ _
    rw [requirementProps, List.flatMap_cons, List.flatMap_cons, List.flatMap_cons, uuids_exportProp, uuids_exportProp,
      hstatus, List.flatMap_eq_nil_iff.2 ?_]
    · rfl
    · rw [List.forall_mem_map]
      intro _ _
      exact uuids_exportProp _ _
  have hlinks : uuidsFields (evidenceLinks lib s c) = [] := by
    unfold evidenceLinks
    split_ifs
    · rfl
    · simp [uuidsFields, uuids, uuidsItems_eq]
  have hstatement : uuidsFields (statementMembers lib s c component) =
      if HasComponent c then [Subject.uuid lib s (.byComponent (c.data lib).controlId)] else [] := by
    unfold statementMembers
    split_ifs
    · unfold componentFields
      cases oscalStatus? c.implementationStatus <;> simp [uuidsFields, uuids, uuidsItems, Json.asStr] <;> rfl
    · simp [uuidsFields, uuids]
    · simp [uuidsFields, uuids]
    · rfl
  have hhead : uuidsFields (requirementHead lib s c) = [Subject.uuid lib s (.requirement (c.data lib).controlId)] := by
    simp [requirementHead, uuidsFields, uuids, uuidsItems_eq, hprops, Json.asStr]
    rfl
  rw [requirement, uuids, uuidsFields_append, uuidsFields_append, hhead, hstatement, hlinks, requirementSubjects]
  split_ifs <;> rfl

theorem uuids_sectionResource (s : ExportSnapshot) (x : ExportSection) :
    uuids (sectionResource lib s x) = [Subject.uuid lib s (.section_ x.sectionId)] := by
  simp [sectionResource, uuids, uuidsFields, uuidsItems, uuids_exportProp, Json.asStr]
  rfl

theorem uuids_questionResource (s : ExportSnapshot) (q : ExportQuestion) :
    uuids (questionResource lib s q) = [Subject.uuid lib s (.question q.questionId)] := by
  simp [questionResource, uuids, uuidsFields, uuidsItems, uuids_exportProp, Json.asStr]
  rfl

theorem uuidsFields_buildBackMatter (s : ExportSnapshot) (unmapped : List ExportSection)
    (questions : List ExportQuestion) :
    uuidsFields (buildBackMatter lib s unmapped questions) =
      (unmapped.map fun x => Subject.section_ x.sectionId).map (Subject.uuid lib s) ++
        (questions.map fun q => Subject.question q.questionId).map (Subject.uuid lib s) := by
  have hresources : (unmapped.map (sectionResource lib s) ++ questions.map (questionResource lib s)).flatMap uuids =
      (unmapped.map fun x => Subject.section_ x.sectionId).map (Subject.uuid lib s) ++
        (questions.map fun q => Subject.question q.questionId).map (Subject.uuid lib s) := by
    simp [List.flatMap_map, uuids_sectionResource, uuids_questionResource, ← List.map_eq_flatMap, Function.comp_def]
  by_cases hempty : unmapped.map (sectionResource lib s) ++ questions.map (questionResource lib s) = []
  · rw [← hresources, show buildBackMatter lib s unmapped questions = [] from if_pos hempty, hempty]
    rfl
  · rw [← hresources, show buildBackMatter lib s unmapped questions = _ from if_neg hempty]
    simp [uuidsFields, uuids, uuidsItems_eq]

/-- the identifiers in a document are those of its parts -/
theorem uuids_documentOf (s : ExportSnapshot) (questions : List ExportQuestion) :
    uuids (documentOf lib s questions) = (subjects lib s questions).map (Subject.uuid lib s) := by
  have hmetadata : uuids (buildMetadata s) = [] := by
    simp [buildMetadata, uuids, uuidsFields, uuidsItems, uuids_exportProp]
  have hcharacteristics (p : Partition) :
      uuids (systemCharacteristics lib s p) = [Subject.uuid lib s .informationType] := by
    have hsystem : uuids (buildSystemId s) = [] := by
      unfold buildSystemId
      split <;> rfl
    have hinformation (x : Option ExportSection) :
        uuids (buildInformationTypes x (informationTypeUuid lib s)) = [Subject.uuid lib s .informationType] := by
      cases x <;> rfl
    simp [systemCharacteristics, uuids, uuidsFields, uuidsItems, hsystem, hinformation]
  have himplementation : uuids (systemImplementation lib s) = [Subject.uuid lib s .component] := by
    simp [systemImplementation, uuids, uuidsFields, uuidsItems, Json.asStr]
    rfl
  have hcontrols : uuids (controlImplementation (s.controls.map (requirement lib s (componentUuid lib s)))) =
      (s.controls.flatMap (requirementSubjects lib)).map (Subject.uuid lib s) := by
    simp [controlImplementation, uuids, uuidsFields, uuidsItems_eq, List.flatMap_map, uuids_requirement,
      List.map_flatMap]
  rw [documentOf, uuids, uuidsFields, uuidsFields, uuids, uuidsFields_append, uuidsFields_buildBackMatter]
  simp only [uuidsFields, uuids, hmetadata, hcharacteristics, himplementation, hcontrols, subjects, List.map_append,
    Json.asStr]
  simp [Subject.uuid, Subject.kind, Subject.parts]

theorem requirementSubjects_nodup (c : ExportControl) : (requirementSubjects lib c).Nodup := by
  unfold requirementSubjects
  split_ifs <;> simp

/-- the parts of two controls differ where their normalized identifiers do -/
theorem disjoint_requirementSubjects {c d : ExportControl} :
    (requirementSubjects lib c).Disjoint (requirementSubjects lib d) ↔
      (c.data lib).controlId ≠ (d.data lib).controlId := by
  constructor
  · intro h hsame
    exact h List.mem_cons_self (by rw [requirementSubjects, hsame]; exact List.mem_cons_self)
  · intro hne
    unfold requirementSubjects
    split_ifs <;> simp [hne, hne.symm]

theorem flatMap_requirementSubjects_nodup (controls : List ExportControl) :
    (controls.flatMap (requirementSubjects lib)).Nodup ↔ (controls.map fun c => (c.data lib).controlId).Nodup := by
  rw [List.nodup_flatMap, List.nodup_iff_pairwise_ne (l := controls.map _), List.pairwise_map]
  constructor
  · rintro ⟨-, hpairs⟩
    exact hpairs.imp fun h => disjoint_requirementSubjects.1 h
  · intro hpairs
    exact ⟨fun c _ => requirementSubjects_nodup c, hpairs.imp fun h => disjoint_requirementSubjects.2 h⟩

/-- what a part is of: the document itself, a requirement, a section or a question -/
def Subject.group : Subject → Nat
  | .document | .informationType | .component => 0
  | .requirement _ | .byComponent _ => 1
  | .section_ _ => 2
  | .question _ => 3

theorem disjoint_of_group {xs ys : List Subject} (m n : Nat) (hmn : m ≠ n) (hxs : ∀ x ∈ xs, x.group = m)
    (hys : ∀ y ∈ ys, y.group = n) : xs.Disjoint ys := by
  intro x hx hy
  exact hmn ((hxs x hx).symm.trans (hys x hy))

theorem group_requirementSubjects {controls : List ExportControl} :
    ∀ x ∈ controls.flatMap (requirementSubjects lib), x.group = 1 := by
  intro x hx
  obtain ⟨c, -, hx⟩ := List.mem_flatMap.1 hx
  rw [requirementSubjects] at hx
  split_ifs at hx <;> simp at hx
  · rcases hx with rfl | rfl <;> rfl
  · rw [hx]
    rfl

/-- the parts of a document are distinct where its controls are -/
theorem subjects_nodup (s : ExportSnapshot) {questions : List ExportQuestion}
    (hquestions : (questions.map ExportQuestion.questionId).Nodup) :
    (subjects lib s questions).Nodup ↔ (s.controls.map fun c => (c.data lib).controlId).Nodup := by
  have hplaced : ((partitionSections lib s.sections).all.map ExportSection.sectionId).Nodup :=
    ((partitionSections_all s.sections).map _).nodup_iff.2 s.sections_distinct
  have hunmapped : ((partitionSections lib s.sections).unmapped.map fun x => Subject.section_ x.sectionId).Nodup := by
    rw [Partition.all, List.map_append] at hplaced
    have hids := hplaced.of_append_right
    rw [show (fun x : ExportSection => Subject.section_ x.sectionId) = Subject.section_ ∘ ExportSection.sectionId
      from rfl, ← List.map_map]
    exact hids.map fun _ _ h => Subject.section_.inj h
  have hasked : (questions.map fun q => Subject.question q.questionId).Nodup := by
    rw [show (fun q : ExportQuestion => Subject.question q.questionId) = Subject.question ∘ ExportQuestion.questionId
      from rfl, ← List.map_map]
    exact hquestions.map fun _ _ h => Subject.question.inj h
  rw [← flatMap_requirementSubjects_nodup, subjects, List.nodup_append', List.nodup_append', List.nodup_append']
  constructor
  · rintro ⟨⟨-, hcontrols, -⟩, -⟩
    exact hcontrols
  · intro hcontrols
    have hwhole : ∀ x ∈ [Subject.document, .informationType, .component], x.group = 0 := by decide
    have hsections : ∀ x ∈ (partitionSections lib s.sections).unmapped.map fun x => Subject.section_ x.sectionId,
        x.group = 2 := List.forall_mem_map.2 fun _ _ => rfl
    have hquestion : ∀ x ∈ questions.map fun q => Subject.question q.questionId, x.group = 3 :=
      List.forall_mem_map.2 fun _ _ => rfl
    have hcontrol : ∀ x ∈ s.controls.flatMap (requirementSubjects lib), x.group = 1 := group_requirementSubjects
    refine ⟨⟨by decide, hcontrols, disjoint_of_group 0 1 (by decide) hwhole hcontrol⟩,
      ⟨hunmapped, hasked, disjoint_of_group 2 3 (by decide) hsections hquestion⟩, ?_⟩
    rw [List.disjoint_append_left, List.disjoint_append_right, List.disjoint_append_right]
    exact ⟨⟨disjoint_of_group 0 2 (by decide) hwhole hsections, disjoint_of_group 0 3 (by decide) hwhole hquestion⟩,
      disjoint_of_group 1 2 (by decide) hcontrol hsections, disjoint_of_group 1 3 (by decide) hcontrol hquestion⟩

/-- **The identifiers of a document are distinct** if and only if those of its controls are. -/
theorem uuids_nodup_iff (huuid : Function.Injective lib.uuid5) (s : ExportSnapshot) {questions : List ExportQuestion}
    (hquestions : (questions.map ExportQuestion.questionId).Nodup) :
    (uuids (documentOf lib s questions)).Nodup ↔
      (s.controls.map fun c => lib.upper (Py.strip c.controlId)).Nodup := by
  have hinjective : Function.Injective (Subject.uuid lib s) := huuid.comp (Subject.material_injective s)
  rw [uuids_documentOf, List.nodup_map_iff hinjective]
  exact subjects_nodup s hquestions

/-! ## The export -/

/-- the questions that an export shows -/
theorem questions_nodup (s : ExportSnapshot) (includeOpenQuestions : Bool) :
    ((if includeOpenQuestions then s.openQuestions else []).map ExportQuestion.questionId).Nodup := by
  split_ifs
  · exact s.questions_distinct
  · exact List.nodup_nil

/-- **Nothing is lost in an export** whose normalized control identifiers are distinct, and only there. -/
theorem oscal_lossless_iff (lib : Library) (huuid : Function.Injective lib.uuid5) (s : ExportSnapshot)
    (includeOpenQuestions : Bool) :
    (∃ document, buildOscalDocument lib s includeOpenQuestions = .ok document ∧ ControlsKept lib s document ∧
      SectionsPlaced s document ∧ (uuids document).Nodup) ↔
      (s.controls.map fun c => lib.upper (Py.strip c.controlId)).Nodup := by
  have hbuild : buildOscalDocument lib s includeOpenQuestions = .ok (documentOf lib s _) :=
    buildOscalDocument_ok s includeOpenQuestions
  have hnodup := uuids_nodup_iff huuid s (questions_nodup s includeOpenQuestions)
  constructor
  · rintro ⟨document, hdocument, -, -, hdistinct⟩
    obtain rfl : documentOf lib s _ = document := Except.ok.inj (hbuild.symm.trans hdocument)
    exact hnodup.1 hdistinct
  · intro hdistinct
    exact ⟨_, hbuild, controlsKept s _, sectionsPlaced s _, hnodup.2 hdistinct⟩

namespace TwoControls

/-- ASCII letters only -/
def library : Library where
  casefold t := String.ofList ((Py.chars t).map Char.toLower)
  upper t := String.ofList ((Py.chars t).map Char.toUpper)
  uuid5 := String.ofList

theorem uuid5_injective : Function.Injective library.uuid5 := fun _ _ h => String.ofList_injective h

/-- an export of one section and two controls, under the given identifiers -/
def snapshot (first second : String) (hfirst : Py.strip first ≠ "") (hsecond : Py.strip second ≠ "") :
    ExportSnapshot where
  workspaceId := "w1"
  revisionId := "r1"
  contentSha256 := "00"
  approvedAt := "2026-01-01T00:00:00Z"
  displayName := "System"
  externalSystemId := none
  profileId := "fisma"
  profileVersion := "1"
  sections := [⟨"purpose", "Purpose", "Pays travel claims."⟩]
  controls := [⟨first, "drafted", "implemented", "system_specific", "Accounts are reviewed.", []⟩,
    ⟨second, "drafted", "planned", "inherited", "", ["e1"]⟩]
  openQuestions := []
  sections_distinct := by decide
  controls_named := by
    intro c hc
    rcases List.mem_pair.1 hc with rfl | rfl
    · exact hfirst
    · exact hsecond
  questions_distinct := List.nodup_nil

def distinct : ExportSnapshot := snapshot "AC-1" "AC-2" (by decide) (by decide)

def colliding : ExportSnapshot := snapshot "AC-1" "ac-1" (by decide) (by decide)

end TwoControls

theorem oscal_lossless_iff_two :
    Function.Injective TwoControls.library.uuid5 ∧
      ∃ document, buildOscalDocument TwoControls.library TwoControls.distinct false = .ok document ∧
        ControlsKept TwoControls.library TwoControls.distinct document ∧
        SectionsPlaced TwoControls.distinct document ∧ (uuids document).Nodup :=
  ⟨TwoControls.uuid5_injective,
    (oscal_lossless_iff TwoControls.library TwoControls.uuid5_injective TwoControls.distinct false).2 (by decide)⟩

/-- the requirements of `AC-1` and `ac-1` have one identifier -/
theorem oscal_collision :
    ¬∃ document, buildOscalDocument TwoControls.library TwoControls.colliding false = .ok document ∧
      ControlsKept TwoControls.library TwoControls.colliding document ∧
      SectionsPlaced TwoControls.colliding document ∧ (uuids document).Nodup := by
  rintro ⟨document, hdocument, -, -, hdistinct⟩
  have hbuild : buildOscalDocument TwoControls.library TwoControls.colliding false =
      .ok (documentOf TwoControls.library TwoControls.colliding []) := buildOscalDocument_ok _ false
  obtain rfl := Except.ok.inj (hbuild.symm.trans hdocument)
  have hnone : (([] : List ExportQuestion).map ExportQuestion.questionId).Nodup := by decide
  have hids := (uuids_nodup_iff TwoControls.uuid5_injective TwoControls.colliding hnone).1 hdistinct
  revert hids
  decide

end AtoService.Workspace.Oscal
