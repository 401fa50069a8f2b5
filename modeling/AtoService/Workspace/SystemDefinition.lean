/-
The structured authorization boundary, component inventory and interconnection register, and the status fact of their
confirmation.

The three are kept as JSON texts of sections. `toSectionJson` and its companions write them, `parseAuthorizationBoundary`
and its companions read them back, and `applySystemDefinitionSections` writes all of them and records the confirmation.
An identifier that an entry lacks is drawn by `uuid4`; it is passed in as `fresh`.
-/
import AtoService.Lib.JsonLoads
import AtoService.Workspace.Categorization
import AtoService.Workspace.Document

namespace AtoService.Workspace

open AtoService.Py

namespace SystemDefinition

def statusKey : String := "system.system_definition_status"

def staleTriggerSectionKeys : List String :=
  ["system.authorization_boundary", "system.components", "system.interconnections"]

end SystemDefinition

/-! ## Registers -/

structure DiagramLink where
  artifactId : Uuid
  locator : List (String × Json)
  label : String := ""
deriving Repr

structure AuthorizationBoundary where
  narrative : String
  diagramLinks : List DiagramLink
deriving Repr

structure SystemComponent where
  componentId : String
  name : String
  purpose : String
  placement : String
  evidence : List EvidenceLink
deriving Repr

structure Interconnection where
  interconnectionId : String
  connectedOrganization : String
  connectedSystem : String
  direction : String
  dataTypes : List String
  interfaceProtocol : String
  connectionOwner : String
  agreementType : String
  agreementId : String
  agreementStatus : String
  agreementExpiration : String
  boundaryProtections : String
  evidence : List EvidenceLink
deriving Repr

/-- `dict(sorted(locator.items()))` -/
def sortedLocator (l : List (String × Json)) : List (String × Json) := KeyedList.sorted Prod.fst l

def evidenceJson (ls : List EvidenceLink) : Json :=
  .arr (ls.map fun l => .obj [("artifact_id", .str l.artifactId.str), ("locator", .obj (sortedLocator l.locator))])

namespace DiagramLink

def toDict (l : DiagramLink) : List (String × Json) :=
  [("artifact_id", .str l.artifactId.str), ("locator", .obj (sortedLocator l.locator))] ++
    if hasText l.label then [("label", .str (strip l.label))] else []

end DiagramLink

namespace AuthorizationBoundary

def toDict (b : AuthorizationBoundary) : Json :=
  .obj [("narrative", .str (strip b.narrative)),
    ("diagram_links", .arr (b.diagramLinks.map fun l => .obj l.toDict))]

def toSectionJson (b : AuthorizationBoundary) : String := String.ofList (b.toDict.dumps .spaced)

end AuthorizationBoundary

namespace SystemComponent

def toDict (c : SystemComponent) : List (String × Json) :=
  [("component_id", .str c.componentId), ("name", .str (strip c.name)), ("purpose", .str (strip c.purpose)),
    ("placement", .str c.placement), ("evidence", evidenceJson c.evidence)]

end SystemComponent

namespace Interconnection

def toDict (i : Interconnection) : List (String × Json) :=
  [("interconnection_id", .str i.interconnectionId),
    ("connected_organization", .str (strip i.connectedOrganization)),
    ("connected_system", .str (strip i.connectedSystem)), ("direction", .str i.direction),
    ("data_types", .arr ((i.dataTypes.filter hasText).map fun t => .str (strip t))),
    ("interface_protocol", .str (strip i.interfaceProtocol)), ("connection_owner", .str (strip i.connectionOwner)),
    ("agreement_type", .str (strip i.agreementType)), ("agreement_id", .str (strip i.agreementId)),
    ("agreement_status", .str (strip i.agreementStatus)),
    ("agreement_expiration", .str (strip i.agreementExpiration)),
    ("boundary_protections", .str (strip i.boundaryProtections)), ("evidence", evidenceJson i.evidence)]

end Interconnection

def componentsJson (components : List SystemComponent) : String :=
  String.ofList ((Json.obj [("components", .arr (components.map fun c => .obj c.toDict))]).dumps .spaced)

def interconnectionsJson (interconnections : List Interconnection) : String :=
  String.ofList
    ((Json.obj [("interconnections", .arr (interconnections.map fun i => .obj i.toDict))]).dumps .spaced)

/-- one line for each diagram link -/
def diagramReferenceLines (b : AuthorizationBoundary) : String :=
  "\n".intercalate (b.diagramLinks.map fun l =>
    "- " ++ (if hasText l.label then strip l.label else l.artifactId.str) ++ " (" ++
      String.ofList ((Json.obj l.locator).dumps .spaced) ++ ")")

/-! ## Reading -/

/-- `json.loads(content)` of a section text; a failure to parse is a `ValueError` with `detail` -/
def loadsSection (content detail : String) : Except Err Json :=
  match JsonText.loads (Py.chars content) with
  | some v => .ok v
  | none => raise .valueError detail

/-- `str(value or default)` of an optional member that is a string or missing -/
def truthyStr (v : Option Json) (pyStr : Json → String) (default : String) : String :=
  match v with
  | none | some .null | some (.bool false) | some (.int 0) | some (.arr []) | some (.obj []) => default
  | some (.str "") => default
  | some (.str s) => s
  | some (.float (.finite d)) => if d.coeff = 0 then default else pyStr (.float (.finite d))
  | some v => pyStr v

/-- `uuid.UUID(text)`, a `ValueError` when it is badly formed -/
def uuidOf (text : String) : Except Err Uuid :=
  match Uuid.parse text with
  | some u => .ok u
  | none => raise .valueError "badly formed hexadecimal UUID string"

/-- `_parse_evidence_links` -/
def parseEvidenceLinks : Option Json → Except Err (List EvidenceLink)
  | none | some .null => .ok []
  | some (.arr entries) => entries.mapM entry
  | some _ => raise .valueError "evidence must be an array"
where
  entry : Json → Except Err EvidenceLink
    | .obj fs =>
      match Json.member "artifact_id" fs, Json.member "locator" fs with
      | some (.str id), some (.obj (p :: ps)) => do
        let artifactId ← uuidOf id
        return ⟨artifactId, p :: ps, List.cons_ne_nil p ps⟩
      | _, _ => raise .valueError "evidence entries require artifact_id and locator"
    | _ => raise .valueError "evidence entries must be objects"

section

-- `fresh n` is what `uuid4` draws for the `n`-th entry
variable (host : Host) (fresh : Nat → String)

def parseAuthorizationBoundary (content : String) : Except Err (Option AuthorizationBoundary) :=
  if !hasText content then .ok none
  else
    match JsonText.loads (Py.chars content) with
    | none => .ok (some ⟨strip content, []⟩)
    | some (.obj fs) => do
      let narrative ←
        match (Json.member "narrative" fs).getD (.str "") with
        | .str s => .ok s
        | _ => raise .valueError "authorization boundary narrative must be a string"
      let entries ←
        match (Json.member "diagram_links" fs).getD (.arr []) with
        | .arr entries => .ok entries
        | _ => raise .valueError "diagram_links must be an array"
      let links ← entries.mapM link
      return some ⟨narrative, links⟩
    | some _ => raise .valueError "authorization boundary must be a JSON object"
where
  link : Json → Except Err DiagramLink
    | .obj fs =>
      match Json.member "artifact_id" fs, Json.member "locator" fs with
      | some (.str id), some (.obj (p :: ps)) => do
        let artifactId ← uuidOf id
        return ⟨artifactId, p :: ps, truthyStr (Json.member "label" fs) host.pyStr ""⟩
      | _, _ => raise .valueError "diagram_links require artifact_id and locator"
    | _ => raise .valueError "diagram_links entries must be objects"

def parseComponent : Json × Nat → Except Err SystemComponent
  | (.obj fs, n) =>
    match Json.member "name" fs, Json.member "purpose" fs, Json.member "placement" fs with
    | some (.str name), some (.str purpose), some (.str placement) => do
      let evidence ← parseEvidenceLinks (Json.member "evidence" fs)
      return ⟨truthyStr (Json.member "component_id" fs) host.pyStr (fresh n), name, purpose, placement, evidence⟩
    | _, _, _ => raise .valueError "component name, purpose, and placement are required"
  | _ => raise .valueError "component entries must be objects"

def parseComponentInventory (content : String) : Except Err (List SystemComponent) :=
  if !hasText content then .ok []
  else do
    let payload ← loadsSection content "component inventory must be JSON"
    match payload with
    | .obj fs =>
      match (Json.member "components" fs).getD (.arr []) with
      | .arr entries => entries.zipIdx.mapM (parseComponent host fresh)
      | _ => raise .valueError "components must be an array"
    | _ => raise .valueError "component inventory must be a JSON object"

/-- `str(item)` of an entry of `data_types` -/
def pyStrOf : Json → String
  | .str s => s
  | v => host.pyStr v

def parseInterconnection : Json × Nat → Except Err Interconnection
  | (.obj fs, n) => do
    let text := fun key => truthyStr (Json.member key fs) host.pyStr ""
    let dataTypes ←
      match (Json.member "data_types" fs).getD (.arr []) with
      | .arr items => .ok (((items.map (pyStrOf host)).filter hasText).map strip)
      | _ => raise .valueError "interconnection data_types must be an array"
    let direction ←
      match Json.member "direction" fs with
      | some (.str d) => .ok d
      | _ => raise .valueError "interconnection direction is required"
    let evidence ← parseEvidenceLinks (Json.member "evidence" fs)
    return {
      interconnectionId := truthyStr (Json.member "interconnection_id" fs) host.pyStr (fresh n)
      connectedOrganization := text "connected_organization"
      connectedSystem := text "connected_system"
      direction := direction
      dataTypes := dataTypes
      interfaceProtocol := text "interface_protocol"
      connectionOwner := text "connection_owner"
      agreementType := text "agreement_type"
      agreementId := text "agreement_id"
      agreementStatus := text "agreement_status"
      agreementExpiration := text "agreement_expiration"
      boundaryProtections := text "boundary_protections"
      evidence := evidence }
  | _ => raise .valueError "interconnection entries must be objects"

def parseInterconnectionRegister (content : String) : Except Err (List Interconnection) :=
  if !hasText content then .ok []
  else do
    let payload ← loadsSection content "interconnection register must be JSON"
    match payload with
    | .obj fs =>
      match (Json.member "interconnections" fs).getD (.arr []) with
      | .arr entries => entries.zipIdx.mapM (parseInterconnection host fresh)
      | _ => raise .valueError "interconnections must be an array"
    | _ => raise .valueError "interconnection register must be a JSON object"

end

/-! ## Validation -/

def validateAuthorizationBoundary (b : AuthorizationBoundary) : Except Err Unit :=
  if (strip b.narrative).length < 20 then
    raise .valueError "authorization boundary narrative requires at least 20 characters"
  else if b.diagramLinks.any fun l => l.locator.isEmpty then
    raise .valueError "diagram links require a non-empty locator"
  else .ok ()

def componentError (c : SystemComponent) : Option String :=
  if !hasText c.name then some "each component requires a name"
  else if !hasText c.purpose then some "each component requires a purpose"
  else if c.placement ∉ ["inside", "outside", "crossing"] then
    some "component placement must be inside, outside, or crossing"
  else none

def validateComponentInventory (cs : List SystemComponent) : Except Err Unit :=
  if cs.isEmpty then raise .valueError "at least one system component is required"
  else
    match cs.findSome? componentError with
    | some detail => raise .valueError detail
    | none => .ok ()

def interconnectionError (i : Interconnection) : Option String :=
  if [i.connectedOrganization, i.connectedSystem, i.interfaceProtocol, i.connectionOwner, i.agreementType,
      i.boundaryProtections].any fun t => !hasText t then
    some "interconnection required text fields cannot be empty"
  else if i.dataTypes.isEmpty then some "each interconnection requires at least one data type"
  else if i.direction ∉ ["inbound", "outbound", "bidirectional"] then
    some "interconnection direction must be inbound, outbound, or bidirectional"
  else none

def validateInterconnectionRegister (is : List Interconnection) : Except Err Unit :=
  if is.isEmpty then raise .valueError "at least one interconnection is required"
  else
    match is.findSome? interconnectionError with
    | some detail => raise .valueError detail
    | none => .ok ()

theorem findSome?_checked {α : Type} {f : α → Option String} {xs : List α} :
    (match xs.findSome? f with
      | some detail => raise .valueError detail
      | none => .ok () : Except Err Unit) = .ok () ↔ ∀ x ∈ xs, f x = none := by
  rw [← List.findSome?_eq_none_iff]
  cases xs.findSome? f <;> simp

theorem validateComponentInventory_eq_ok {cs : List SystemComponent} :
    validateComponentInventory cs = .ok () ↔ cs ≠ [] ∧ ∀ c ∈ cs, componentError c = none := by
  rw [validateComponentInventory]
  cases cs with
  | nil => simp
  | cons c cs =>
    rw [if_neg (by simp)]
    exact findSome?_checked.trans (and_iff_right (List.cons_ne_nil c cs)).symm

theorem validateInterconnectionRegister_eq_ok {is : List Interconnection} :
    validateInterconnectionRegister is = .ok () ↔ is ≠ [] ∧ ∀ i ∈ is, interconnectionError i = none := by
  rw [validateInterconnectionRegister]
  cases is with
  | nil => simp
  | cons i is =>
    rw [if_neg (by simp)]
    exact findSome?_checked.trans (and_iff_right (List.cons_ne_nil i is)).symm

/-! ## The confirmation -/

/-- a status other than the three known ones counts as none -/
def knownStatus (status : Option String) : Option String :=
  status.filter fun s => s == "unconfirmed" || s == "confirmed" || s == "stale"

def activeSystemDefinitionStatus (facts : List FactContent) : Option String :=
  knownStatus (activeText SystemDefinition.statusKey facts)

/-- mark one confirmation stale when one of its sections changes -/
def markConfirmationStale (triggers : List String) (statusKey : String) (content : RevisionContent)
    (sectionKey : String) : RevisionContent :=
  if sectionKey ∉ triggers ∨ knownStatus (activeText statusKey content.factDict) ≠ some "confirmed" then content
  else { content with facts := sortFacts (putFact (.isso statusKey (.str "stale")) content.factDict) }

def markSystemDefinitionStaleIfNeeded (content : RevisionContent) (sectionKey : String) : RevisionContent :=
  markConfirmationStale SystemDefinition.staleTriggerSectionKeys SystemDefinition.statusKey content sectionKey

/-- the three registers of one confirmation -/
structure SystemDefinitionInput where
  boundary : AuthorizationBoundary
  components : List SystemComponent
  interconnections : List Interconnection
deriving Repr

namespace SystemDefinitionInput

/-- the texts of the sections that a confirmation writes, in the order in which they are written -/
def sectionTexts (i : SystemDefinitionInput) : List (String × String) :=
  [("system.authorization_boundary", i.boundary.toSectionJson), ("system.components", componentsJson i.components),
    ("system.interconnections", interconnectionsJson i.interconnections),
    ("system.diagram_references", diagramReferenceLines i.boundary)]

end SystemDefinitionInput

/-- the section with a register's text, which the ISSO entered -/
def writeRegister (text : String) (current : SectionContent) : Except Err SectionContent :=
  validated SectionContent.firstError
    { current with content := text, state := if hasText text then .edited else .empty }

/-- write each text into its section, when the profile has it -/
def writeRegisters (sections : List SectionContent) : List (String × String) → Except Err (List SectionContent)
  | [] => .ok sections
  | (key, text) :: updates =>
    match getSection key sections with
    | none => writeRegisters sections updates
    | some current => do
      let s ← writeRegister text current
      writeRegisters (putSection s sections) updates

def applySystemDefinitionSections (content : RevisionContent) (i : SystemDefinitionInput) :
    Except Err RevisionContent := do
  let sections ← writeRegisters content.sectionDict i.sectionTexts
  let facts := putFact (.isso SystemDefinition.statusKey (.str "confirmed")) content.factDict
  return { content with sections := sortSections sections, facts := sortFacts facts }

end AtoService.Workspace
