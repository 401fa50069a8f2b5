/-
System definition proposals from an architecture diagram.

`DiagramAnalysisResult` is the checked output of the vision model. `buildSystemDefinitionFromAnalysis` maps it to
registers and `applySystemDefinitionProposal` writes them as a draft: the same sections as a confirmation, generated and
with the status "unconfirmed".
-/
import AtoService.Workspace.SystemDefinition

namespace AtoService.Workspace

open AtoService.Py

inductive Confidence where
  | high | medium | low
deriving DecidableEq, Repr

/-- the identifiers of components and interconnections are never empty: the parser draws missing ones -/
structure DiagramComponent where
  componentId : String
  name : String
  purpose : String
  placement : String
  confidence : Confidence
deriving DecidableEq, Repr

structure DiagramInterconnection where
  interconnectionId : String
  connectedOrganization : String
  connectedSystem : String
  direction : String
  dataTypes : List String
  interfaceProtocol : String
  confidence : Confidence
deriving DecidableEq, Repr

structure DiagramConflict where
  field : String
  diagramValue : String
  textValue : String
  note : String
deriving DecidableEq, Repr

structure DiagramAnalysisResult where
  boundaryNarrative : String
  components : List DiagramComponent
  interconnections : List DiagramInterconnection
  conflicts : List DiagramConflict
  attempts : Nat
  repairAttempted : Bool
deriving DecidableEq, Repr

/-- the place in an artifact that a diagram was read from -/
structure DiagramSource where
  link : EvidenceLink
  displayFilename : String
  sha256 : String
deriving Repr

def buildSystemDefinitionFromAnalysis (a : DiagramAnalysisResult) (src : DiagramSource) : SystemDefinitionInput where
  boundary :=
    { narrative := a.boundaryNarrative
      diagramLinks := [⟨src.link.artifactId, src.link.locator, src.displayFilename⟩] }
  components := a.components.map fun c =>
    { componentId := c.componentId
      name := c.name
      purpose := c.purpose
      placement := c.placement
      evidence := [src.link] }
  interconnections := a.interconnections.map fun i =>
    { interconnectionId := i.interconnectionId
      connectedOrganization := i.connectedOrganization
      connectedSystem := i.connectedSystem
      direction := i.direction
      dataTypes := i.dataTypes
      interfaceProtocol := i.interfaceProtocol
      connectionOwner := "Pending ISSO review"
      agreementType := "Pending ISSO review"
      agreementId := ""
      agreementStatus := ""
      agreementExpiration := ""
      boundaryProtections := "Pending ISSO review"
      evidence := [src.link] }

def proposalMetadataFromAnalysis (a : DiagramAnalysisResult) (src : DiagramSource) (sourceRevisionId : Uuid) : Json :=
  let low := fun c : Confidence => decide (c = .low)
  .obj [("source", .str "diagram_analysis"), ("analysis_status", .str "semantic_analysis_complete"),
    ("artifact_id", .str src.link.artifactId.str), ("display_filename", .str src.displayFilename),
    ("locator", .obj src.link.locator), ("component_count", .int a.components.length),
    ("interconnection_count", .int a.interconnections.length),
    ("low_confidence_component_count", .int (a.components.countP fun c => low c.confidence)),
    ("low_confidence_interconnection_count", .int (a.interconnections.countP fun i => low i.confidence)),
    ("conflict_count", .int a.conflicts.length), ("attempts", .int a.attempts),
    ("repair_attempted", .bool a.repairAttempted),
    ("conflicts", .arr (a.conflicts.map fun c => .obj [("field", .str c.field),
      ("diagram_value", .str c.diagramValue), ("text_value", .str c.textValue), ("note", .str c.note)])),
    ("artifact_sha256", .str src.sha256), ("source_revision_id", .str sourceRevisionId.str)]

def proposalKey : String := "system.system_definition_proposal"

/-- the evidence of a proposal: its first diagram link -/
def proposalEvidence (b : AuthorizationBoundary) : List EvidenceLink :=
  match b.diagramLinks with
  | l :: _ => if h : l.locator ≠ [] then [⟨l.artifactId, l.locator, h⟩] else []
  | [] => []

/-- mark the sections of a proposal as generated, when the profile has them -/
def markGenerated (sections : List SectionContent) : List String → Except Err (List SectionContent)
  | [] => .ok sections
  | key :: keys =>
    match getSection key sections with
    | none => markGenerated sections keys
    | some current => do
      let s ← validated SectionContent.firstError { current with state := .generated }
      markGenerated (putSection s sections) keys

def proposalSectionKeys : List String :=
  ["system.authorization_boundary", "system.components", "system.interconnections", "system.diagram_references"]

/-- write an agent-derived system definition draft without ISSO confirmation -/
def applySystemDefinitionProposal (content : RevisionContent) (i : SystemDefinitionInput) (metadata : Json) :
    Except Err RevisionContent := do
  let updated ← applySystemDefinitionSections content i
  let evidence := proposalEvidence i.boundary
  let status ← validated FactContent.firstError
    { key := SystemDefinition.statusKey, value := .str "unconfirmed", provenance := .agentGenerated, evidence }
  let proposal ← validated FactContent.firstError
    { key := proposalKey, value := .str (String.ofList (metadata.dumps .spaced)), provenance := .agentGenerated,
      evidence }
  let sections ← markGenerated updated.sectionDict proposalSectionKeys
  return { updated with
    facts := sortFacts (putFact proposal (putFact status updated.factDict))
    sections := sortSections sections }

end AtoService.Workspace
