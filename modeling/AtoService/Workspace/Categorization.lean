/-
FIPS 199 categorization: the facts a confirmation writes, the status fact, staleness, and the impact level that selects
the control baseline.

A revision's facts are read as the dictionary keyed by `key`. `markCategorizationStaleIfNeeded` is called after an edit
of a section; it touches the status and the provisional impact only.
-/
import AtoService.Workspace.Profiles

namespace AtoService.Workspace

open AtoService.Py

/-! ## The dictionaries of a revision -/

namespace RevisionContent

/-- `{item.key: item for item in content.facts}` -/
def factDict (c : RevisionContent) : List FactContent := KeyedList.ofList FactContent.key c.facts

def sectionDict (c : RevisionContent) : List SectionContent := KeyedList.ofList SectionContent.key c.sections

def controlDict (c : RevisionContent) : List ControlContent := KeyedList.ofList ControlContent.controlId c.controls

def questionDict (c : RevisionContent) : List QuestionContent := KeyedList.ofList QuestionContent.idKey c.questions

end RevisionContent

def getFact (key : String) (facts : List FactContent) : Option FactContent := KeyedList.get? FactContent.key key facts

def putFact (f : FactContent) (facts : List FactContent) : List FactContent := KeyedList.put FactContent.key f facts

def sortFacts (facts : List FactContent) : List FactContent := KeyedList.sorted FactContent.key facts

def getSection (key : String) (sections : List SectionContent) : Option SectionContent :=
  KeyedList.get? SectionContent.key key sections

def putSection (s : SectionContent) (sections : List SectionContent) : List SectionContent :=
  KeyedList.put SectionContent.key s sections

def sortSections (sections : List SectionContent) : List SectionContent :=
  KeyedList.sorted SectionContent.key sections

def getControl (id : String) (controls : List ControlContent) : Option ControlContent :=
  KeyedList.get? ControlContent.controlId id controls

def putControl (c : ControlContent) (controls : List ControlContent) : List ControlContent :=
  KeyedList.put ControlContent.controlId c controls

def sortControls (controls : List ControlContent) : List ControlContent :=
  KeyedList.sorted ControlContent.controlId controls

def sortQuestions (questions : List QuestionContent) : List QuestionContent :=
  KeyedList.sorted QuestionContent.idKey questions

/-! ## Categorization -/

namespace Categorization

/-- sections whose edits invalidate a confirmed FIPS 199 categorization -/
def staleTriggerSectionKeys : List String := ["system.purpose", "system.authorization_boundary", "system.data_types"]

def impactFactKeys : List String :=
  ["system.confidentiality_impact", "system.integrity_impact", "system.availability_impact"]

def rationaleFactKeys : List String :=
  ["system.confidentiality_impact_rationale", "system.integrity_impact_rationale",
    "system.availability_impact_rationale"]

def statusKey : String := "system.categorization_status"

end Categorization

open Categorization

structure CategorizationEvidenceInput where
  confidentiality : List EvidenceLink
  integrity : List EvidenceLink
  availability : List EvidenceLink

/-- the value of the fact at `key`, when it is active and a string -/
def activeText (key : String) (facts : List FactContent) : Option String :=
  match getFact key facts with
  | some f => if f.state = .active then f.value.asStr else none
  | none => none

def activeCategorizationStatus (facts : List FactContent) : Option String := activeText statusKey facts

/-- the facts of a confirmed categorization that went stale: the selected impact stays visible as provisional -/
def staleCategorizationFacts (facts : List FactContent) : List FactContent :=
  let facts := putFact (.isso statusKey (.str "stale")) facts
  match getFact "system.impact_level" facts with
  | some impact => putFact (.isso "system.provisional_impact_level" impact.value) facts
  | none => facts

/-- mark confirmed categorization stale when a trigger section changes -/
def markCategorizationStaleIfNeeded (content : RevisionContent) (sectionKey : String) : RevisionContent :=
  if sectionKey ∉ staleTriggerSectionKeys ∨ activeCategorizationStatus content.factDict ≠ some "confirmed" then content
  else { content with facts := sortFacts (staleCategorizationFacts content.factDict) }

def categorizationError {α : Type} (detail field : String) : Except Err α :=
  .error { cls := .categorizationValidation, detail, field }

def validateCategorizationImpacts (confidentiality integrity availability : String) : Except Err Unit :=
  match [("confidentiality", confidentiality), ("integrity", integrity), ("availability", availability)].find?
      fun p => !isImpactLevel p.2 with
  | some p => categorizationError "Select low, moderate, or high for each security objective." p.1
  | none => .ok ()

/-- the stripped rationales, in the order of the objectives -/
def validateCategorizationRationales (confidentiality integrity availability : String) :
    Except Err (String × String × String) :=
  match [("confidentiality_rationale", strip confidentiality), ("integrity_rationale", strip integrity),
      ("availability_rationale", strip availability)].find? fun p => p.2 == "" with
  | some p => categorizationError "Enter a rationale for each security objective." p.1
  | none => .ok (strip confidentiality, strip integrity, strip availability)

def validateCategorizationEvidence (e : CategorizationEvidenceInput) : Except Err Unit :=
  match [("confidentiality", e.confidentiality), ("integrity", e.integrity), ("availability", e.availability)].find?
      fun p => p.2.isEmpty with
  | some p => categorizationError ("Select at least one processed artifact for " ++ p.1 ++ " evidence.")
      (p.1 ++ "_evidence")
  | none => .ok ()

/-- the order of the impact levels; called on validated levels only -/
def impactRank (s : String) : Nat := if s = "high" then 2 else if s = "moderate" then 1 else 0

/-- `max((c, i, a), key=rank)`: the first of the highest -/
def highWaterMarkImpact (confidentiality integrity availability : String) : String :=
  let first := if impactRank confidentiality < impactRank integrity then integrity else confidentiality
  if impactRank first < impactRank availability then availability else first

structure CategorizationInput where
  confidentiality : String
  integrity : String
  availability : String
  rationales : String × String × String
  evidence : CategorizationEvidenceInput

/-- the facts of a confirmation, in the order in which they are written -/
def buildConfirmedCategorizationFacts (i : CategorizationInput) : List FactContent :=
  [.isso statusKey (.str "confirmed"),
    { FactContent.isso "system.confidentiality_impact" (.str i.confidentiality) with
      evidence := i.evidence.confidentiality },
    { FactContent.isso "system.integrity_impact" (.str i.integrity) with evidence := i.evidence.integrity },
    { FactContent.isso "system.availability_impact" (.str i.availability) with evidence := i.evidence.availability },
    .isso "system.confidentiality_impact_rationale" (.str i.rationales.1),
    .isso "system.integrity_impact_rationale" (.str i.rationales.2.1),
    .isso "system.availability_impact_rationale" (.str i.rationales.2.2)]

/-! ## The impact level -/

/-- `_confirmed_impact_level(content)` -/
def confirmedImpactLevel (content : RevisionContent) : Option String :=
  let facts := KeyedList.ofList FactContent.key (content.facts.filter fun f => f.state = .active)
  if activeCategorizationStatus facts ≠ some "confirmed" then none
  else
    (content.facts.find? fun f =>
      (f.key = "system.impact_level" ∨ f.key = "impact_level") && (f.value.asStr.any isImpactLevel)).bind
      fun f => f.value.asStr

/-- `_impact_level(content)`: the confirmed level, else the first provisional or selected level, else moderate -/
def impactLevel (content : RevisionContent) : String :=
  match confirmedImpactLevel content with
  | some level => level
  | none =>
    match content.facts.find? fun f =>
        f.state = .active &&
          (f.key = "system.provisional_impact_level" ∨ f.key = "system.impact_level" ∨ f.key = "impact_level") &&
          (f.value.asStr.any isImpactLevel) with
    | some f => (f.value.asStr).getD "moderate"
    | none => "moderate"

end AtoService.Workspace
