/-
Pure revision transforms: generation output, categorization proposals, agent patches, direct edits and answers.

Each takes loaded content and returns the content to save, or raises. A dictionary of items is a list keyed by the item's
own key; it is written back sorted.
-/
import AtoService.Workspace.Policy

namespace AtoService.Workspace

open AtoService.Py

/-! ## Identities -/

/-- `re.sub(r"\s+", " ", text)`; `blank` says that the run before was already replaced -/
def collapseBlanks : Bool → List Char → List Char
  | _, [] => []
  | blank, c :: cs =>
    if isSpace c then (if blank then collapseBlanks true cs else ' ' :: collapseBlanks true cs)
    else c :: collapseBlanks false cs

/-- the last hexadecimal digit of a number -/
def lastDigit (n : Nat) : Fin 16 := ⟨n % 16, Nat.mod_lt n (by decide)⟩

/-- the two hexadecimal digits of a byte -/
def byteDigits (b : Nat) : List (Fin 16) := [lastDigit (b / 16), lastDigit b]

/-- `c2d1fae7-5965-477f-867d-41279b8f989d` -/
def questionNamespace : List Nat :=
  [0xc2, 0xd1, 0xfa, 0xe7, 0x59, 0x65, 0x47, 0x7f, 0x86, 0x7d, 0x41, 0x27, 0x9b, 0x8f, 0x98, 0x9d]

/-- `uuid.uuid5(namespace, name)`: the SHA-1 digest with the version and variant digits set -/
def uuid5 (namespaceBytes : List Nat) (name : String) : Uuid :=
  let ds := (Sha.sha1 (namespaceBytes ++ Sha.utf8 (Py.chars name))).flatMap byteDigits
  ⟨(List.range 32).map fun i =>
      let d := ds.getD i (lastDigit 0)
      if i = 12 then lastDigit 5 else if i = 16 then lastDigit (d.val % 4 + 8) else d,
    by rw [List.length_map, List.length_range]⟩

section

variable (host : Host)

/-- the stable deduplication key of a generated question -/
def deterministicQuestionKey (targetType : TargetType) (targetId question : String) : String :=
  let normalized := host.casefold (String.ofList (collapseBlanks false (Py.chars (strip question))))
  let source := targetType.value ++ "\n" ++ host.casefold (strip targetId) ++ "\n" ++ normalized
  "q_" ++ String.ofList ((Py.chars (Sha.sha256Hex (Py.chars source))).take 24)

def questionIdentity (q : QuestionContent) : String := deterministicQuestionKey host q.targetType q.targetKey q.question

/-! ## Evidence of supporting facts -/

/-- the key of a link: its artifact, whose text has a fixed length, and its locator -/
def linkKey (l : EvidenceLink) : String := l.artifactId.str ++ host.reprItems l.locator

/-- the links of the facts, gathered by key -/
def gatherLinks (facts : List FactContent) : List String → List EvidenceLink → Except Err (List EvidenceLink)
  | [], links => .ok links
  | id :: ids, links =>
    match getFact id facts with
    | none => raise .workspaceEdit ("unknown supporting fact: " ++ id)
    | some f => gatherLinks facts ids (KeyedList.update (linkKey host) links f.evidence)

def evidenceForFacts (factIds : List String) (facts : List FactContent) : Except Err (List EvidenceLink) := do
  let links ← gatherLinks host facts factIds []
  return KeyedList.sorted (linkKey host) links

/-! ## Questions that a section answers -/

def directAnswerSectionKeys : List String :=
  ["system.name", "system.identifier", "system.owner", "system.isso", "system.impact_level"]

def directSectionAnswer (targetType : TargetType) (targetKey : String) (sections : List SectionContent) :
    Option String :=
  if targetType ≠ .sspSection ∨ targetKey ∉ directAnswerSectionKeys then none
  else
    match getSection targetKey sections with
    | none => none
    | some s => if hasText s.content then some (strip s.content) else none

def resolveDirectSectionQuestions (questions : List QuestionContent) (sections : List SectionContent) :
    Except Err (List QuestionContent) :=
  questions.mapM fun q =>
    match directSectionAnswer q.targetType q.targetKey sections with
    | some answer =>
      if q.state = .opened then validated QuestionContent.firstError { q with state := .answered, answer := some answer }
      else .ok q
    | none => .ok q

/-- the owner types that a question may have; a profile may allow others -/
def ownerTypeOf (s : String) : Option OwnerType :=
  [OwnerType.agency, .technical, .isso, .systemOwner, .other].find? fun o => o.value == s

def openQuestion (g : GeneratedQuestion) : Except Err QuestionContent :=
  match ownerTypeOf g.ownerType with
  | none => raise .validation "Input should be 'agency', 'technical', 'isso', 'system_owner' or 'other'"
  | some ownerType =>
    validated QuestionContent.firstError {
      questionId := uuid5 questionNamespace g.questionKey
      question := g.question
      targetType := g.targetType
      targetKey := g.targetId
      ownerType }

/-- add the questions that `skip` does not pass over -/
def addQuestions (skip : GeneratedQuestion → Bool) (gs : List GeneratedQuestion) (questions : List QuestionContent) :
    Except Err (List QuestionContent) :=
  (gs.filter fun g => !skip g).foldlM (fun qs g => do
    let q ← openQuestion g
    return KeyedList.put QuestionContent.idKey q qs) questions

/-! ## Generation -/

/-- a confirmed status, or an impact level that was selected -/
def categorizationIsConfirmed (facts : List FactContent) : Bool :=
  facts.any fun f =>
    (f.key == Categorization.statusKey && f.value.asStr == some "confirmed") ||
      f.key == "system.impact_level" || f.key == "impact_level"

/-- the facts of a proposal, in the order in which they are written -/
def proposedValues (g : GeneratedCategorization) : List (String × String) :=
  [("system.confidentiality_impact", g.confidentiality), ("system.integrity_impact", g.integrity),
    ("system.availability_impact", g.availability),
    ("system.confidentiality_impact_rationale", g.confidentialityRationale),
    ("system.integrity_impact_rationale", g.integrityRationale),
    ("system.availability_impact_rationale", g.availabilityRationale)]

def applyCategorizationProposalToFacts (facts : List FactContent) (g : GeneratedCategorization) :
    Except Err (List FactContent) := do
  ensure (!categorizationIsConfirmed facts) .workspaceEdit "categorization is already confirmed"
  let evidence ← evidenceForFacts host g.supportingFactIds facts
  (proposedValues g).foldlM (fun facts p => do
    let f ← validated FactContent.firstError
      { key := p.1, value := .str p.2, provenance := .agentGenerated, evidence }
    return putFact f facts) facts

/-- store one grounded categorization proposal until ISSO confirmation -/
def mergeCategorizationProposal (content : RevisionContent) (g : GeneratedCategorization) :
    Except Err RevisionContent := do
  let facts ← applyCategorizationProposalToFacts host content.factDict g
  return { content with facts := sortFacts facts }

/-- one generated section; a section the ISSO edited or reviewed is passed over -/
def mergeSection (facts : List FactContent) (sections : List SectionContent) (g : GeneratedSection) :
    Except Err (List SectionContent) :=
  match getSection g.sectionId sections with
  | none => raise .workspaceEdit ("unknown SSP section: " ++ g.sectionId)
  | some current =>
    if current.state = .edited ∨ current.state = .reviewed then .ok sections
    else do
      let evidence ← evidenceForFacts host g.supportingFactIds facts
      let s ← validated SectionContent.firstError { current with
        content := g.content
        state := if hasText g.content then .generated else .empty
        evidence }
      return putSection s sections

/-- one generated control; a reviewed control is passed over -/
def mergeControl (facts : List FactContent) (controls : List ControlContent) (g : GeneratedControl) :
    Except Err (List ControlContent) :=
  match getControl g.controlId controls with
  | none => raise .workspaceEdit ("unknown control: " ++ g.controlId)
  | some current =>
    if current.state = .reviewed then .ok controls
    else do
      let hasStatement := hasText g.implementationStatement
      let evidence ← evidenceForFacts host g.supportingFactIds facts
      let c ← validated ControlContent.firstError { current with
        implementationStatus := some g.implementationStatus
        responsibility := some g.responsibility
        implementationStatement := g.implementationStatement
        state := if hasStatement then .generated else .partly
        evidence
        unresolvedReason := if hasStatement then none else some "Information is not available." }
      return putControl c controls

/-- the facts after a generation; a proposal over a confirmed categorization is passed over -/
def generationFacts (facts : List FactContent) : Option GeneratedCategorization → Except Err (List FactContent)
  | some g => if categorizationIsConfirmed facts then .ok facts else applyCategorizationProposalToFacts host facts g
  | none => .ok facts

/-- merge grounded generation output without overwriting human-reviewed content -/
def mergeGeneration (content : RevisionContent) (r : GenerationResult) : Except Err RevisionContent := do
  let sections ← r.sections.foldlM (mergeSection host content.factDict) content.sectionDict
  let controls ← r.controls.foldlM (mergeControl host content.factDict) content.controlDict
  let facts ← generationFacts host content.factDict r.categorization
  let questions ← resolveDirectSectionQuestions content.questionDict sections
  let existing := questions.map (questionIdentity host)
  let questions ← addQuestions
    (fun g => (directSectionAnswer g.targetType g.targetId sections).isSome || existing.contains g.questionKey)
    r.questions questions
  validated RevisionContent.uniqueError {
    facts := sortFacts facts
    sections := sortSections sections
    controls := sortControls controls
    questions := sortQuestions questions }

/-! ## Patches -/

/-- `evidence or current.evidence` -/
def orEvidence (evidence current : List EvidenceLink) : List EvidenceLink :=
  if evidence.isEmpty then current else evidence

def patchSection (patch : TargetedPatch) (evidence : List EvidenceLink) (sections : List SectionContent) :
    Except Err (List SectionContent) :=
  match getSection patch.targetId sections with
  | none => raise .workspaceEdit ("unknown SSP section: " ++ patch.targetId)
  | some current => do
    let text := (patch.change "content").getD current.content
    let s ← validated SectionContent.firstError { current with
      content := text
      state := if hasText text then .generated else .empty
      evidence := orEvidence evidence current.evidence }
    return putSection s sections

def patchControl (patch : TargetedPatch) (evidence : List EvidenceLink) (controls : List ControlContent) :
    Except Err (List ControlContent) :=
  match getControl patch.targetId controls with
  | none => raise .workspaceEdit ("unknown control: " ++ patch.targetId)
  | some current => do
    let statement := (patch.change "implementation_statement").getD current.implementationStatement
    let c ← validated ControlContent.firstError { current with
      implementationStatement := statement
      implementationStatus := (patch.change "implementation_status").or current.implementationStatus
      responsibility := (patch.change "responsibility").or current.responsibility
      state := if hasText statement then .generated else .partly
      evidence := orEvidence evidence current.evidence
      unresolvedReason := if hasText statement then none else current.unresolvedReason }
    return putControl c controls

/-- one patch, on the sections and controls -/
def applyPatch (facts : List FactContent) (currentRevision : Nat)
    (items : List SectionContent × List ControlContent) (patch : TargetedPatch) :
    Except Err (List SectionContent × List ControlContent) := do
  ensure (patch.expectedRevision = currentRevision) .workspaceEdit "patch is stale"
  let evidence ← evidenceForFacts host patch.supportingFactIds facts
  if patch.targetType = .sspSection then
    let sections ← patchSection patch evidence items.1
    return (sections, items.2)
  else
    let controls ← patchControl patch evidence items.2
    return (items.1, controls)

def dismissQuestion (questions : List QuestionContent) (questionId : String) : Except Err (List QuestionContent) :=
  match KeyedList.get? QuestionContent.idKey questionId questions with
  | none => raise .workspaceEdit ("unknown question: " ++ questionId)
  | some current => do
    let q ← validated QuestionContent.firstError { current with state := .dismissed }
    return KeyedList.put QuestionContent.idKey q questions

/-- the three confirmations that an edit of a section may make stale -/
def markStale (content : RevisionContent) (sectionKey : String) : RevisionContent :=
  markInformationTypesStaleIfNeeded
    (markSystemDefinitionStaleIfNeeded (markCategorizationStaleIfNeeded content sectionKey) sectionKey) sectionKey

/-- apply one already-validated patch result atomically to a copy -/
def applyAgentPatch (content : RevisionContent) (r : PatchResult) (currentRevision : Nat) :
    Except Err RevisionContent := do
  let (sections, controls) ← r.patches.foldlM (applyPatch host content.factDict currentRevision)
    (content.sectionDict, content.controlDict)
  let questions ← r.questionIdsToResolve.foldlM dismissQuestion content.questionDict
  let existing := questions.map (questionIdentity host)
  let questions ← addQuestions (fun g => existing.contains g.questionKey) r.questionsToAdd questions
  let updated ← validated RevisionContent.uniqueError {
    facts := content.facts
    sections := sortSections sections
    controls := sortControls controls
    questions := sortQuestions questions }
  return (r.patches.filter fun p => p.targetType = .sspSection).foldl (fun c p => markStale c p.targetId) updated

end

/-! ## Direct edits -/

def editSection (content : RevisionContent) (sectionKey text : String) : Except Err RevisionContent :=
  match getSection sectionKey content.sections with
  | none => raise .workspaceEdit ("unknown SSP section: " ++ sectionKey)
  | some s => do
    let s ← validated SectionContent.firstError
      { s with content := text, state := if hasText text then .edited else .empty }
    let sections := putSection s content.sections
    let questions ← resolveDirectSectionQuestions content.questionDict
      (KeyedList.ofList SectionContent.key sections)
    let updated ← validated RevisionContent.firstError
      { content with sections, questions := sortQuestions questions }
    return markStale updated sectionKey

def editControl (content : RevisionContent) (controlId implementationStatement : String)
    (implementationStatus responsibility : Option String) : Except Err RevisionContent :=
  match getControl controlId content.controls with
  | none => raise .workspaceEdit ("unknown control: " ++ controlId)
  | some c => do
    let hasStatement := hasText implementationStatement
    let c ← validated ControlContent.firstError { c with
      implementationStatement, implementationStatus, responsibility
      state := if hasStatement then .reviewed else .partly
      unresolvedReason :=
        if hasStatement then none
        else some (match c.unresolvedReason with
          | none | some "" => "Information is not available."
          | some reason => reason) }
    validated RevisionContent.firstError { content with controls := putControl c content.controls }

/-- the sections after an answer to one of the questions that a section answers directly -/
def answerSections (content : RevisionContent) (selected : QuestionContent) (normalized : String) :
    Except Err (List SectionContent) :=
  if selected.targetType = .sspSection ∧ selected.targetKey ∈ directAnswerSectionKeys then
    match getSection selected.targetKey content.sections with
    | none => raise .workspaceEdit ("unknown SSP section: " ++ selected.targetKey)
    | some s => do
      let s ← validated SectionContent.firstError { s with content := normalized, state := .edited }
      return putSection s content.sections
  else .ok content.sections

def answerQuestion (content : RevisionContent) (questionId : Uuid) (answer : String) : Except Err RevisionContent := do
  let normalized := strip answer
  ensure (normalized ≠ "") .workspaceEdit "answer cannot be empty"
  match content.questions.find? fun q => q.questionId = questionId with
  | none => raise .workspaceEdit ("unknown question: " ++ questionId.str)
  | some selected => do
    ensure (selected.state = .opened) .workspaceQuestionState "question is not open"
    let sections ← answerSections content selected normalized
    let questions ← content.questions.mapM fun q =>
      if q.state = .opened ∧ q.targetType = selected.targetType ∧ q.targetKey = selected.targetKey then
        validated QuestionContent.firstError { q with state := .answered, answer := some normalized }
      else .ok q
    validated RevisionContent.firstError { content with sections, questions }

end AtoService.Workspace
