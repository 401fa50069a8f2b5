/-
What a generation makes of a revision, and when it merges at all.

`AcceptedShape` is what the parsers guarantee of a result. Sections and controls are rewritten in place
(`mergeSections_eq_ok`, `mergeControls_eq_ok`), and the evidence of supporting facts is one dictionary
(`evidenceForFacts_eq_ok`). The parsers admit more than a revision may hold: `Fits` is what is left to require, and
`mergeGeneration_returns_iff` proves that it is exactly that.
-/
import AtoService.Lib.KeyedMerge
import AtoService.Workspace.ModelOutput
import AtoService.Workspace.Reproposal
import AtoService.Workspace.StoredPatch

namespace AtoService.Workspace

open AtoService.Py

/-! ## What the parsers guarantee -/

/-- what is used of a result that the parsers accept -/
structure AcceptedShape (host : Host) (o : Outline) (r : GenerationResult) : Prop where
  sectionIds : KeyedList.Distinct GeneratedSection.sectionId r.sections
  controlIds : KeyedList.Distinct GeneratedControl.controlId r.controls
  questionKeys : (r.questions.map GeneratedQuestion.questionKey).Nodup
  sections : ∀ g ∈ r.sections, g.sectionId ∈ o.sectionIds ∧ ∀ id ∈ g.supportingFactIds, id ∈ o.factIds
  controls : ∀ g ∈ r.controls, g.controlId ∈ o.controlIds ∧ ∀ id ∈ g.supportingFactIds, id ∈ o.factIds
  questions : ∀ g ∈ r.questions, g.targetId ∈ allowedTargets o g.targetType ∧
    g.questionKey = deterministicQuestionKey host g.targetType g.targetId g.question
  categorization : ∀ g ∈ r.categorization, g.supportingFactIds ≠ [] ∧ ∀ id ∈ g.supportingFactIds, id ∈ o.factIds

section

variable {host : Host} {fresh : Nat → String} {o : Outline}

theorem readFactIds_subset {v : Json} {allowed ids : List String} (h : readFactIds host v allowed = .ok ids) :
    ∀ id ∈ ids, id ∈ allowed := by
  intro id hid
  by_contra hn
  have hmem := mem_sortedDifference.2 ⟨hid, hn⟩
  rw [sortedDifference_of_readFactIds h] at hmem
  cases hmem

theorem admitSection_eq_ok {sectionId content : String} {factIds : List String} {g : GeneratedSection}
    (h : admitSection host fresh o sectionId content factIds = .ok g) :
    g.sectionId = sectionId ∧ (g.supportingFactIds = factIds ∨ g.supportingFactIds = []) := by
  unfold admitSection at h
  split at h
  · exact Except.ok.inj h ▸ ⟨rfl, Or.inl rfl⟩
  · split at h
    · exact absurd h contractError_eq_ok.1
    · split at h
      · exact Except.ok.inj h ▸ ⟨rfl, Or.inl rfl⟩
      · split at h
        · exact Except.ok.inj h ▸ ⟨rfl, Or.inr rfl⟩
        · cases h

theorem parseSection_eq_ok {entry : List (String × Json)} {g : GeneratedSection}
    (h : parseSection host fresh o entry = .ok g) :
    g.sectionId ∈ o.sectionIds ∧ ∀ id ∈ g.supportingFactIds, id ∈ o.factIds := by
  unfold parseSection at h
  obtain ⟨-, -, h⟩ := bind_eq_ok.1 h
  obtain ⟨sectionId, hid, h⟩ := bind_eq_ok.1 h
  obtain ⟨content, -, h⟩ := bind_eq_ok.1 h
  obtain ⟨factIds, hfacts, h⟩ := bind_eq_ok.1 h
  have hg := admitSection_eq_ok h
  refine ⟨hg.1 ▸ (readAllowed_eq_ok hid).1, ?_⟩
  rcases hg.2 with heq | heq <;> rw [heq]
  · exact readFactIds_subset hfacts
  · simp

theorem parseControl_eq_ok {entry : List (String × Json)} {g : GeneratedControl}
    (h : parseControl host o entry = .ok g) :
    g.controlId ∈ o.controlIds ∧ ∀ id ∈ g.supportingFactIds, id ∈ o.factIds := by
  unfold parseControl at h
  obtain ⟨-, -, h⟩ := bind_eq_ok.1 h
  obtain ⟨controlId, hid, h⟩ := bind_eq_ok.1 h
  obtain ⟨status, -, h⟩ := bind_eq_ok.1 h
  obtain ⟨responsibility, -, h⟩ := bind_eq_ok.1 h
  obtain ⟨statement, -, h⟩ := bind_eq_ok.1 h
  dsimp only at h
  split_ifs at h
  · obtain ⟨_, hfail, -⟩ := bind_eq_ok.1 h
    exact absurd hfail contractError_eq_ok.1
  · obtain ⟨factIds, hfacts, h⟩ := bind_eq_ok.1 h
    split_ifs at h
    · obtain ⟨_, hfail, -⟩ := bind_eq_ok.1 h
      exact absurd hfail contractError_eq_ok.1
    · obtain rfl := pure_eq_ok.1 h
      exact ⟨(readAllowed_eq_ok hid).1, readFactIds_subset hfacts⟩

theorem parseQuestion_eq_ok {entry : List (String × Json)} {g : GeneratedQuestion}
    (h : parseQuestion host o entry = .ok g) : g.targetId ∈ allowedTargets o g.targetType ∧
      g.questionKey = deterministicQuestionKey host g.targetType g.targetId g.question := by
  unfold parseQuestion at h
  obtain ⟨-, -, h⟩ := bind_eq_ok.1 h
  obtain ⟨targetType, -, h⟩ := bind_eq_ok.1 h
  obtain ⟨targetId, hid, h⟩ := bind_eq_ok.1 h
  obtain ⟨question, -, h⟩ := bind_eq_ok.1 h
  obtain ⟨ownerType, -, h⟩ := bind_eq_ok.1 h
  obtain rfl := pure_eq_ok.1 h
  exact ⟨(readAllowed_eq_ok hid).1, rfl⟩

theorem parseCategorization_eq_ok {v : Json} {factIds : List String} {res : Option GeneratedCategorization}
    (h : parseCategorization host v factIds = .ok res) :
    ∀ g ∈ res, g.supportingFactIds ≠ [] ∧ ∀ id ∈ g.supportingFactIds, id ∈ factIds := by
  unfold parseCategorization at h
  split at h
  · obtain rfl := Except.ok.inj h
    simp
  · obtain ⟨-, -, h⟩ := bind_eq_ok.1 h
    obtain ⟨confidentiality, -, h⟩ := bind_eq_ok.1 h
    obtain ⟨integrity, -, h⟩ := bind_eq_ok.1 h
    obtain ⟨availability, -, h⟩ := bind_eq_ok.1 h
    obtain ⟨cRationale, -, h⟩ := bind_eq_ok.1 h
    obtain ⟨iRationale, -, h⟩ := bind_eq_ok.1 h
    obtain ⟨aRationale, -, h⟩ := bind_eq_ok.1 h
    dsimp only at h
    split_ifs at h
    · obtain ⟨_, hfail, -⟩ := bind_eq_ok.1 h
      exact absurd hfail contractError_eq_ok.1
    · obtain ⟨supports, hsupports, h⟩ := bind_eq_ok.1 h
      split_ifs at h with hempty
      · obtain ⟨_, hfail, -⟩ := bind_eq_ok.1 h
        exact absurd hfail contractError_eq_ok.1
      · obtain rfl := pure_eq_ok.1 h
        rintro g ⟨⟩
        exact ⟨fun hnil => hempty (List.isEmpty_iff.2 hnil), readFactIds_subset hsupports⟩
  · exact absurd h contractError_eq_ok.1

theorem requireControlsAndQuestions_eq_ok {controls : List GeneratedControl} {questions : List GeneratedQuestion}
    {u : Unit} (h : requireControlsAndQuestions host o controls questions = .ok u) :
    KeyedList.Distinct GeneratedControl.controlId controls ∧
      (questions.map GeneratedQuestion.questionKey).Nodup := by
  unfold requireControlsAndQuestions at h
  obtain ⟨_, hcontrols, h⟩ := bind_eq_ok.1 h
  obtain ⟨_, hquestions, -⟩ := bind_eq_ok.1 h
  exact ⟨requireUnique_eq_ok.1 hcontrols, requireUnique_eq_ok.1 hquestions⟩

/-- what the parsers accept has the shape that the merge relies on -/
theorem Accepted.shape {r : GenerationResult} (h : Accepted host fresh o r) : AcceptedShape host o r := by
  cases h with
  | @passes n k raw raw' hn hk =>
    unfold parseNarrativeGenerationResponse at hn
    obtain ⟨payload, -, hn⟩ := bind_eq_ok.1 hn
    obtain ⟨-, -, hn⟩ := bind_eq_ok.1 hn
    obtain ⟨-, -, hn⟩ := bind_eq_ok.1 hn
    obtain ⟨entries, -, hn⟩ := bind_eq_ok.1 hn
    obtain ⟨sections, hsections, hn⟩ := bind_eq_ok.1 hn
    obtain ⟨_, hunique, hn⟩ := bind_eq_ok.1 hn
    obtain ⟨categorization, hcategorization, hn⟩ := bind_eq_ok.1 hn
    obtain rfl := pure_eq_ok.1 hn
    unfold parseControlGenerationResponse at hk
    obtain ⟨payload', -, hk⟩ := bind_eq_ok.1 hk
    obtain ⟨-, -, hk⟩ := bind_eq_ok.1 hk
    obtain ⟨-, -, hk⟩ := bind_eq_ok.1 hk
    obtain ⟨controlEntries, -, hk⟩ := bind_eq_ok.1 hk
    obtain ⟨questionEntries, -, hk⟩ := bind_eq_ok.1 hk
    obtain ⟨controls, hcontrols, hk⟩ := bind_eq_ok.1 hk
    obtain ⟨questions, hquestions, hk⟩ := bind_eq_ok.1 hk
    obtain ⟨_, hboth, hk⟩ := bind_eq_ok.1 hk
    obtain rfl := pure_eq_ok.1 hk
    obtain ⟨hcontrolIds, hquestionKeys⟩ := requireControlsAndQuestions_eq_ok hboth
    exact {
      sectionIds := requireUnique_eq_ok.1 hunique
      controlIds := hcontrolIds
      questionKeys := hquestionKeys
      sections := fun g hg => (exists_of_mem_mapM hsections hg).elim fun _ he => parseSection_eq_ok he.2
      controls := fun g hg => (exists_of_mem_mapM hcontrols hg).elim fun _ he => parseControl_eq_ok he.2
      questions := fun g hg => (exists_of_mem_mapM hquestions hg).elim fun _ he => parseQuestion_eq_ok he.2
      categorization := parseCategorization_eq_ok hcategorization }
  | @whole r raw h =>
    unfold parseGenerationResponse at h
    obtain ⟨payload, -, h⟩ := bind_eq_ok.1 h
    obtain ⟨-, -, h⟩ := bind_eq_ok.1 h
    obtain ⟨-, -, h⟩ := bind_eq_ok.1 h
    obtain ⟨sectionEntries, -, h⟩ := bind_eq_ok.1 h
    obtain ⟨controlEntries, -, h⟩ := bind_eq_ok.1 h
    obtain ⟨questionEntries, -, h⟩ := bind_eq_ok.1 h
    obtain ⟨sections, hsections, h⟩ := bind_eq_ok.1 h
    obtain ⟨controls, hcontrols, h⟩ := bind_eq_ok.1 h
    obtain ⟨questions, hquestions, h⟩ := bind_eq_ok.1 h
    obtain ⟨categorization, hcategorization, h⟩ := bind_eq_ok.1 h
    obtain ⟨_, hunique, h⟩ := bind_eq_ok.1 h
    obtain ⟨_, hboth, h⟩ := bind_eq_ok.1 h
    obtain rfl := pure_eq_ok.1 h
    obtain ⟨hcontrolIds, hquestionKeys⟩ := requireControlsAndQuestions_eq_ok hboth
    exact {
      sectionIds := requireUnique_eq_ok.1 hunique
      controlIds := hcontrolIds
      questionKeys := hquestionKeys
      sections := fun g hg => (exists_of_mem_mapM hsections hg).elim fun _ he => parseSection_eq_ok he.2
      controls := fun g hg => (exists_of_mem_mapM hcontrols hg).elim fun _ he => parseControl_eq_ok he.2
      questions := fun g hg => (exists_of_mem_mapM hquestions hg).elim fun _ he => parseQuestion_eq_ok he.2
      categorization := parseCategorization_eq_ok hcategorization }

end

/-! ## The evidence of supporting facts -/

/-- the links of the facts, in the order in which they are gathered -/
def supportingLinks (facts : List FactContent) (factIds : List String) : List EvidenceLink :=
  factIds.flatMap fun id => ((getFact id facts).map FactContent.evidence).getD []

/-- the evidence of facts that are all there -/
def supportingEvidence (host : Host) (facts : List FactContent) (factIds : List String) : List EvidenceLink :=
  KeyedList.sorted (linkKey host) (KeyedList.ofList (linkKey host) (supportingLinks facts factIds))

section

variable {host : Host} {facts : List FactContent} {factIds : List String} {links : List EvidenceLink}

theorem gatherLinks_eq_ok {res : List EvidenceLink} : gatherLinks host facts factIds links = .ok res ↔
    (∀ id ∈ factIds, id ∈ facts.map FactContent.key) ∧
      res = KeyedList.update (linkKey host) links (supportingLinks facts factIds) := by
  induction factIds generalizing links with
  | nil =>
    rw [gatherLinks, Except.ok.injEq]
    exact ⟨fun h => ⟨by simp, h.symm⟩, fun h => h.2.symm⟩
  | cons id ids ih =>
    rw [gatherLinks, List.forall_mem_cons, ← KeyedList.get?_isSome, ← getFact]
    cases hf : getFact id facts with
    | none => exact iff_of_false (by rintro ⟨⟩) (by rintro ⟨⟨⟨⟩, -⟩, -⟩)
    | some f =>
      have hlinks : KeyedList.update (linkKey host) (KeyedList.update (linkKey host) links f.evidence)
          (supportingLinks facts ids) = KeyedList.update (linkKey host) links (supportingLinks facts (id :: ids)) := by
        rw [supportingLinks, supportingLinks, List.flatMap_cons, hf, KeyedList.update, KeyedList.update,
          KeyedList.update, List.foldl_append]
        rfl
      simp only [ih, hlinks, Option.isSome_some, true_and]

theorem evidenceForFacts_eq_ok {res : List EvidenceLink} : evidenceForFacts host factIds facts = .ok res ↔
    (∀ id ∈ factIds, id ∈ facts.map FactContent.key) ∧ res = supportingEvidence host facts factIds := by
  simp only [evidenceForFacts, bind_eq_ok, pure_eq_ok, gatherLinks_eq_ok]
  constructor
  · rintro ⟨_, ⟨hall, rfl⟩, rfl⟩
    exact ⟨hall, rfl⟩
  · rintro ⟨hall, rfl⟩
    exact ⟨_, ⟨hall, rfl⟩, rfl⟩

theorem supportingEvidence_ne_nil {id : String} {f : FactContent} (hid : id ∈ factIds) (hf : getFact id facts = some f)
    (he : f.evidence ≠ []) : supportingEvidence host facts factIds ≠ [] := by
  obtain ⟨l, hl⟩ := List.exists_mem_of_ne_nil _ he
  have hmem : l ∈ supportingLinks facts factIds := List.mem_flatMap.2 ⟨id, hid, by simpa [hf] using hl⟩
  have hkey : linkKey host l ∈ (supportingEvidence host facts factIds).map (linkKey host) :=
    KeyedList.mem_keys_sorted.2 (KeyedList.mem_keys_ofList.2 (List.mem_map_of_mem hmem))
  exact fun hnil => by simp [hnil] at hkey

end

/-! ## Sections -/

/-- the section that replaces the current one -/
def SectionContent.filled (s : SectionContent) (g : GeneratedSection) (evidence : List EvidenceLink) : SectionContent :=
  { s with content := g.content, state := if hasText g.content then .generated else .empty, evidence }

/-- sections that the ISSO edited or reviewed are passed over -/
def SectionContent.Kept (s : SectionContent) : Prop := s.state = .edited ∨ s.state = .reviewed

instance (s : SectionContent) : Decidable s.Kept := inferInstanceAs (Decidable (_ ∨ _))

/-- what a generated section makes of the current one -/
def generatedSection (host : Host) (facts : List FactContent) (g : GeneratedSection) (current : SectionContent) :
    Except Err SectionContent :=
  if current.Kept then .ok current
  else do
    let evidence ← evidenceForFacts host g.supportingFactIds facts
    validated SectionContent.firstError (current.filled g evidence)

section

variable {host : Host} {facts : List FactContent}

theorem mergeSection_eq : mergeSection host facts = KeyedList.mergeEntry SectionContent.key GeneratedSection.sectionId
    (fun g => { cls := .workspaceEdit, detail := "unknown SSP section: " ++ g.sectionId })
    (generatedSection host facts) := by
  funext sections g
  rw [mergeSection, KeyedList.mergeEntry, getSection]
  cases hs : KeyedList.get? SectionContent.key g.sectionId sections with
  | none => rfl
  | some current =>
    dsimp only
    rw [generatedSection]
    by_cases hkept : current.Kept
    · rw [if_pos hkept, if_pos (show _ ∨ _ from hkept)]
      rw [← KeyedList.key_of_get? hs] at hs
      exact congrArg Except.ok (KeyedList.put_of_get? hs).symm
    · rw [if_neg hkept, if_neg (show ¬(_ ∨ _) from hkept), bind_assoc]
      exact bind_congr fun _ => rfl

theorem generatedSection_eq_ok {g : GeneratedSection} {s s' : SectionContent} :
    generatedSection host facts g s = .ok s' ↔ if s.Kept then s' = s else
      (∀ id ∈ g.supportingFactIds, id ∈ facts.map FactContent.key) ∧
        s' = s.filled g (supportingEvidence host facts g.supportingFactIds) ∧ s'.Valid := by
  unfold generatedSection
  by_cases hkept : s.Kept
  · rw [if_pos hkept, if_pos hkept, Except.ok.injEq, eq_comm]
  · rw [if_neg hkept, if_neg hkept]
    simp only [bind_eq_ok, evidenceForFacts_eq_ok, validated_eq_ok]
    constructor
    · rintro ⟨_, ⟨hall, rfl⟩, rfl, hv⟩
      exact ⟨hall, rfl, hv⟩
    · rintro ⟨hall, rfl, hv⟩
      exact ⟨_, ⟨hall, rfl⟩, rfl, hv⟩

theorem key_generatedSection (g : GeneratedSection) (s s' : SectionContent)
    (h : generatedSection host facts g s = .ok s') : s'.key = s.key := by
  rw [generatedSection_eq_ok] at h
  split_ifs at h
  · rw [h]
  · rw [h.2.1]
    rfl

/-- what is left to check of a section that is filled -/
theorem filled_valid {s : SectionContent} {g : GeneratedSection} {evidence : List EvidenceLink} (hs : s.Valid) :
    (s.filled g evidence).Valid ↔ g.content.length ≤ 100000 := by
  obtain ⟨h₁, h₂, h₃, h₄, -⟩ := SectionContent.valid_iff.1 hs
  rw [SectionContent.valid_iff]
  refine ⟨fun h => h.2.2.2.2.1, fun h => ⟨h₁, h₂, h₃, h₄, h, ?_⟩⟩
  show (if hasText g.content then SectionState.generated else .empty) = .empty ↔ hasText g.content = false
  cases hasText g.content <;> simp

end

/-! ## Controls -/

/-- the control that replaces the current one -/
def ControlContent.filled (c : ControlContent) (g : GeneratedControl) (evidence : List EvidenceLink) :
    ControlContent :=
  { c with
    implementationStatus := some g.implementationStatus
    responsibility := some g.responsibility
    implementationStatement := g.implementationStatement
    state := if hasText g.implementationStatement then .generated else .partly
    evidence
    unresolvedReason := if hasText g.implementationStatement then none else some "Information is not available." }

/-- what a generated control makes of the current one -/
def generatedControl (host : Host) (facts : List FactContent) (g : GeneratedControl) (current : ControlContent) :
    Except Err ControlContent :=
  if current.state = .reviewed then .ok current
  else do
    let evidence ← evidenceForFacts host g.supportingFactIds facts
    validated ControlContent.firstError (current.filled g evidence)

section

variable {host : Host} {facts : List FactContent}

theorem mergeControl_eq : mergeControl host facts = KeyedList.mergeEntry ControlContent.controlId
    GeneratedControl.controlId (fun g => { cls := .workspaceEdit, detail := "unknown control: " ++ g.controlId })
    (generatedControl host facts) := by
  funext controls g
  rw [mergeControl, KeyedList.mergeEntry, getControl]
  cases hc : KeyedList.get? ControlContent.controlId g.controlId controls with
  | none => rfl
  | some current =>
    dsimp only
    rw [generatedControl]
    by_cases hkept : current.state = .reviewed
    · rw [if_pos hkept, if_pos hkept]
      rw [← KeyedList.key_of_get? hc] at hc
      exact congrArg Except.ok (KeyedList.put_of_get? hc).symm
    · rw [if_neg hkept, if_neg hkept, bind_assoc]
      exact bind_congr fun _ => rfl

theorem generatedControl_eq_ok {g : GeneratedControl} {c c' : ControlContent} :
    generatedControl host facts g c = .ok c' ↔ if c.state = .reviewed then c' = c else
      (∀ id ∈ g.supportingFactIds, id ∈ facts.map FactContent.key) ∧
        c' = c.filled g (supportingEvidence host facts g.supportingFactIds) ∧ c'.Valid := by
  unfold generatedControl
  split_ifs
  · rw [Except.ok.injEq, eq_comm]
  · simp only [bind_eq_ok, evidenceForFacts_eq_ok, validated_eq_ok]
    constructor
    · rintro ⟨_, ⟨hall, rfl⟩, rfl, hv⟩
      exact ⟨hall, rfl, hv⟩
    · rintro ⟨hall, rfl, hv⟩
      exact ⟨_, ⟨hall, rfl⟩, rfl, hv⟩

theorem controlId_generatedControl (g : GeneratedControl) (c c' : ControlContent)
    (h : generatedControl host facts g c = .ok c') : c'.controlId = c.controlId := by
  rw [generatedControl_eq_ok] at h
  split_ifs at h
  · rw [h]
  · rw [h.2.1]
    rfl

/-- what is left to check of a control that is filled -/
theorem filled_control_valid {c : ControlContent} {g : GeneratedControl} {evidence : List EvidenceLink}
    (hc : c.Valid) : (c.filled g evidence).Valid ↔ g.implementationStatus.length ≤ 64 ∧
      g.responsibility.length ≤ 64 ∧ g.implementationStatement.length ≤ 100000 := by
  obtain ⟨h₁, h₂, h₃, -⟩ := ControlContent.valid_iff.1 hc
  have hreason : (textOf (some "Information is not available.")).length ≤ 4000 ∧
      hasText (textOf (some "Information is not available.")) = true := by decide
  rw [ControlContent.valid_iff]
  refine ⟨fun h => ⟨h.2.2.2.1, h.2.2.2.2.2.1, h.2.2.2.2.1⟩, fun h => ⟨h₁, h₂, h₃, h.1, h.2.2, h.2.1, ?_⟩⟩
  simp only [ControlContent.filled]
  cases ht : hasText g.implementationStatement
  · simpa using hreason
  · simp [textOf]

end

/-! ## Direct answers -/

/-- the text of a section after the generated sections -/
def mergedText (gs : List GeneratedSection) (s : SectionContent) : String :=
  if s.Kept then s.content
  else
    match KeyedList.get? GeneratedSection.sectionId s.key gs with
    | some g => g.content
    | none => s.content

/-- the answer that the sections give once the generated texts stand in them -/
def answerAfter (gs : List GeneratedSection) (sections : List SectionContent) (t : TargetType) (key : String) :
    Option String :=
  directSectionAnswer t key (sections.map fun s => { s with content := mergedText gs s })

section

variable {host : Host} {facts : List FactContent} {gs : List GeneratedSection} {sections : List SectionContent}

/-- what the generated sections make of one section -/
def mergedSection (host : Host) (facts : List FactContent) (gs : List GeneratedSection) :
    SectionContent → SectionContent :=
  KeyedList.rewriteBy SectionContent.key GeneratedSection.sectionId (generatedSection host facts) gs

/-- every generated section finds the section it names and may fill it -/
def SectionsMerge (host : Host) (facts : List FactContent) (gs : List GeneratedSection)
    (sections : List SectionContent) : Prop :=
  ∀ g ∈ gs, ∃ s, getSection g.sectionId sections = some s ∧ ∃ s', generatedSection host facts g s = .ok s'

theorem mergeSections_eq_ok {ss : List SectionContent} (hgs : KeyedList.Distinct GeneratedSection.sectionId gs)
    (hsections : KeyedList.Distinct SectionContent.key sections) :
    gs.foldlM (mergeSection host facts) sections = .ok ss ↔
      SectionsMerge host facts gs sections ∧ ss = sections.map (mergedSection host facts gs) := by
  rw [mergeSection_eq]
  exact KeyedList.foldlM_mergeEntry_eq_ok key_generatedSection hgs hsections

theorem key_mergedSection (s : SectionContent) : (mergedSection host facts gs s).key = s.key :=
  KeyedList.key_rewriteBy key_generatedSection gs s

theorem content_mergedSection (hsections : KeyedList.Distinct SectionContent.key sections)
    (hmerge : SectionsMerge host facts gs sections) {s : SectionContent} (hs : s ∈ sections) :
    (mergedSection host facts gs s).content = mergedText gs s := by
  unfold mergedSection KeyedList.rewriteBy mergedText
  cases hg : KeyedList.get? GeneratedSection.sectionId s.key gs with
  | none => simp
  | some g =>
    obtain ⟨s₀, hs₀, s', hs'⟩ := hmerge g (KeyedList.mem_of_get? hg)
    obtain rfl : s = s₀ := Option.some.inj
      (((KeyedList.get?_eq_some hsections).2 ⟨hs, (KeyedList.key_of_get? hg).symm⟩).symm.trans hs₀)
    simp only [hs']
    rw [generatedSection_eq_ok] at hs'
    split_ifs at hs' ⊢
    · rw [hs']
    · rw [hs'.2.1]
      rfl

theorem directSectionAnswer_merged (hsections : KeyedList.Distinct SectionContent.key sections)
    (hmerge : SectionsMerge host facts gs sections) (t : TargetType) (key : String) :
    directSectionAnswer t key (sections.map (mergedSection host facts gs)) = answerAfter gs sections t key := by
  unfold answerAfter directSectionAnswer
  rw [getSection, getSection, KeyedList.get?_map key_mergedSection, KeyedList.get?_map fun _ => rfl]
  cases hs : KeyedList.get? SectionContent.key key sections with
  | none => rfl
  | some s =>
    simp only [Option.map_some, content_mergedSection hsections hmerge (KeyedList.mem_of_get? hs)]

end

/-! ## Questions -/

section

variable {host : Host} {sections : List SectionContent} {questions qs : List QuestionContent}

theorem hasText_directSectionAnswer {t : TargetType} {key a : String}
    (h : directSectionAnswer t key sections = some a) : hasText a = true := by
  unfold directSectionAnswer at h
  split_ifs at h
  split at h
  · cases h
  · split_ifs at h with htext
    rw [← Option.some.inj h, hasText_strip, htext]

/-- the sections answer the open questions as long as the answers are short enough -/
theorem resolveDirectSectionQuestions_isOk (hv : ∀ q ∈ questions, q.Valid) :
    (∃ qs, resolveDirectSectionQuestions questions sections = .ok qs) ↔ ∀ q ∈ questions, q.state = .opened →
      ∀ a ∈ directSectionAnswer q.targetType q.targetKey sections, a.length ≤ 20000 := by
  rw [resolveDirectSectionQuestions, Results.mapM_isOk]
  refine forall₂_congr fun q hq => ?_
  cases ha : directSectionAnswer q.targetType q.targetKey sections with
  | none => simp
  | some a =>
    by_cases hopen : q.state = .opened
    · obtain ⟨h₁, h₂, h₃, h₄, -⟩ := QuestionContent.valid_iff.1 (hv q hq)
      have hvalid : ({ q with state := .answered, answer := some a } : QuestionContent).Valid ↔ a.length ≤ 20000 := by
        rw [QuestionContent.valid_iff]
        exact ⟨fun h => h.2.2.2.2.1, fun h =>
          ⟨h₁, h₂, h₃, h₄, h, fun _ => hasText_directSectionAnswer ha, by rintro ⟨⟩⟩⟩
      simp only [hopen, if_true, validated_eq_ok, exists_eq_left, true_implies, Option.mem_def, Option.some.injEq,
        forall_eq']
      exact hvalid
    · simp [hopen]

theorem resolveDirectSectionQuestions_identity
    (h : resolveDirectSectionQuestions questions sections = .ok qs) :
    qs.map (questionIdentity host) = questions.map (questionIdentity host) := by
  replace h := mapM_eq_ok.1 h
  induction h with
  | nil => rfl
  | @cons q q' questions qs hq _ ih =>
    have hstep : questionIdentity host q' = questionIdentity host q := by
      split at hq
      · split_ifs at hq
        · rw [(validated_eq_ok.1 hq).1]
          rfl
        · rw [← Except.ok.inj hq]
      · rw [← Except.ok.inj hq]
    rw [List.map_cons, List.map_cons, ih, hstep]

theorem addQuestions_eq_ok {skip : GeneratedQuestion → Bool} {gs : List GeneratedQuestion} :
    addQuestions skip gs questions = .ok qs ↔ ∃ news, (gs.filter fun g => !skip g).mapM openQuestion = .ok news ∧
      qs = KeyedList.update QuestionContent.idKey questions news := by
  unfold addQuestions
  induction gs.filter fun g => !skip g generalizing questions with
  | nil =>
    simp only [List.foldlM_nil, List.mapM_nil, pure_eq_ok, exists_eq_left']
    exact eq_comm
  | cons g gs ih =>
    simp only [List.foldlM_cons, List.mapM_cons, bind_eq_ok, pure_eq_ok, ih]
    constructor
    · rintro ⟨_, ⟨q, hq, rfl⟩, news, hnews, rfl⟩
      exact ⟨q :: news, ⟨q, hq, news, hnews, rfl⟩, rfl⟩
    · rintro ⟨_, ⟨q, hq, news, hnews, rfl⟩, rfl⟩
      exact ⟨_, ⟨q, hq, rfl⟩, news, hnews, rfl⟩

/-- what a question must keep to beyond the parser -/
def GeneratedQuestion.Fits (g : GeneratedQuestion) : Prop :=
  (ownerTypeOf g.ownerType).isSome ∧ 1 ≤ g.question.length ∧ g.question.length ≤ 4000 ∧ g.targetId.length ≤ 255

theorem openQuestion_isOk {g : GeneratedQuestion} (htarget : 1 ≤ g.targetId.length) :
    (∃ q, openQuestion g = .ok q) ↔ g.Fits := by
  simp only [openQuestion_eq_ok, GeneratedQuestion.Fits, Option.isSome_iff_exists]
  constructor
  · rintro ⟨_, ownerType, howner, rfl, hv⟩
    obtain ⟨h₁, h₂, -, h₄, -⟩ := QuestionContent.valid_iff.1 hv
    exact ⟨⟨ownerType, howner⟩, h₁, h₂, h₄⟩
  · rintro ⟨⟨ownerType, howner⟩, h₁, h₂, h₄⟩
    exact ⟨_, ownerType, howner, rfl, QuestionContent.valid_iff.2
      ⟨h₁, h₂, htarget, h₄, Nat.zero_le _, by rintro ⟨⟩, fun _ => rfl⟩⟩

end

/-! ## When a generation merges -/

/-- `_generation_facts`: the facts that a response may cite -/
def generationFactIds (c : RevisionContent) : List String :=
  (c.facts.filter fun f => !f.evidence.isEmpty).map FactContent.key

/-- the questions that the merge adds: no section answers them, and none of the revision asks the same -/
def Fresh (host : Host) (c : RevisionContent) (r : GenerationResult) (g : GeneratedQuestion) : Prop :=
  answerAfter r.sections c.sections g.targetType g.targetId = none ∧
    g.questionKey ∉ c.questions.map (questionIdentity host)

instance (host : Host) (c : RevisionContent) (r : GenerationResult) (g : GeneratedQuestion) :
    Decidable (Fresh host c r g) := inferInstanceAs (Decidable (_ ∧ _))

/-- what a generation must keep to beyond the parsers, where it is merged into `c` -/
structure Fits (host : Host) (c : RevisionContent) (r : GenerationResult) : Prop where
  sections : ∀ g ∈ r.sections, ∀ s ∈ c.sections, s.key = g.sectionId → ¬s.Kept → g.content.length ≤ 100000
  controls : ∀ g ∈ r.controls, ∀ x ∈ c.controls, x.controlId = g.controlId → x.state ≠ .reviewed →
    g.implementationStatus.length ≤ 64 ∧ g.responsibility.length ≤ 64 ∧ g.implementationStatement.length ≤ 100000
  answers : ∀ q ∈ c.questions, q.state = .opened →
    ∀ a ∈ answerAfter r.sections c.sections q.targetType q.targetKey, a.length ≤ 20000
  questions : ∀ g ∈ r.questions, Fresh host c r g → g.Fits

section

variable {host : Host} {fresh : Nat → String} {profile : ResolvedProfile} {c : RevisionContent} {r : GenerationResult}

theorem evidence_of_generationFactIds (hc : KeyedList.Distinct FactContent.key c.facts) {id : String}
    (hid : id ∈ generationFactIds c) :
    id ∈ c.facts.map FactContent.key ∧ ∃ f, getFact id c.facts = some f ∧ f.evidence ≠ [] := by
  obtain ⟨f, hf, rfl⟩ := List.mem_map.1 hid
  obtain ⟨hf, he⟩ := List.mem_filter.1 hf
  refine ⟨List.mem_map_of_mem hf, f, (KeyedList.get?_eq_some hc).2 ⟨hf, rfl⟩, fun hnil => ?_⟩
  rw [hnil] at he
  cases he

/-- the facts after a generation are written for every result that the parsers accept -/
theorem generationFacts_isOk (hc : c.Unique) (hr : AcceptedShape host (.ofProfile profile (generationFactIds c)) r) :
    ∃ fs, generationFacts host c.facts r.categorization = .ok fs ∧ KeyedList.Distinct FactContent.key fs := by
  cases hg : r.categorization with
  | none => exact ⟨_, rfl, hc.facts⟩
  | some g =>
    rw [generationFacts]
    split_ifs with hconfirmed
    · exact ⟨_, rfl, hc.facts⟩
    · obtain ⟨hne, hall⟩ := hr.categorization g hg
      obtain ⟨id, hid⟩ := List.exists_mem_of_ne_nil _ hne
      obtain ⟨-, f, hf, he⟩ := evidence_of_generationFactIds hc.facts (hall id hid)
      refine ⟨_, applyCategorizationProposal_eq_ok.2 ⟨Bool.eq_false_iff.2 hconfirmed, _, evidenceForFacts_eq_ok.2
        ⟨fun id' hid' => (evidence_of_generationFactIds hc.facts (hall id' hid')).1, rfl⟩,
        supportingEvidence_ne_nil hid hf he, rfl⟩, KeyedList.distinct_update hc.facts⟩

/-- a section is filled when its text is short enough, whatever its facts -/
theorem generatedSection_isOk (hc : c.Valid) {g : GeneratedSection} {s : SectionContent} (hs : s ∈ c.sections)
    (hfacts : ∀ id ∈ g.supportingFactIds, id ∈ generationFactIds c) :
    (∃ s', generatedSection host c.facts g s = .ok s') ↔ (¬s.Kept → g.content.length ≤ 100000) := by
  have hvalid := (RevisionContent.valid_iff.1 hc).2.1 s hs
  have hknown : ∀ id ∈ g.supportingFactIds, id ∈ c.facts.map FactContent.key := fun id hid =>
    (evidence_of_generationFactIds hc.unique.facts (hfacts id hid)).1
  simp only [generatedSection_eq_ok]
  split_ifs with hkept
  · exact iff_of_true ⟨s, rfl⟩ fun hn => absurd hkept hn
  · constructor
    · rintro ⟨_, -, rfl, hv⟩ -
      exact (filled_valid hvalid).1 hv
    · exact fun h => ⟨_, hknown, rfl, (filled_valid hvalid).2 (h hkept)⟩

theorem generatedControl_isOk (hc : c.Valid) {g : GeneratedControl} {x : ControlContent} (hx : x ∈ c.controls)
    (hfacts : ∀ id ∈ g.supportingFactIds, id ∈ generationFactIds c) :
    (∃ x', generatedControl host c.facts g x = .ok x') ↔ (x.state ≠ .reviewed → g.implementationStatus.length ≤ 64 ∧
      g.responsibility.length ≤ 64 ∧ g.implementationStatement.length ≤ 100000) := by
  have hvalid := (RevisionContent.valid_iff.1 hc).2.2.1 x hx
  have hknown : ∀ id ∈ g.supportingFactIds, id ∈ c.facts.map FactContent.key := fun id hid =>
    (evidence_of_generationFactIds hc.unique.facts (hfacts id hid)).1
  simp only [generatedControl_eq_ok]
  split_ifs with hkept
  · exact iff_of_true ⟨x, rfl⟩ fun hn => absurd hkept hn
  · constructor
    · rintro ⟨_, -, rfl, hv⟩ -
      exact (filled_control_valid hvalid).1 hv
    · exact fun h => ⟨_, hknown, rfl, (filled_control_valid hvalid).2 (h hkept)⟩

/-- what the generated controls make of one control -/
def mergedControl (host : Host) (facts : List FactContent) (gs : List GeneratedControl) :
    ControlContent → ControlContent :=
  KeyedList.rewriteBy ControlContent.controlId GeneratedControl.controlId (generatedControl host facts) gs

def ControlsMerge (host : Host) (facts : List FactContent) (gs : List GeneratedControl)
    (controls : List ControlContent) : Prop :=
  ∀ g ∈ gs, ∃ x, getControl g.controlId controls = some x ∧ ∃ x', generatedControl host facts g x = .ok x'

theorem mergeControls_eq_ok {facts : List FactContent} {gs : List GeneratedControl} {controls xs : List ControlContent}
    (hgs : KeyedList.Distinct GeneratedControl.controlId gs)
    (hcontrols : KeyedList.Distinct ControlContent.controlId controls) :
    gs.foldlM (mergeControl host facts) controls = .ok xs ↔
      ControlsMerge host facts gs controls ∧ xs = controls.map (mergedControl host facts gs) := by
  rw [mergeControl_eq]
  exact KeyedList.foldlM_mergeEntry_eq_ok controlId_generatedControl hgs hcontrols

theorem controlId_mergedControl {facts : List FactContent} {gs : List GeneratedControl} (x : ControlContent) :
    (mergedControl host facts gs x).controlId = x.controlId :=
  KeyedList.key_rewriteBy controlId_generatedControl gs x

/-- **What a successful merge returns**, part by part. -/
theorem mergeGeneration_eq_ok {o : Outline} {c' : RevisionContent} (hc : c.Unique) (hr : AcceptedShape host o r) :
    mergeGeneration host c r = .ok c' ↔
      SectionsMerge host c.facts r.sections c.sections ∧ ControlsMerge host c.facts r.controls c.controls ∧
      ∃ fs qs news, generationFacts host c.facts r.categorization = .ok fs ∧
        resolveDirectSectionQuestions c.questions (c.sections.map (mergedSection host c.facts r.sections)) = .ok qs ∧
        (r.questions.filter fun g => decide (Fresh host c r g)).mapM openQuestion = .ok news ∧
        c' = {
          facts := sortFacts fs
          sections := sortSections (c.sections.map (mergedSection host c.facts r.sections))
          controls := sortControls (c.controls.map (mergedControl host c.facts r.controls))
          questions := sortQuestions (KeyedList.update QuestionContent.idKey qs news) } ∧
        RevisionContent.uniqueError c' = none := by
  simp only [mergeGeneration, bind_eq_ok, validated_eq_ok, hc.factDict, hc.sectionDict, hc.controlDict,
    hc.questionDict, mergeSections_eq_ok hr.sectionIds hc.sections, mergeControls_eq_ok hr.controlIds hc.controls,
    addQuestions_eq_ok]
  have hskip : SectionsMerge host c.facts r.sections c.sections → ∀ {qs},
      resolveDirectSectionQuestions c.questions (c.sections.map (mergedSection host c.facts r.sections)) = .ok qs →
      (r.questions.filter fun g => !((directSectionAnswer g.targetType g.targetId
        (c.sections.map (mergedSection host c.facts r.sections))).isSome ||
        (qs.map (questionIdentity host)).contains g.questionKey)) =
      r.questions.filter fun g => decide (Fresh host c r g) := by
    intro hmerge qs hqs
    refine List.filter_congr fun g _ => ?_
    rw [directSectionAnswer_merged hc.sections hmerge, resolveDirectSectionQuestions_identity hqs, Bool.eq_iff_iff,
      decide_eq_true_eq, Fresh, Bool.not_eq_true', Bool.or_eq_false_iff, Option.isSome_eq_false_iff,
      Option.isNone_iff_eq_none, ← Bool.not_eq_true, List.contains_iff_mem]
  constructor
  · rintro ⟨_, ⟨hs, rfl⟩, _, ⟨hx, rfl⟩, fs, hfs, qs, hqs, _, ⟨news, hnews, rfl⟩, rfl, hu⟩
    rw [hskip hs hqs] at hnews
    exact ⟨hs, hx, fs, qs, news, hfs, hqs, hnews, rfl, hu⟩
  · rintro ⟨hs, hx, fs, qs, news, hfs, hqs, hnews, rfl, hu⟩
    rw [← hskip hs hqs] at hnews
    exact ⟨_, ⟨hs, rfl⟩, _, ⟨hx, rfl⟩, fs, hfs, qs, hqs, _, ⟨news, hnews, rfl⟩, rfl, hu⟩

/-- **When an accepted generation merges**: it returns exactly where it fits the revision, for every profile, every
revision that holds the profile's sections and controls, and every result that the parsers accept for it. -/
theorem mergeGeneration_returns_iff (hc : c.Valid)
    (hsections : ∀ id ∈ profile.itemIds, id ∈ c.sections.map SectionContent.key)
    (hcontrols : ∀ id ∈ profile.controlIds, id ∈ c.controls.map ControlContent.controlId)
    (hr : Accepted host fresh (.ofProfile profile (generationFactIds c)) r) :
    (∃ c', mergeGeneration host c r = .ok c') ↔ Fits host c r := by
  have hshape := hr.shape
  have hu := hc.unique
  obtain ⟨-, hvs, hvx, hvq, -⟩ := RevisionContent.valid_iff.1 hc
  have hs : SectionsMerge host c.facts r.sections c.sections ↔
      ∀ g ∈ r.sections, ∀ s ∈ c.sections, s.key = g.sectionId → ¬s.Kept → g.content.length ≤ 100000 := by
    refine forall₂_congr fun g hg => ?_
    obtain ⟨s, hs⟩ := Option.isSome_iff_exists.1 (KeyedList.get?_isSome.2 (hsections _ (hshape.sections g hg).1))
    rw [getSection, hs]
    have hmem := (KeyedList.get?_eq_some hu.sections).1 hs
    have hok : (∃ s', generatedSection host c.facts g s = .ok s') ↔ _ :=
      generatedSection_isOk hc hmem.1 (hshape.sections g hg).2
    constructor
    · rintro ⟨_, ⟨⟩, hs'⟩ s₂ hs₂ hkey
      obtain rfl : s₂ = s := Option.some.inj (((KeyedList.get?_eq_some hu.sections).2 ⟨hs₂, hkey⟩).symm.trans hs)
      exact hok.1 hs'
    · exact fun h => ⟨s, rfl, hok.2 (h s hmem.1 hmem.2)⟩
  have hx : ControlsMerge host c.facts r.controls c.controls ↔
      ∀ g ∈ r.controls, ∀ x ∈ c.controls, x.controlId = g.controlId → x.state ≠ .reviewed →
        g.implementationStatus.length ≤ 64 ∧ g.responsibility.length ≤ 64 ∧
          g.implementationStatement.length ≤ 100000 := by
    refine forall₂_congr fun g hg => ?_
    obtain ⟨x, hx⟩ := Option.isSome_iff_exists.1 (KeyedList.get?_isSome.2 (hcontrols _ (hshape.controls g hg).1))
    rw [getControl, hx]
    have hmem := (KeyedList.get?_eq_some hu.controls).1 hx
    have hok : (∃ x', generatedControl host c.facts g x = .ok x') ↔ _ :=
      generatedControl_isOk hc hmem.1 (hshape.controls g hg).2
    constructor
    · rintro ⟨_, ⟨⟩, hx'⟩ x₂ hx₂ hkey
      obtain rfl : x₂ = x := Option.some.inj (((KeyedList.get?_eq_some hu.controls).2 ⟨hx₂, hkey⟩).symm.trans hx)
      exact hok.1 hx'
    · exact fun h => ⟨x, rfl, hok.2 (h x hmem.1 hmem.2)⟩
  have htarget : ∀ g ∈ r.questions, 1 ≤ g.targetId.length := by
    intro g hg
    have hallowed := (hshape.questions g hg).1
    unfold allowedTargets at hallowed
    split_ifs at hallowed
    · obtain ⟨s, hs, hkey⟩ := List.mem_map.1 (hsections _ hallowed)
      exact hkey ▸ (SectionContent.valid_iff.1 (hvs s hs)).1
    · obtain ⟨x, hx, hkey⟩ := List.mem_map.1 (hcontrols _ hallowed)
      have hid := (ControlContent.valid_iff.1 (hvx x hx)).1
      rw [hkey] at hid
      by_contra hlength
      rw [String.length_eq_zero_iff.1 (by omega : g.targetId.length = 0)] at hid
      exact absurd hid (by decide)
  have hq : (∃ news, (r.questions.filter fun g => decide (Fresh host c r g)).mapM openQuestion = .ok news) ↔
      ∀ g ∈ r.questions, Fresh host c r g → g.Fits := by
    rw [Results.mapM_isOk]
    simp only [List.mem_filter, decide_eq_true_eq, and_imp]
    exact forall₂_congr fun g hg => imp_congr_right fun _ => openQuestion_isOk (htarget g hg)
  have hanswers (hmerge : SectionsMerge host c.facts r.sections c.sections) :
      (∃ qs, resolveDirectSectionQuestions c.questions (c.sections.map (mergedSection host c.facts r.sections)) =
        .ok qs) ↔ ∀ q ∈ c.questions, q.state = .opened →
          ∀ a ∈ answerAfter r.sections c.sections q.targetType q.targetKey, a.length ≤ 20000 := by
    simp only [resolveDirectSectionQuestions_isOk hvq, directSectionAnswer_merged hu.sections hmerge]
  constructor
  · rintro ⟨c', h⟩
    obtain ⟨hs', hx', fs, qs, news, -, hqs, hnews, -⟩ := (mergeGeneration_eq_ok hu hshape).1 h
    exact ⟨hs.1 hs', hx.1 hx', (hanswers hs').1 ⟨qs, hqs⟩, hq.1 ⟨news, hnews⟩⟩
  · intro hfits
    have hs' := hs.2 hfits.sections
    obtain ⟨fs, hfs, hdistinct⟩ := generationFacts_isOk hu hshape
    obtain ⟨qs, hqs⟩ := (hanswers hs').2 hfits.answers
    obtain ⟨news, hnews⟩ := hq.2 hfits.questions
    have hids : KeyedList.Distinct QuestionContent.idKey qs := by
      rw [KeyedList.Distinct, (resolveDirectSectionQuestions_ok hqs).1]
      exact hu.questions
    refine ⟨_, (mergeGeneration_eq_ok hu hshape).2
      ⟨hs', hx.2 hfits.controls, fs, qs, news, hfs, hqs, hnews, rfl, RevisionContent.uniqueError_eq_none.2 ?_⟩⟩
    exact {
      facts := KeyedList.distinct_sorted hdistinct
      sections := KeyedList.distinct_sorted ((KeyedList.distinct_map key_mergedSection).2 hu.sections)
      controls := KeyedList.distinct_sorted ((KeyedList.distinct_map controlId_mergedControl).2 hu.controls)
      questions := KeyedList.distinct_sorted (KeyedList.distinct_update hids) }

end

namespace Small

/-- a revision that holds the section and the control of the profile -/
def outlined : RevisionContent where
  facts := [⟨"evidence.a", .str "text", .extracted, [⟨.ofNat 50, [("page", .int 1)], page_ne_nil⟩], .active⟩]
  sections := [⟨"system.purpose", "Purpose", "", .empty, []⟩]
  controls := [{ controlId := "AC-1", title := "Policy", state := .empty }]

/-- a response with a section, a control and one question about the control -/
def generation (question : String) : Json :=
  .obj [("schema_version", .str schemaVersion),
    ("sections", .arr [
      .obj [("section_id", .str "system.purpose"), ("content", .str "It serves mail."),
        ("supporting_fact_ids", stringsJson ["evidence.a"])]]),
    ("controls", .arr [
      .obj [("control_id", .str "AC-1"), ("implementation_status", .str "planned"), ("responsibility", .str "hybrid"),
        ("implementation_statement", .str ""), ("supporting_fact_ids", stringsJson ["evidence.a"])]]),
    ("questions", .arr [
      .obj [("target_type", .str "control"), ("target_id", .str "AC-1"), ("question", .str question),
        ("owner_type", .str "isso")]]),
    ("categorization", .null)]

def generated (question : String) : Except Err GenerationResult :=
  parseGenerationResponse responseHost (fun _ => "") (.ofProfile defaultsProfile (generationFactIds outlined))
    (String.ofList ((generation question).dumps .compact))

theorem outlined_valid : outlined.Valid := by decide

end Small

theorem mergeGeneration_returns_small : ∃ r, Small.generated "Who signs it?" = .ok r ∧
    ((∃ c', mergeGeneration Small.responseHost Small.outlined r = .ok c') ↔
      Fits Small.responseHost Small.outlined r) := by
  have hok : (Small.generated "Who signs it?").toOption.isSome = true := by
    rw [Small.generated, parseGenerationResponse, parseJsonObject, Py.chars_eq (String.ofList _), String.toList_ofList]
    decide +kernel
  generalize hres : Small.generated "Who signs it?" = res at hok
  cases res with
  | error e => cases hok
  | ok r =>
    have hsections : ∀ id ∈ Small.defaultsProfile.itemIds,
        id ∈ Small.outlined.sections.map SectionContent.key := by decide
    have hcontrols : ∀ id ∈ Small.defaultsProfile.controlIds,
        id ∈ Small.outlined.controls.map ControlContent.controlId := by decide
    exact ⟨r, rfl, mergeGeneration_returns_iff Small.outlined_valid hsections hcontrols (.whole hres)⟩

/-- the parser accepts a question without text, and the revision does not hold one -/
theorem blankQuestion_not_merged : ¬∀ (host : Host) (fresh : Nat → String) (profile : ResolvedProfile)
    (c : RevisionContent) (r : GenerationResult), c.Valid →
    c.sections.map SectionContent.key = profile.itemIds → c.controls.map ControlContent.controlId = profile.controlIds →
    Accepted host fresh (.ofProfile profile (generationFactIds c)) r → ∃ c', mergeGeneration host c r = .ok c' := by
  intro h
  have hrun : (match Small.generated " " with
      | .ok r => (mergeGeneration Small.responseHost Small.outlined r).toOption.isNone
      | .error _ => false) = true := by
    rw [Small.generated, parseGenerationResponse, parseJsonObject, Py.chars_eq (String.ofList _), String.toList_ofList]
    decide +kernel
  generalize hres : Small.generated " " = res at hrun
  cases res with
  | error e => cases hrun
  | ok r =>
    obtain ⟨c', hc'⟩ := h Small.responseHost (fun _ => "") Small.defaultsProfile Small.outlined r Small.outlined_valid
      (by decide) (by decide) (.whole hres)
    simp only [hc'] at hrun
    cases hrun

end AtoService.Workspace
