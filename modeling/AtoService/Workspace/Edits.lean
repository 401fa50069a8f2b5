/-
The edits of a revision's content, one for each way in which the service makes the content of a new revision.

`Edit.apply` is the transform of an edit. Every edit but a migration and a restore rewrites the content it starts from:
`rewritten_of_apply` says section by section, control by control and fact by fact what it may write, that what it writes
is valid, and that a confirmation which stands afterwards stood before, unless the edit is that confirmation.
-/
import AtoService.Workspace.Diagram
import AtoService.Workspace.Evidence
import AtoService.Workspace.Facts
import AtoService.Workspace.Migration

namespace AtoService.Workspace

open AtoService.Py

inductive Edit where
  | editSection (key text : String)
  | editControl (controlId statement : String) (implementationStatus responsibility : Option String)
  | answer (questionId : Uuid) (text : String)
  | generation (r : GenerationResult)
  | proposal (g : GeneratedCategorization)
  | patch (r : PatchResult) (currentRevision : Nat)
  | definition (i : SystemDefinitionInput)
  | diagram (i : SystemDefinitionInput) (metadata : Json)
  | informationTypes (ms : List InformationTypeMapping)
  | ingest (facts : List FactContent)
  | remove (artifactId : Uuid)
  | migrate (old new : ResolvedProfile) (newRow : ProfileRow) (level : String)
      (categorization : Option (List FactContent))
  | restore (target : RevisionContent)

/-- what the checks of a submitted categorization have established -/
structure CategorizationInput.Checked (i : CategorizationInput) : Prop where
  levels : isImpactLevel i.confidentiality = true ∧ isImpactLevel i.integrity = true ∧ isImpactLevel i.availability = true
  rationales : hasText i.rationales.1 = true ∧ hasText i.rationales.2.1 = true ∧ hasText i.rationales.2.2 = true
  evidence : i.evidence.confidentiality ≠ [] ∧ i.evidence.integrity ≠ [] ∧ i.evidence.availability ≠ []

namespace Edit

/-- the content that an edit makes -/
def apply (host : Host) (e : Edit) (base : RevisionContent) : Except Err RevisionContent :=
  match e with
  | .editSection key text => Workspace.editSection base key text
  | .editControl controlId statement status responsibility =>
    Workspace.editControl base controlId statement status responsibility
  | .answer questionId text => answerQuestion base questionId text
  | .generation r => mergeGeneration host base r
  | .proposal g => mergeCategorizationProposal host base g
  | .patch r currentRevision => applyAgentPatch host base r currentRevision
  | .definition i => applySystemDefinitionSections base i
  | .diagram i metadata => applySystemDefinitionProposal base i metadata
  | .informationTypes ms => applyInformationTypeRegister base ms
  | .ingest facts => .ok (addExtractedFacts base facts)
  | .remove artifactId => .ok (removeArtifact base artifactId)
  | .migrate old new newRow level categorization => do
    let diff ← migrationDiff old new newRow
    migrateContent host base old new diff level categorization
  | .restore target => .ok target

/-- the edits that start from the content of the current revision and keep its sections and controls -/
def Rewrites : Edit → Prop
  | .migrate .. | .restore _ => False
  | _ => True

/-! ## What an edit may write -/

/-- the section that an answer writes, when the question is one that a section answers directly -/
def answeredSection (base : RevisionContent) (questionId : Uuid) : Option String :=
  ((base.questions.find? fun q => q.questionId = questionId).filter fun q =>
    q.targetType = .sspSection ∧ q.targetKey ∈ directAnswerSectionKeys).map QuestionContent.targetKey

/-- what writing the texts of registers makes of one section -/
def RegisterWrite (updates : List (String × String)) (s s' : SectionContent) : Prop :=
  match KeyedList.get? Prod.fst s.key updates with
  | some p => s'.content = p.2
  | none => s' = s

/-- what an edit of `base` may make of one section -/
def SectionWrite (base : RevisionContent) (e : Edit) (s s' : SectionContent) : Prop :=
  match e with
  | .editSection key text =>
    if s.key = key then s' = { s with content := text, state := if hasText text then .edited else .empty } else s' = s
  | .answer questionId text =>
    if answeredSection base questionId = some s.key then s' = { s with content := strip text, state := .edited }
    else s' = s
  | .generation r =>
    s' = s ∨ (s.state ≠ .edited ∧ s.state ≠ .reviewed ∧ s'.state ≠ .edited ∧ s'.state ≠ .reviewed ∧
      ∃ g ∈ r.sections, g.sectionId = s.key ∧ s'.content = g.content)
  | .patch r _ => s' = s ∨ ∃ p ∈ r.patches, p.targetType = .sspSection ∧ p.targetId = s.key
  | .definition i | .diagram i _ => RegisterWrite i.sectionTexts s s'
  | .informationTypes ms =>
    if s.key = InformationTypes.sectionKey then informationTypesJson ms = .ok s'.content else s' = s
  | .remove artifactId => s' = { s with evidence := withoutArtifact artifactId s.evidence }
  | _ => s' = s

/-- what an edit may make of one control -/
def ControlWrite (e : Edit) (x x' : ControlContent) : Prop :=
  match e with
  | .editControl controlId statement _ _ =>
    if x.controlId = controlId then
      x'.implementationStatement = statement ∧ x'.state = if hasText statement then .reviewed else .partly
    else x' = x
  | .generation _ => x' = x ∨ (x.state ≠ .reviewed ∧ x'.state ≠ .reviewed)
  | .patch r _ => x' = x ∨ ∃ p ∈ r.patches, p.targetType ≠ .sspSection ∧ p.targetId = x.controlId
  | .remove artifactId => x' = { x with evidence := withoutArtifact artifactId x.evidence }
  | _ => x' = x

/-- the keys of the facts that an edit may write -/
def Touches (e : Edit) (k : String) : Prop :=
  match e with
  | .editSection .. | .patch .. => k ∈ statusKeys ∨ k = provisionalKey
  | .generation _ | .proposal _ => k ∈ Categorization.impactFactKeys ∨ k ∈ Categorization.rationaleFactKeys
  | .definition _ => k = SystemDefinition.statusKey
  | .diagram .. => k = SystemDefinition.statusKey ∨ k = proposalKey
  | .informationTypes _ => k = InformationTypes.statusKey
  | .ingest facts => ∃ f ∈ facts, f.key = k
  | _ => False

/-- a fact that an edit of `base` may write -/
def FactWrite (base : RevisionContent) (e : Edit) (g : FactContent) : Prop :=
  match e with
  | .editSection .. | .patch .. => IsMark base g
  | .ingest facts => g ∈ facts
  | .definition _ | .informationTypes _ => e.Touches g.key ∧ g = .isso g.key (.str "confirmed")
  | _ => e.Touches g.key ∧ g.state = .active ∧ g.Valid ∧ ∃ text, g.value = .str text

/-- what an edit leaves of a fact that it does not write -/
def keepFact : Edit → FactContent → Option FactContent
  | .remove artifactId, f => retainedFact artifactId f
  | _, f => some f

/-- the sections whose change makes the confirmations over them stale -/
def Marks : Edit → String → Prop
  | .editSection key _, k => k = key
  | .patch r _, k => ∃ p ∈ r.patches, p.targetType = .sspSection ∧ p.targetId = k
  | _, _ => False

/-- what the service has checked of an edit before it applies it -/
def Admissible : Edit → Prop
  | .ingest facts => ∀ f ∈ facts, f.Valid ∧ f.state = .active ∧ f.evidence ≠ [] ∧ (∃ text, f.value = .str text) ∧
      ∃ k : EvidenceKey, f.key = k.text
  | .migrate _ new newRow level categorization =>
    newRow.bundle.WellFormed ∧ resolveStoredProfile newRow level = .ok new ∧
      ∀ facts ∈ categorization, ∃ i : CategorizationInput, i.Checked ∧ facts = buildConfirmedCategorizationFacts i ∧
        level = highWaterMarkImpact i.confidentiality i.integrity i.availability
  | .restore target => target.Valid
  | _ => True

/-- the confirmation that an edit gives -/
def Confirms : Edit → String → Prop
  | .definition _, k => k = SystemDefinition.statusKey
  | .informationTypes _, k => k = InformationTypes.statusKey
  | _, _ => False

end Edit

/-- the facts `fs` are those of `base` after the writes of an edit -/
structure FactsRewritten (e : Edit) (base : RevisionContent) (fs : List FactContent) : Prop where
  distinct : KeyedList.Distinct FactContent.key fs
  source : ∀ g ∈ fs, (∃ f ∈ base.facts, e.keepFact f = some g) ∨ e.FactWrite base g
  frame : ∀ k, ¬e.Touches k → getFact k fs = (getFact k base.facts).bind e.keepFact
  provisional : getFact impactKey base.facts = none →
    getFact provisionalKey fs = (getFact provisionalKey base.facts).bind e.keepFact
  statuses : ∀ k ∈ statusKeys, activeText k fs = some "confirmed" →
    activeText k base.facts = some "confirmed" ∨ e.Confirms k

/-- `c` is `base` rewritten by the edit `e` -/
structure Rewritten (e : Edit) (base c : RevisionContent) : Prop where
  sections : KeyedList.Rewrites SectionContent.key (fun s s' => e.SectionWrite base s s' ∧ (s.Valid → s'.Valid))
    base.sections c.sections
  controls : KeyedList.Rewrites ControlContent.controlId (fun x x' => e.ControlWrite x x' ∧ (x.Valid → x'.Valid))
    base.controls c.controls
  questions : KeyedList.Distinct QuestionContent.idKey c.questions
  validQuestions : (∀ q ∈ base.questions, q.Valid) → ∀ q ∈ c.questions, q.Valid
  facts : FactsRewritten e base c.facts
  factOrder : (c.facts.Pairwise fun a b => a.key ≤ b.key) ∨
    (c.facts.map FactContent.key).Sublist (base.facts.map FactContent.key)
  stale : ∀ k key, Covers k key → e.Marks key → activeText k c.facts ≠ some "confirmed"

/-! ## Writing facts -/

theorem activeText_confirmed {k : String} {fs : List FactContent} :
    activeText k fs = some "confirmed" ↔ ∃ f, getFact k fs = some f ∧ f.state = .active ∧ f.value = .str "confirmed" := by
  rw [activeText]
  cases getFact k fs with
  | none => simp
  | some f =>
    by_cases hs : f.state = .active
    · simp only [hs, if_true, Option.some.injEq, true_and, exists_eq_left']
      exact ⟨Json.eq_str_of_asStr, fun h => by rw [h]; rfl⟩
    · simp [hs]

namespace FactsRewritten

variable {e : Edit} {base : RevisionContent} {fs : List FactContent}

theorem bind_keep (hk : ∀ f, e.keepFact f = some f) (o : Option FactContent) : o.bind e.keepFact = o := by
  cases o with
  | none => rfl
  | some f => exact hk f

theorem refl (hk : ∀ f, e.keepFact f = some f) (hd : KeyedList.Distinct FactContent.key base.facts) :
    FactsRewritten e base base.facts where
  distinct := hd
  source g hg := Or.inl ⟨g, hg, hk g⟩
  frame k _ := (bind_keep hk _).symm
  provisional _ := (bind_keep hk _).symm
  statuses _ _ := Or.inl

theorem put (h : FactsRewritten e base fs) {g : FactContent} (hw : e.FactWrite base g) (ht : e.Touches g.key)
    (hp : g.key ≠ provisionalKey) (hs : g.key ∈ statusKeys → g.value = .str "confirmed" → e.Confirms g.key) :
    FactsRewritten e base (putFact g fs) where
  distinct := distinct_putFact h.distinct
  source f hf := by
    rcases mem_putFact hf with rfl | hf
    · exact Or.inr hw
    · exact h.source f hf
  frame k hk := by
    have hne : g.key ≠ k := fun hg => hk (hg ▸ ht)
    rw [getFact_put_ne hne]
    exact h.frame k hk
  provisional hn := by
    rw [getFact_put_ne hp]
    exact h.provisional hn
  statuses k hk hc := by
    by_cases hkey : g.key = k
    · subst hkey
      obtain ⟨f, hf, -, hv⟩ := activeText_confirmed.1 hc
      rw [getFact_put, if_pos rfl, Option.some.injEq] at hf
      exact Or.inr (hs hk (hf ▸ hv))
    · rw [activeText_put_ne hkey] at hc
      exact h.statuses k hk hc

theorem sort (h : FactsRewritten e base fs) : FactsRewritten e base (sortFacts fs) where
  distinct := distinct_sortFacts h.distinct
  source f hf := h.source f (mem_sortFacts.1 hf)
  frame k hk := (getFact_sort h.distinct).trans (h.frame k hk)
  provisional hn := (getFact_sort h.distinct).trans (h.provisional hn)
  statuses k hk hc := h.statuses k hk (by rwa [activeText_sort h.distinct] at hc)

/-- only the lookups matter -/
theorem congr (h : FactsRewritten e base fs) {fs' : List FactContent} (hd : KeyedList.Distinct FactContent.key fs')
    (hget : ∀ k, getFact k fs' = getFact k fs) : FactsRewritten e base fs' where
  distinct := hd
  source g hg := by
    have hgs : getFact g.key fs = some g := (hget g.key).symm.trans ((KeyedList.get?_eq_some hd).2 ⟨hg, rfl⟩)
    exact h.source g (KeyedList.mem_of_get? hgs)
  frame k hk := (hget k).trans (h.frame k hk)
  provisional hn := (hget _).trans (h.provisional hn)
  statuses k hk hc := h.statuses k hk (by rwa [activeText_congr (hget k)] at hc)

/-- marking writes its marks and leaves the rest -/
theorem marked (h : ∀ f, e.keepFact f = some f) (ht : ∀ k, e.Touches k ↔ k ∈ statusKeys ∨ k = provisionalKey)
    (hw : ∀ g, IsMark base g → e.FactWrite base g) (hd : KeyedList.Distinct FactContent.key base.facts)
    {c' c : RevisionContent} (m : Marked c' c) (hc' : c'.facts = base.facts) : FactsRewritten e base c.facts where
  distinct := m.distinct (hc' ▸ hd)
  source g hg := by
    rcases m.mem g hg with hg | hg
    · exact Or.inl ⟨g, hc' ▸ hg, h g⟩
    · exact Or.inr (hw g (by rwa [IsMark, hc'] at hg))
  frame k hk := by
    rw [ht, not_or] at hk
    rw [bind_keep h, m.frame (hc' ▸ hd) k hk.1 hk.2, hc']
  provisional hn := by
    rw [bind_keep h, m.provisional (hc' ▸ hd) (by rw [hc', hn]), hc']
  statuses k hk hc := by
    rcases m.statuses (hc' ▸ hd) k hk with he | hs
    · exact Or.inl (by rwa [he, hc'] at hc)
    · rw [hs] at hc
      exact absurd hc (by decide)

end FactsRewritten

/-! ## Questions -/

theorem resolveDirectSectionQuestions_ok {questions qs : List QuestionContent} {sections : List SectionContent}
    (h : resolveDirectSectionQuestions questions sections = .ok qs) :
    qs.map QuestionContent.idKey = questions.map QuestionContent.idKey ∧
      ((∀ q ∈ questions, q.Valid) → ∀ q ∈ qs, q.Valid) := by
  replace h := mapM_eq_ok.1 h
  induction h with
  | nil => exact ⟨rfl, id⟩
  | @cons q q' questions qs hq _ ih =>
    have hstep : q'.idKey = q.idKey ∧ (q.Valid → q'.Valid) := by
      split at hq
      · split_ifs at hq
        · obtain ⟨rfl, hv⟩ := validated_eq_ok.1 hq
          exact ⟨rfl, fun _ => hv⟩
        · obtain rfl := Except.ok.inj hq
          exact ⟨rfl, id⟩
      · obtain rfl := Except.ok.inj hq
        exact ⟨rfl, id⟩
    refine ⟨by rw [List.map_cons, List.map_cons, hstep.1, ih.1], fun hv q'' hq'' => ?_⟩
    rcases List.mem_cons.1 hq'' with rfl | hq''
    · exact hstep.2 (hv q List.mem_cons_self)
    · exact ih.2 (fun q hq => hv q (List.mem_cons_of_mem _ hq)) q'' hq''

/-- a question that is opened: its owner is one of the known ones, and it is valid -/
theorem openQuestion_eq_ok {g : GeneratedQuestion} {q : QuestionContent} : openQuestion g = .ok q ↔
    ∃ ownerType, ownerTypeOf g.ownerType = some ownerType ∧ q = {
      questionId := uuid5 questionNamespace g.questionKey
      question := g.question
      targetType := g.targetType
      targetKey := g.targetId
      ownerType } ∧ q.Valid := by
  unfold openQuestion
  cases ownerTypeOf g.ownerType with
  | none => simp
  | some o =>
    simp only [validated_eq_ok, Option.some.injEq, exists_eq_left']
    refine and_congr_right fun hq => ?_
    rw [hq, QuestionContent.Valid]

theorem addQuestions_valid {skip : GeneratedQuestion → Bool} {gs : List GeneratedQuestion}
    {questions qs : List QuestionContent} (h : addQuestions skip gs questions = .ok qs)
    (hv : ∀ q ∈ questions, q.Valid) : ∀ q ∈ qs, q.Valid := by
  refine foldlM_inv (P := fun qs => ∀ q ∈ qs, q.Valid) (fun g _ qs qs' hqs hg q hq => ?_) hv h
  simp only [bind_eq_ok, pure_eq_ok, openQuestion_eq_ok] at hg
  obtain ⟨q', ⟨_, -, -, hq'⟩, rfl⟩ := hg
  rcases KeyedList.mem_put hq with rfl | hq
  · exact hq'
  · exact hqs q hq

/-! ## Direct edits -/

section

variable {base c : RevisionContent}

theorem rewritten_editSection (hb : base.Unique) {key text : String} (h : editSection base key text = .ok c) :
    Rewritten (.editSection key text) base c := by
  unfold editSection at h
  cases hs : getSection key base.sections with
  | none => simp [hs] at h
  | some s =>
    simp only [hs, bind_eq_ok, pure_eq_ok, validated_eq_ok] at h
    obtain ⟨s', ⟨rfl, hs'⟩, questions, -, updated, ⟨rfl, hv⟩, rfl⟩ := h
    have m := marked_markStale { base with
      sections := putSection { s with content := text, state := if hasText text then .edited else .empty } base.sections
      questions := sortQuestions questions } key
    obtain ⟨-, -, -, hq, hu⟩ := RevisionContent.valid_iff.1 hv
    have hkey : s.key = key := KeyedList.key_of_get? hs
    refine ⟨?_, ?_, ?_, ?_, FactsRewritten.marked (fun _ => rfl) (fun _ => Iff.rfl) (fun _ => id) hb.facts m rfl,
      m.order.symm.imp id fun he => ?_, fun k k' hc hk => ?_⟩
    · rw [m.sections]
      refine KeyedList.Rewrites.assign hb.sections hs hkey ⟨?_, fun _ => hs'⟩ fun y _ hy => ⟨?_, id⟩
      · rw [Edit.SectionWrite, if_pos hkey]
      · rw [Edit.SectionWrite, if_neg hy]
    · rw [m.controls]
      exact KeyedList.Rewrites.refl fun _ _ => ⟨rfl, id⟩
    · rw [m.questions]
      exact hu.questions
    · rw [m.questions]
      exact fun _ => hq
    · rw [he]
    · obtain rfl : k' = key := hk
      refine markStale_not_confirmed ?_ hc
      exact hb.facts

theorem rewritten_editControl (hb : base.Unique) {controlId statement : String} {status responsibility : Option String}
    (h : editControl base controlId statement status responsibility = .ok c) :
    Rewritten (.editControl controlId statement status responsibility) base c := by
  unfold editControl at h
  cases hx : getControl controlId base.controls with
  | none => simp [hx] at h
  | some x =>
    simp only [hx, bind_eq_ok, validated_eq_ok] at h
    obtain ⟨x', ⟨rfl, hx'⟩, rfl, hv⟩ := h
    obtain ⟨-, -, -, hq, hu⟩ := RevisionContent.valid_iff.1 hv
    have hkey : x.controlId = controlId := KeyedList.key_of_get? hx
    refine ⟨KeyedList.Rewrites.refl fun _ _ => ⟨rfl, id⟩, ?_, hu.questions, fun _ => hq,
      FactsRewritten.refl (fun _ => rfl) hb.facts, Or.inr (List.Sublist.refl _), fun _ _ _ hk => hk.elim⟩
    refine KeyedList.Rewrites.assign hb.controls hx hkey ⟨?_, fun _ => hx'⟩ fun y _ hy => ⟨?_, id⟩
    · rw [Edit.ControlWrite, if_pos hkey]
      exact ⟨rfl, rfl⟩
    · rw [Edit.ControlWrite, if_neg hy]

/-- the sections of an answer: the one that the question names, when a section answers it directly -/
theorem answerSections_ok (hb : base.Unique) {selected : QuestionContent} {text : String}
    {sections : List SectionContent} (h : answerSections base selected text = .ok sections) :
    KeyedList.Rewrites SectionContent.key (fun s s' =>
      (if selected.targetType = .sspSection ∧ selected.targetKey ∈ directAnswerSectionKeys ∧ selected.targetKey = s.key
        then s' = { s with content := text, state := .edited } else s' = s) ∧ (s.Valid → s'.Valid))
      base.sections sections := by
  unfold answerSections at h
  split_ifs at h with hd
  · cases hs : getSection selected.targetKey base.sections with
    | none => simp [hs] at h
    | some s =>
      simp only [hs, bind_eq_ok, pure_eq_ok, validated_eq_ok] at h
      obtain ⟨s', ⟨rfl, hs'⟩, rfl⟩ := h
      have hkey : s.key = selected.targetKey := KeyedList.key_of_get? hs
      refine KeyedList.Rewrites.assign hb.sections hs hkey ⟨?_, fun _ => hs'⟩ fun y _ hy => ⟨?_, id⟩
      · rw [if_pos ⟨hd.1, hd.2, hkey.symm⟩]
      · rw [if_neg fun hc => hy hc.2.2.symm]
  · obtain rfl := Except.ok.inj h
    refine KeyedList.Rewrites.refl fun s _ => ⟨?_, id⟩
    rw [if_neg fun hc => hd ⟨hc.1, hc.2.1⟩]

theorem rewritten_answer (hb : base.Unique) {questionId : Uuid} {text : String}
    (h : answerQuestion base questionId text = .ok c) : Rewritten (.answer questionId text) base c := by
  simp only [answerQuestion, bind_eq_ok, ensure_eq_ok] at h
  obtain ⟨-, -, h⟩ := h
  cases hq : base.questions.find? fun q => q.questionId = questionId with
  | none => simp [hq] at h
  | some selected =>
    simp only [hq, bind_eq_ok, ensure_eq_ok, validated_eq_ok] at h
    obtain ⟨-, -, sections, hs, questions, -, rfl, hv⟩ := h
    obtain ⟨-, -, -, hvq, hu⟩ := RevisionContent.valid_iff.1 hv
    refine ⟨(answerSections_ok hb hs).mono fun s _ s' _ hw => ⟨?_, hw.2⟩, KeyedList.Rewrites.refl fun _ _ => ⟨rfl, id⟩,
      hu.questions, fun _ => hvq, FactsRewritten.refl (fun _ => rfl) hb.facts, Or.inr (List.Sublist.refl _),
      fun _ _ _ hk => hk.elim⟩
    have hw := hw.1
    have hans : Edit.answeredSection base questionId = some s.key ↔ selected.targetType = .sspSection ∧
        selected.targetKey ∈ directAnswerSectionKeys ∧ selected.targetKey = s.key := by
      rw [Edit.answeredSection, hq, Option.map_eq_some_iff]
      constructor
      · rintro ⟨q, hf, hk⟩
        obtain ⟨hsel, hp⟩ := Option.filter_eq_some_iff.1 hf
        obtain rfl := Option.some.inj hsel
        exact ⟨(of_decide_eq_true hp).1, (of_decide_eq_true hp).2, hk⟩
      · rintro ⟨ht, hd, hk⟩
        exact ⟨selected, Option.filter_eq_some_iff.2 ⟨rfl, decide_eq_true ⟨ht, hd⟩⟩, hk⟩
    simpa only [Edit.SectionWrite, hans] using hw

end

/-! ## Model output -/

section

variable {host : Host} {base c : RevisionContent}

theorem proposalKeys_ne : ∀ k ∈ Categorization.impactFactKeys ++ Categorization.rationaleFactKeys,
    k ≠ provisionalKey ∧ k ∉ statusKeys := by decide

/-- a proposal writes its facts, and only where no categorization is confirmed -/
theorem applyCategorizationProposal_ok {e : Edit} {fs fs' : List FactContent} {g : GeneratedCategorization}
    (ht : ∀ k, e.Touches k ↔ k ∈ Categorization.impactFactKeys ∨ k ∈ Categorization.rationaleFactKeys)
    (hw : ∀ f, e.Touches f.key ∧ f.state = .active ∧ f.Valid ∧ (∃ text, f.value = .str text) → e.FactWrite base f)
    (hfs : FactsRewritten e base fs) (h : applyCategorizationProposalToFacts host fs g = .ok fs') :
    FactsRewritten e base fs' ∧ categorizationIsConfirmed fs = false := by
  simp only [applyCategorizationProposalToFacts, bind_eq_ok, ensure_eq_ok] at h
  obtain ⟨-, hconf, evidence, -, h⟩ := h
  refine ⟨foldlM_inv (fun p hp fs fs' hfs hstep => ?_) hfs h, by simpa using hconf⟩
  simp only [bind_eq_ok, pure_eq_ok, validated_eq_ok] at hstep
  obtain ⟨f, ⟨rfl, hv⟩, rfl⟩ := hstep
  have hmem : p.1 ∈ Categorization.impactFactKeys ++ Categorization.rationaleFactKeys := by
    have hkeys : (proposedValues g).map Prod.fst = Categorization.impactFactKeys ++ Categorization.rationaleFactKeys := rfl
    exact hkeys ▸ List.mem_map_of_mem hp
  have htouch : e.Touches p.1 := (ht p.1).2 (List.mem_append.1 hmem)
  obtain ⟨hp, hs⟩ := proposalKeys_ne p.1 hmem
  exact hfs.put (hw _ ⟨htouch, rfl, hv, p.2, rfl⟩) htouch hp fun hk => absurd hk hs

theorem rewritten_proposal (hb : base.Unique) {g : GeneratedCategorization}
    (h : mergeCategorizationProposal host base g = .ok c) : Rewritten (.proposal g) base c := by
  simp only [mergeCategorizationProposal, bind_eq_ok, pure_eq_ok] at h
  obtain ⟨fs, hfs, rfl⟩ := h
  rw [hb.factDict] at hfs
  have hf := (applyCategorizationProposal_ok (fun _ => Iff.rfl) (fun _ => id)
    (FactsRewritten.refl (e := .proposal g) (fun _ => rfl) hb.facts) hfs).1
  exact ⟨KeyedList.Rewrites.refl fun _ _ => ⟨rfl, id⟩, KeyedList.Rewrites.refl fun _ _ => ⟨rfl, id⟩, hb.questions, id,
    hf.sort, Or.inl (sortFacts_pairwise _), fun _ _ _ hk => hk.elim⟩

theorem mergeSection_ok {r : GenerationResult} {fs : List FactContent} {xs ys : List SectionContent}
    {g : GeneratedSection} (hg : g ∈ r.sections)
    (hxs : KeyedList.Rewrites SectionContent.key
      (fun s s' => Edit.SectionWrite base (.generation r) s s' ∧ (s.Valid → s'.Valid)) base.sections xs)
    (h : mergeSection host fs xs g = .ok ys) :
    KeyedList.Rewrites SectionContent.key
      (fun s s' => Edit.SectionWrite base (.generation r) s s' ∧ (s.Valid → s'.Valid)) base.sections ys := by
  unfold mergeSection at h
  cases hs : getSection g.sectionId xs with
  | none => simp [hs] at h
  | some current =>
    simp only [hs] at h
    by_cases hp : current.state = .edited ∨ current.state = .reviewed
    · rw [if_pos hp] at h
      obtain rfl := Except.ok.inj h
      exact hxs
    · simp only [if_neg hp, bind_eq_ok, pure_eq_ok, validated_eq_ok] at h
      obtain ⟨evidence, -, s', ⟨rfl, hv⟩, rfl⟩ := h
      rw [not_or] at hp
      have hkey : current.key = g.sectionId := KeyedList.key_of_get? hs
      refine hxs.put hs hkey fun s _ hsk hw => ⟨Or.inr ?_, fun _ => hv⟩
      have hfree : s.state ≠ .edited ∧ s.state ≠ .reviewed := by
        rcases hw.1 with rfl | hw
        · exact hp
        · exact ⟨hw.1, hw.2.1⟩
      have hstate : ∀ b : Bool, (if b then SectionState.generated else .empty) ≠ .edited ∧
          (if b then SectionState.generated else .empty) ≠ .reviewed := by decide
      exact ⟨hfree.1, hfree.2, (hstate _).1, (hstate _).2, g, hg, hsk.symm, rfl⟩

theorem mergeControl_ok {r : GenerationResult} {fs : List FactContent} {xs ys : List ControlContent}
    {g : GeneratedControl}
    (hxs : KeyedList.Rewrites ControlContent.controlId
      (fun x x' => Edit.ControlWrite (.generation r) x x' ∧ (x.Valid → x'.Valid)) base.controls xs)
    (h : mergeControl host fs xs g = .ok ys) :
    KeyedList.Rewrites ControlContent.controlId
      (fun x x' => Edit.ControlWrite (.generation r) x x' ∧ (x.Valid → x'.Valid)) base.controls ys := by
  unfold mergeControl at h
  cases hx : getControl g.controlId xs with
  | none => simp [hx] at h
  | some current =>
    simp only [hx] at h
    by_cases hp : current.state = .reviewed
    · rw [if_pos hp] at h
      obtain rfl := Except.ok.inj h
      exact hxs
    · simp only [if_neg hp, bind_eq_ok, pure_eq_ok, validated_eq_ok] at h
      obtain ⟨evidence, -, x', ⟨rfl, hv⟩, rfl⟩ := h
      have hkey : current.controlId = g.controlId := KeyedList.key_of_get? hx
      refine hxs.put hx hkey fun x _ _ hw => ⟨Or.inr ⟨?_, ?_⟩, fun _ => hv⟩
      · rcases hw.1 with rfl | hw
        · exact hp
        · exact hw.1
      · show (if _ then ControlState.generated else .partly) ≠ .reviewed
        split_ifs <;> decide

theorem rewritten_generation (hb : base.Unique) {r : GenerationResult} (h : mergeGeneration host base r = .ok c) :
    Rewritten (.generation r) base c := by
  simp only [mergeGeneration, bind_eq_ok, validated_eq_ok, hb.factDict, hb.sectionDict, hb.controlDict,
    hb.questionDict] at h
  obtain ⟨sections, hs, controls, hx, facts, hf, questions, hq, qs, hqs, rfl, hu⟩ := h
  have hsections := foldlM_inv (fun g hg _ _ => mergeSection_ok hg)
    (KeyedList.Rewrites.refl fun _ _ => ⟨Or.inl rfl, id⟩) hs
  have hcontrols := foldlM_inv (fun _ _ _ _ => mergeControl_ok (r := r))
    (KeyedList.Rewrites.refl fun _ _ => ⟨Or.inl rfl, id⟩) hx
  have hrefl := FactsRewritten.refl (e := .generation r) (fun _ => rfl) hb.facts
  have hfacts : FactsRewritten (.generation r) base facts := by
    cases hc : r.categorization with
    | none =>
      rw [hc, generationFacts, Except.ok.injEq] at hf
      exact hf ▸ hrefl
    | some g =>
      rw [hc, generationFacts] at hf
      split_ifs at hf
      · obtain rfl := Except.ok.inj hf
        exact hrefl
      · exact (applyCategorizationProposal_ok (fun _ => Iff.rfl) (fun _ => id) hrefl hf).1
  replace hu := RevisionContent.uniqueError_eq_none.1 hu
  refine ⟨hsections.sorted, hcontrols.sorted, hu.questions, fun hv q hq' => ?_, hfacts.sort,
    Or.inl (sortFacts_pairwise _), fun _ _ _ hk => hk.elim⟩
  exact addQuestions_valid hqs ((resolveDirectSectionQuestions_ok hq).2 hv) q (KeyedList.mem_sorted.1 hq')

theorem patchSection_ok {r : PatchResult} {v : Nat} {p : TargetedPatch} {evidence : List EvidenceLink}
    {xs ys : List SectionContent} (hp : p ∈ r.patches) (ht : p.targetType = .sspSection)
    (hxs : KeyedList.Rewrites SectionContent.key
      (fun s s' => Edit.SectionWrite base (.patch r v) s s' ∧ (s.Valid → s'.Valid)) base.sections xs)
    (h : patchSection p evidence xs = .ok ys) :
    KeyedList.Rewrites SectionContent.key
      (fun s s' => Edit.SectionWrite base (.patch r v) s s' ∧ (s.Valid → s'.Valid)) base.sections ys := by
  unfold patchSection at h
  cases hs : getSection p.targetId xs with
  | none => simp [hs] at h
  | some current =>
    simp only [hs, bind_eq_ok, pure_eq_ok, validated_eq_ok] at h
    obtain ⟨s', ⟨rfl, hv⟩, rfl⟩ := h
    have hkey : current.key = p.targetId := KeyedList.key_of_get? hs
    exact hxs.put hs hkey fun s _ hsk _ => ⟨Or.inr ⟨p, hp, ht, hsk.symm⟩, fun _ => hv⟩

theorem patchControl_ok {r : PatchResult} {v : Nat} {p : TargetedPatch} {evidence : List EvidenceLink}
    {xs ys : List ControlContent} (hp : p ∈ r.patches) (ht : p.targetType ≠ .sspSection)
    (hxs : KeyedList.Rewrites ControlContent.controlId
      (fun x x' => Edit.ControlWrite (.patch r v) x x' ∧ (x.Valid → x'.Valid)) base.controls xs)
    (h : patchControl p evidence xs = .ok ys) :
    KeyedList.Rewrites ControlContent.controlId
      (fun x x' => Edit.ControlWrite (.patch r v) x x' ∧ (x.Valid → x'.Valid)) base.controls ys := by
  unfold patchControl at h
  cases hx : getControl p.targetId xs with
  | none => simp [hx] at h
  | some current =>
    simp only [hx, bind_eq_ok, pure_eq_ok, validated_eq_ok] at h
    obtain ⟨x', ⟨rfl, hv⟩, rfl⟩ := h
    have hkey : current.controlId = p.targetId := KeyedList.key_of_get? hx
    exact hxs.put hx hkey fun x _ hxk _ => ⟨Or.inr ⟨p, hp, ht, hxk.symm⟩, fun _ => hv⟩

theorem dismissQuestion_valid {qs qs' : List QuestionContent} {id : String} (h : dismissQuestion qs id = .ok qs')
    (hv : ∀ q ∈ qs, q.Valid) : ∀ q ∈ qs', q.Valid := by
  unfold dismissQuestion at h
  cases hq : KeyedList.get? QuestionContent.idKey id qs with
  | none => simp [hq] at h
  | some current =>
    simp only [hq, bind_eq_ok, pure_eq_ok, validated_eq_ok] at h
    obtain ⟨q', ⟨rfl, hq'⟩, rfl⟩ := h
    intro q hmem
    rcases KeyedList.mem_put hmem with rfl | hmem
    · exact hq'
    · exact hv q hmem

theorem rewritten_patch (hb : base.Unique) {r : PatchResult} {v : Nat} (h : applyAgentPatch host base r v = .ok c) :
    Rewritten (.patch r v) base c := by
  simp only [applyAgentPatch, bind_eq_ok, pure_eq_ok, validated_eq_ok, hb.factDict, hb.sectionDict, hb.controlDict,
    hb.questionDict] at h
  obtain ⟨⟨sections, controls⟩, hp, questions, hq, qs, hqs, updated, ⟨rfl, hu⟩, rfl⟩ := h
  have hitems := foldlM_inv (P := fun items : List SectionContent × List ControlContent =>
      KeyedList.Rewrites SectionContent.key
        (fun s s' => Edit.SectionWrite base (.patch r v) s s' ∧ (s.Valid → s'.Valid)) base.sections items.1 ∧
      KeyedList.Rewrites ControlContent.controlId
        (fun x x' => Edit.ControlWrite (.patch r v) x x' ∧ (x.Valid → x'.Valid)) base.controls items.2)
    (fun p hp items items' hi hstep => by
      simp only [applyPatch, bind_eq_ok, ensure_eq_ok] at hstep
      obtain ⟨-, -, evidence, -, hstep⟩ := hstep
      split_ifs at hstep with ht
      · simp only [bind_eq_ok, pure_eq_ok] at hstep
        obtain ⟨ys, hys, rfl⟩ := hstep
        exact ⟨patchSection_ok hp ht hi.1 hys, hi.2⟩
      · simp only [bind_eq_ok, pure_eq_ok] at hstep
        obtain ⟨ys, hys, rfl⟩ := hstep
        exact ⟨hi.1, patchControl_ok hp ht hi.2 hys⟩)
    ⟨KeyedList.Rewrites.refl fun _ _ => ⟨Or.inl rfl, id⟩, KeyedList.Rewrites.refl fun _ _ => ⟨Or.inl rfl, id⟩⟩ hp
  replace hu := RevisionContent.uniqueError_eq_none.1 hu
  have m := marked_foldl ((r.patches.filter fun p => p.targetType = .sspSection).map TargetedPatch.targetId)
    { facts := base.facts
      sections := sortSections sections
      controls := sortControls controls
      questions := sortQuestions qs }
  rw [List.foldl_map] at m
  refine ⟨?_, ?_, ?_, ?_, FactsRewritten.marked (fun _ => rfl) (fun _ => Iff.rfl) (fun _ => id) hb.facts m rfl,
    m.order.symm.imp id fun he => ?_, fun k key hc hk => ?_⟩
  · rw [m.sections]
    exact hitems.1.sorted
  · rw [m.controls]
    exact hitems.2.sorted
  · rw [m.questions]
    exact hu.questions
  · rw [m.questions]
    intro hv q hq'
    have hdismissed := foldlM_inv (P := fun qs => ∀ q ∈ qs, q.Valid) (fun id _ _ _ hqs hstep => dismissQuestion_valid hstep hqs) hv hq
    exact addQuestions_valid hqs hdismissed q (KeyedList.mem_sorted.1 hq')
  · rw [he]
  · obtain ⟨p, hp, ht, rfl⟩ := hk
    have hmem : p.targetId ∈ (r.patches.filter fun p => p.targetType = .sspSection).map TargetedPatch.targetId :=
      List.mem_map_of_mem (List.mem_filter.2 ⟨hp, decide_eq_true ht⟩)
    have hs := foldl_markStale_not_confirmed (c := { base with
      sections := sortSections sections
      controls := sortControls controls
      questions := sortQuestions qs }) hb.facts hc hmem
    rwa [List.foldl_map] at hs

end

/-! ## Registers -/

section

variable {base c : RevisionContent}

theorem writeRegisters_ok {updates : List (String × String)} {xs ys : List SectionContent}
    (hx : KeyedList.Distinct SectionContent.key xs) (hu : KeyedList.Distinct Prod.fst updates)
    (h : writeRegisters xs updates = .ok ys) :
    KeyedList.Rewrites SectionContent.key (fun s s' => Edit.RegisterWrite updates s s' ∧ (s.Valid → s'.Valid)) xs ys := by
  induction updates generalizing xs with
  | nil =>
    obtain rfl := Except.ok.inj h
    exact KeyedList.Rewrites.refl fun _ _ => ⟨rfl, id⟩
  | cons p updates ih =>
    obtain ⟨key, text⟩ := p
    rw [KeyedList.Distinct, List.map_cons, List.nodup_cons] at hu
    have hrest : ∀ s : SectionContent, s.key ≠ key → KeyedList.get? Prod.fst s.key ((key, text) :: updates) =
        KeyedList.get? Prod.fst s.key updates := by
      intro s hs
      rw [KeyedList.get?_cons, if_neg (Ne.symm hs)]
    have hfirst : ∀ s : SectionContent, s.key = key → KeyedList.get? Prod.fst s.key ((key, text) :: updates) =
        some (key, text) := by
      intro s hs
      rw [KeyedList.get?_cons, if_pos hs.symm]
    rw [writeRegisters] at h
    cases hs : getSection key xs with
    | none =>
      simp only [hs] at h
      refine (ih hx hu.2 h).mono fun s hmem s' _ hw => ⟨?_, hw.2⟩
      rw [Edit.RegisterWrite, hrest s (KeyedList.get?_eq_none.1 hs s hmem)]
      exact hw.1
    | some current =>
      simp only [hs, writeRegister, bind_eq_ok, validated_eq_ok] at h
      obtain ⟨s₁, ⟨rfl, hv⟩, h⟩ := h
      have hkey : current.key = key := KeyedList.key_of_get? hs
      have first := KeyedList.Rewrites.assign
        (W := fun s s' => if s.key = key then s'.content = text ∧ s'.Valid else s' = s) hx hs
        (z := { current with content := text, state := if hasText text then .edited else .empty }) hkey
        (by rw [if_pos hkey]; exact ⟨rfl, hv⟩) fun s _ hne => by rw [if_neg hne]
      refine first.trans (ih (first.distinct hx) hu.2 h) fun s _ s₁ s₂ hk₁ _ hw₁ hw₂ => ?_
      by_cases hk : s.key = key
      · rw [if_pos hk] at hw₁
        have hnone : KeyedList.get? Prod.fst s₁.key updates = none := by
          rw [hk₁, hk, KeyedList.get?_eq_none]
          exact fun q hq e => hu.1 (List.mem_map.2 ⟨q, hq, e⟩)
        have hw₂' := hw₂.1
        rw [Edit.RegisterWrite, hnone] at hw₂'
        subst hw₂'
        refine ⟨?_, fun _ => hw₁.2⟩
        rw [Edit.RegisterWrite, hfirst s hk]
        exact hw₁.1
      · rw [if_neg hk] at hw₁
        subst hw₁
        refine ⟨?_, hw₂.2⟩
        rw [Edit.RegisterWrite, hrest _ hk]
        exact hw₂.1

theorem sectionTexts_distinct (i : SystemDefinitionInput) : KeyedList.Distinct Prod.fst i.sectionTexts := by
  show (i.sectionTexts.map Prod.fst).Nodup
  rw [show i.sectionTexts.map Prod.fst = proposalSectionKeys from rfl]
  decide

theorem applySystemDefinitionSections_ok (hb : base.Unique) {i : SystemDefinitionInput}
    (h : applySystemDefinitionSections base i = .ok c) :
    KeyedList.Rewrites SectionContent.key
        (fun s s' => Edit.RegisterWrite i.sectionTexts s s' ∧ (s.Valid → s'.Valid)) base.sections c.sections ∧
      c.controls = base.controls ∧ c.questions = base.questions ∧
      c.facts = sortFacts (putFact (.isso SystemDefinition.statusKey (.str "confirmed")) base.facts) := by
  simp only [applySystemDefinitionSections, bind_eq_ok, pure_eq_ok, hb.sectionDict, hb.factDict] at h
  obtain ⟨sections, hs, rfl⟩ := h
  exact ⟨(writeRegisters_ok hb.sections (sectionTexts_distinct i) hs).sorted, rfl, rfl, rfl⟩

theorem rewritten_definition (hb : base.Unique) {i : SystemDefinitionInput}
    (h : applySystemDefinitionSections base i = .ok c) : Rewritten (.definition i) base c := by
  obtain ⟨hs, hx, hq, hf⟩ := applySystemDefinitionSections_ok hb h
  refine ⟨hs, ?_, hq ▸ hb.questions, by rw [hq]; exact id, ?_, ?_, fun _ _ _ hk => hk.elim⟩
  · rw [hx]
    exact KeyedList.Rewrites.refl fun _ _ => ⟨rfl, id⟩
  · rw [hf]
    exact ((FactsRewritten.refl (e := .definition i) (fun _ => rfl) hb.facts).put
      (g := .isso SystemDefinition.statusKey (.str "confirmed")) ⟨rfl, rfl⟩ rfl (by decide) fun _ _ => rfl).sort
  · rw [hf]
    exact Or.inl (sortFacts_pairwise _)

theorem rewritten_informationTypes (hb : base.Unique) {ms : List InformationTypeMapping}
    (h : applyInformationTypeRegister base ms = .ok c) : Rewritten (.informationTypes ms) base c := by
  simp only [applyInformationTypeRegister, bind_eq_ok, hb.sectionDict, hb.factDict] at h
  obtain ⟨-, -, text, htext, h⟩ := h
  cases hs : getSection InformationTypes.sectionKey base.sections with
  | none => simp [hs] at h
  | some s =>
    simp only [hs, bind_eq_ok, pure_eq_ok, validated_eq_ok] at h
    obtain ⟨s', ⟨rfl, hv⟩, rfl⟩ := h
    have hkey : s.key = InformationTypes.sectionKey := KeyedList.key_of_get? hs
    refine ⟨KeyedList.Rewrites.sorted ?_, KeyedList.Rewrites.refl fun _ _ => ⟨rfl, id⟩, hb.questions, id,
      ((FactsRewritten.refl (e := .informationTypes ms) (fun _ => rfl) hb.facts).put
        (g := .isso InformationTypes.statusKey (.str "confirmed")) ⟨rfl, rfl⟩ rfl (by decide) fun _ _ => rfl).sort,
      Or.inl (sortFacts_pairwise _), fun _ _ _ hk => hk.elim⟩
    refine KeyedList.Rewrites.assign hb.sections hs hkey ⟨?_, fun _ => hv⟩ fun y _ hy => ⟨?_, id⟩
    · rw [Edit.SectionWrite, if_pos hkey]
      exact htext
    · rw [Edit.SectionWrite, if_neg hy]

theorem markGenerated_ok {keys : List String} {xs ys : List SectionContent}
    (hx : KeyedList.Distinct SectionContent.key xs) (h : markGenerated xs keys = .ok ys) :
    KeyedList.Rewrites SectionContent.key
      (fun s s' => s'.content = s.content ∧ (s.key ∉ keys → s' = s) ∧ (s.Valid → s'.Valid)) xs ys := by
  induction keys generalizing xs with
  | nil =>
    obtain rfl := Except.ok.inj h
    exact KeyedList.Rewrites.refl fun _ _ => ⟨rfl, fun _ => rfl, id⟩
  | cons key keys ih =>
    rw [markGenerated] at h
    cases hs : getSection key xs with
    | none =>
      simp only [hs] at h
      exact (ih hx h).mono fun s _ s' _ hw => ⟨hw.1, fun hk => hw.2.1 fun hm => hk (List.mem_cons_of_mem _ hm), hw.2.2⟩
    | some current =>
      simp only [hs, bind_eq_ok, validated_eq_ok] at h
      obtain ⟨s₁, ⟨rfl, hv⟩, h⟩ := h
      have hkey : current.key = key := KeyedList.key_of_get? hs
      have first := KeyedList.Rewrites.assign
        (W := fun s s' => s'.content = s.content ∧ (s.key ≠ key → s' = s) ∧ (s.Valid → s'.Valid)) hx hs
        (z := { current with state := .generated }) hkey ⟨rfl, fun hne => absurd hkey hne, fun _ => hv⟩
        fun s _ _ => ⟨rfl, fun _ => rfl, id⟩
      refine first.trans (ih (first.distinct hx) h) fun s _ s₁ s₂ hk₁ _ hw₁ hw₂ => ⟨hw₂.1.trans hw₁.1, fun hk => ?_,
        fun hv => hw₂.2.2 (hw₁.2.2 hv)⟩
      rw [List.mem_cons, not_or] at hk
      exact (hw₂.2.1 (hk₁ ▸ hk.2)).trans (hw₁.2.1 hk.1)

theorem rewritten_diagram (hb : base.Unique) {i : SystemDefinitionInput} {metadata : Json}
    (h : applySystemDefinitionProposal base i metadata = .ok c) : Rewritten (.diagram i metadata) base c := by
  simp only [applySystemDefinitionProposal, bind_eq_ok, pure_eq_ok, validated_eq_ok] at h
  obtain ⟨updated, hup, status, ⟨rfl, hstatus⟩, proposal, ⟨rfl, hproposal⟩, sections, hsec, rfl⟩ := h
  obtain ⟨hs, hx, hq, hf⟩ := applySystemDefinitionSections_ok hb hup
  have hconf := distinct_putFact (f := .isso SystemDefinition.statusKey (.str "confirmed")) hb.facts
  rw [RevisionContent.sectionDict, KeyedList.ofList_eq (hs.distinct hb.sections)] at hsec
  rw [RevisionContent.factDict, hf, KeyedList.ofList_eq (distinct_sortFacts hconf)]
  refine ⟨KeyedList.Rewrites.sorted (hs.trans (markGenerated_ok (hs.distinct hb.sections) hsec) ?_), ?_,
    hq ▸ hb.questions, by rw [hq]; exact id, ?_, Or.inl (sortFacts_pairwise _), fun _ _ _ hk => hk.elim⟩
  · intro s _ s₁ s₂ hk₁ _ hw₁ hw₂
    refine ⟨?_, fun hv => hw₂.2.2 (hw₁.2 hv)⟩
    have hw := hw₁.1
    rw [Edit.SectionWrite]
    rw [Edit.RegisterWrite] at hw ⊢
    cases hp : KeyedList.get? Prod.fst s.key i.sectionTexts with
    | some p =>
      rw [hp] at hw
      exact hw₂.1.trans hw
    | none =>
      rw [hp] at hw
      subst hw
      refine hw₂.2.1 fun hm => ?_
      have hkeys : s₁.key ∈ i.sectionTexts.map Prod.fst := hm
      rw [← KeyedList.get?_isSome, hp] at hkeys
      simp at hkeys
  · rw [hx]
    exact KeyedList.Rewrites.refl fun _ _ => ⟨rfl, id⟩
  · have hput := ((FactsRewritten.refl (e := .diagram i metadata) (fun _ => rfl) hb.facts).put
      (g := { key := SystemDefinition.statusKey
              value := .str "unconfirmed"
              provenance := .agentGenerated
              evidence := proposalEvidence i.boundary })
      ⟨Or.inl rfl, rfl, hstatus, _, rfl⟩ (Or.inl rfl) (show SystemDefinition.statusKey ≠ provisionalKey by decide)
      fun _ hc => absurd (Json.str.inj hc) (by decide)).put
      (g := { key := proposalKey
              value := .str (String.ofList (metadata.dumps .spaced))
              provenance := .agentGenerated
              evidence := proposalEvidence i.boundary })
      ⟨Or.inr rfl, rfl, hproposal, _, rfl⟩ (Or.inr rfl) (show proposalKey ≠ provisionalKey by decide)
      fun hk => absurd hk (show proposalKey ∉ statusKeys by decide)
    refine (hput.congr (distinct_putFact (distinct_putFact (distinct_sortFacts hconf))) fun k => ?_).sort
    -- the status that is written last covers the one of the confirmation
    by_cases hs : SystemDefinition.statusKey = k <;> simp [getFact_put, getFact_sort hconf, hs]

end

/-! ## Evidence -/

section

variable {base c : RevisionContent}

theorem EvidenceKey.text_notMem (k : EvidenceKey) : k.text ∉ statusKeys ∧ k.text ≠ provisionalKey ∧ k.text ≠ impactKey ∧
    k.text ≠ "impact_level" := by
  refine ⟨fun hm => ?_, k.text_ne (by decide), k.text_ne (by decide), k.text_ne (by decide)⟩
  have hne : ∀ s ∈ statusKeys, s.toList.head? ≠ some 'e' ∧ s.toList.head? ≠ some 'v' := by decide
  exact k.text_ne (hne _ hm) rfl

theorem rewritten_ingest (hb : base.Unique) {facts : List FactContent} (ha : (Edit.ingest facts).Admissible) :
    Rewritten (.ingest facts) base (addExtractedFacts base facts) := by
  have hkeys : ∀ k, (k ∈ statusKeys ∨ k = provisionalKey) → ∀ f ∈ facts, f.key ≠ k := by
    intro k hk f hf hkey
    obtain ⟨-, -, -, -, ek, hek⟩ := ha f hf
    rcases hk with hk | rfl
    · exact ek.text_notMem.1 (hek ▸ hkey ▸ hk)
    · exact ek.text_notMem.2.1 (hek ▸ hkey)
  have hget : ∀ k, (∀ f ∈ facts, f.key ≠ k) →
      getFact k (KeyedList.update FactContent.key base.facts facts) = getFact k base.facts :=
    fun k hk => KeyedList.get?_update_of_notMem hk
  have hfacts : FactsRewritten (.ingest facts) base (KeyedList.update FactContent.key base.facts facts) := {
    distinct := KeyedList.distinct_update hb.facts
    source := fun g hg => (KeyedList.mem_update hg).symm.imp (fun hg => ⟨g, hg, rfl⟩) id
    frame := fun k hk => (hget k fun f hf e => hk ⟨f, hf, e⟩).trans (FactsRewritten.bind_keep (fun _ => rfl) _).symm
    provisional := fun _ => (hget _ (hkeys _ (Or.inr rfl))).trans (FactsRewritten.bind_keep (fun _ => rfl) _).symm
    statuses := fun k hk hc => Or.inl (by rwa [activeText_congr (hget k (hkeys k (Or.inl hk)))] at hc) }
  refine ⟨KeyedList.Rewrites.refl fun _ _ => ⟨rfl, id⟩, KeyedList.Rewrites.refl fun _ _ => ⟨rfl, id⟩, hb.questions, id,
    ?_, Or.inl (sortFacts_pairwise _), fun _ _ _ hk => hk.elim⟩
  rw [addExtractedFacts, hb.factDict]
  exact hfacts.sort

theorem retainedFact_some {a : Uuid} {f g : FactContent} (h : retainedFact a f = some g) :
    g = { f with evidence := withoutArtifact a f.evidence } ∧ (f.evidence = [] ∨ withoutArtifact a f.evidence ≠ []) := by
  simp only [retainedFact] at h
  split_ifs at h with hc
  obtain rfl := Option.some.inj h
  refine ⟨rfl, ?_⟩
  by_cases hf : f.evidence = []
  · exact Or.inl hf
  · right
    intro hw
    simp [hw, hf] at hc

theorem rewritten_remove (hb : base.Unique) (a : Uuid) : Rewritten (.remove a) base (removeArtifact base a) := by
  have hkey : ∀ f g, retainedFact a f = some g → g.key = f.key := fun f g h => by rw [(retainedFact_some h).1]
  have hget : ∀ k, getFact k (base.facts.filterMap (retainedFact a)) = (getFact k base.facts).bind (retainedFact a) :=
    fun k => KeyedList.get?_filterMap hkey hb.facts
  refine ⟨KeyedList.Rewrites.map (fun _ => rfl) fun _ _ => ⟨rfl, id⟩, KeyedList.Rewrites.map (fun _ => rfl)
    fun _ _ => ⟨rfl, id⟩, hb.questions, id, ⟨KeyedList.distinct_filterMap hkey hb.facts, fun g hg => ?_,
    fun k _ => hget k, fun _ => hget _, fun k _ hc => ?_⟩, Or.inr ?_, fun _ _ _ hk => hk.elim⟩
  · obtain ⟨f, hf, hg⟩ := List.mem_filterMap.1 hg
    exact Or.inl ⟨f, hf, hg⟩
  · obtain ⟨g, hg, hs, hv⟩ := activeText_confirmed.1 hc
    replace hg : getFact k (base.facts.filterMap (retainedFact a)) = some g := hg
    rw [hget, Option.bind_eq_some_iff] at hg
    obtain ⟨f, hf, hret⟩ := hg
    obtain ⟨rfl, -⟩ := retainedFact_some hret
    exact Or.inl (activeText_confirmed.2 ⟨f, hf, hs, hv⟩)
  · show ((base.facts.filterMap (retainedFact a)).map FactContent.key).Sublist (base.facts.map FactContent.key)
    induction base.facts with
    | nil => exact List.Sublist.refl _
    | cons f fs ih =>
      cases hf : retainedFact a f with
      | none =>
        rw [List.filterMap_cons_none hf]
        exact ih.cons _
      | some g =>
        rw [List.filterMap_cons_some hf, List.map_cons, List.map_cons, hkey f g hf]
        exact ih.cons_cons _

end

/-- **What an edit rewrites.** Every edit but a migration and a restore. -/
theorem rewritten_of_apply {host : Host} {e : Edit} {base c : RevisionContent} (hb : base.Unique) (ha : e.Admissible)
    (hr : e.Rewrites) (h : e.apply host base = .ok c) : Rewritten e base c := by
  cases e with
  | editSection key text => exact rewritten_editSection hb h
  | editControl controlId statement status responsibility => exact rewritten_editControl hb h
  | answer questionId text => exact rewritten_answer hb h
  | generation r => exact rewritten_generation hb h
  | proposal g => exact rewritten_proposal hb h
  | patch r v => exact rewritten_patch hb h
  | definition i => exact rewritten_definition hb h
  | diagram i metadata => exact rewritten_diagram hb h
  | informationTypes ms => exact rewritten_informationTypes hb h
  | ingest facts => exact Except.ok.inj h ▸ rewritten_ingest hb ha
  | remove artifactId => exact Except.ok.inj h ▸ rewritten_remove hb artifactId
  | migrate old new newRow level categorization => exact hr.elim
  | restore target => exact hr.elim

end AtoService.Workspace
