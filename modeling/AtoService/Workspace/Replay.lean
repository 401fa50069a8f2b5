/-
Merging a generation result a second time.

The second pass sees what the first one wrote. The proposal of a categorization replaces the evidence of its six facts,
but gathers the same links again (`supportingEvidence_proposed`), so the facts stand (`generationFacts_replay`); the
direct answers depend on texts only, which stand too. What can change is the evidence of a section or a control that
cites one of the six facts, and the question that another question with the same identifier replaced. `Replays` says
that neither happens, and `mergeGeneration_replay_iff` that the second pass changes nothing exactly then.
-/
import AtoService.Workspace.Generation

namespace AtoService.Workspace

open AtoService.Py

/-! ## The evidence that stands for the cited facts -/

/-- the keys that a proposal writes -/
def proposedKeys : List String := Categorization.impactFactKeys ++ Categorization.rationaleFactKeys

/-- the facts as the second pass cites them: where the proposal is written, its evidence stands at its keys -/
def citedAgain (host : Host) (facts : List FactContent) (proposal : Option GeneratedCategorization) :
    List FactContent :=
  match proposal with
  | none => facts
  | some g =>
    if categorizationIsConfirmed facts then facts
    else facts.map fun f =>
      if f.key ∈ proposedKeys then { f with evidence := supportingEvidence host facts g.supportingFactIds } else f

/-- what merging the result into `c` twice must not run into -/
structure Replays (host : Host) (c : RevisionContent) (r : GenerationResult) : Prop where
  sections : ∀ g ∈ r.sections, ∀ s ∈ c.sections, s.key = g.sectionId → ¬s.Kept →
    supportingEvidence host (citedAgain host c.facts r.categorization) g.supportingFactIds =
      supportingEvidence host c.facts g.supportingFactIds
  controls : ∀ g ∈ r.controls, ∀ x ∈ c.controls, x.controlId = g.controlId → x.state ≠ .reviewed →
    supportingEvidence host (citedAgain host c.facts r.categorization) g.supportingFactIds =
      supportingEvidence host c.facts g.supportingFactIds
  /-- the questions that are added have identifiers of their own -/
  added : ∀ g ∈ r.questions, ∀ g' ∈ r.questions, Fresh host c r g → Fresh host c r g' →
    uuid5 questionNamespace g.questionKey = uuid5 questionNamespace g'.questionKey → g.questionKey = g'.questionKey
  /-- and replace no question that the result asks again -/
  kept : ∀ g ∈ r.questions, answerAfter r.sections c.sections g.targetType g.targetId = none →
    g.questionKey ∈ c.questions.map (questionIdentity host) → ∃ q ∈ c.questions,
      questionIdentity host q = g.questionKey ∧ ∀ g' ∈ r.questions, Fresh host c r g' →
        uuid5 questionNamespace g'.questionKey ≠ q.questionId

section

variable {host : Host} {facts fs : List FactContent} {g : GeneratedCategorization} {evidence : List EvidenceLink}

/-! ## The proposal -/

theorem keys_proposedFacts (evidence : List EvidenceLink) :
    ((proposedValues g).map (proposedFact evidence)).map FactContent.key = proposedKeys := rfl

theorem distinct_proposedFacts (evidence : List EvidenceLink) :
    KeyedList.Distinct FactContent.key ((proposedValues g).map (proposedFact evidence)) := by
  rw [KeyedList.Distinct, keys_proposedFacts]
  decide

theorem evidence_proposedFacts {f : FactContent} (hf : f ∈ (proposedValues g).map (proposedFact evidence)) :
    f.evidence = evidence := by
  obtain ⟨p, -, rfl⟩ := List.mem_map.1 hf
  rfl

/-- the evidence of a fact once the proposal is written -/
theorem evidence_update (evidence : List EvidenceLink) (id : String) :
    (getFact id (KeyedList.update FactContent.key facts ((proposedValues g).map (proposedFact evidence)))).map
        FactContent.evidence =
      if id ∈ proposedKeys then some evidence else (getFact id facts).map FactContent.evidence := by
  unfold getFact
  split_ifs with hid
  · rw [← keys_proposedFacts (g := g) evidence] at hid
    obtain ⟨f, hf, rfl⟩ := List.mem_map.1 hid
    rw [KeyedList.get?_update_of_mem (distinct_proposedFacts evidence) hf, Option.map_some, evidence_proposedFacts hf]
  · rw [KeyedList.get?_update_of_notMem fun f hf hkey => hid ?_]
    rw [← keys_proposedFacts (g := g) evidence, ← hkey]
    exact List.mem_map_of_mem hf

/-- the lookup of a key in the evidence of facts: the last fact that has it decides -/
theorem get?_supportingEvidence (facts : List FactContent) (ids : List String) (k : String) :
    KeyedList.get? (linkKey host) k (supportingEvidence host facts ids) = ids.reverse.findSome? fun id =>
      KeyedList.get? (linkKey host) k
        (KeyedList.ofList (linkKey host) (((getFact id facts).map FactContent.evidence).getD [])) := by
  rw [supportingEvidence, KeyedList.get?_sorted (KeyedList.distinct_ofList _)]
  exact KeyedList.get?_ofList_flatMap k ids _

theorem distinct_supportingEvidence (facts : List FactContent) (ids : List String) :
    KeyedList.Distinct (linkKey host) (supportingEvidence host facts ids) :=
  KeyedList.distinct_sorted (KeyedList.distinct_ofList _)

/-- what a scan finds is found again where some entries find just that -/
theorem findSome?_found {α β : Type} (p : α → Prop) [DecidablePred p] (w : α → Option β) (xs : List α) :
    (xs.findSome? fun x => if p x then xs.findSome? w else w x) = xs.findSome? w := by
  suffices h : ∀ (v : Option β) (ys : List α), ys.findSome? w = v →
      (ys.findSome? fun y => if p y then v else w y) = v from h _ xs rfl
  intro v ys hv
  induction ys generalizing v with
  | nil => exact hv
  | cons y ys ih =>
    rw [List.findSome?_cons] at hv ⊢
    cases hw : w y with
    | some b =>
      rw [hw] at hv
      subst hv
      split_ifs <;> rfl
    | none =>
      rw [hw] at hv
      have hrest := ih v hv
      split_ifs
      · cases v with
        | none => exact hrest
        | some b => rfl
      · exact hrest

/-- **The proposal gathers the same links again**, although the facts that it cites may be the ones it wrote. -/
theorem supportingEvidence_proposed (ids : List String) :
    supportingEvidence host (KeyedList.update FactContent.key facts
      ((proposedValues g).map (proposedFact (supportingEvidence host facts ids)))) ids =
      supportingEvidence host facts ids := by
  have hlinks : KeyedList.sorted (linkKey host) (supportingEvidence host (KeyedList.update FactContent.key facts
      ((proposedValues g).map (proposedFact (supportingEvidence host facts ids)))) ids) =
      KeyedList.sorted (linkKey host) (supportingEvidence host facts ids) :=
    KeyedList.sorted_ext (distinct_supportingEvidence _ ids) (distinct_supportingEvidence facts ids) fun k => ?_
  · rwa [supportingEvidence, supportingEvidence, KeyedList.sorted_sorted, KeyedList.sorted_sorted] at hlinks
  · rw [get?_supportingEvidence, get?_supportingEvidence]
    refine Eq.trans ?_ (findSome?_found (· ∈ proposedKeys) _ ids.reverse)
    congr 1
    funext id
    rw [evidence_update]
    split_ifs
    · rw [Option.getD_some, KeyedList.ofList_eq (distinct_supportingEvidence facts ids), get?_supportingEvidence]
    · rfl

theorem supportingEvidence_congr {ids : List String}
    (h : ∀ id ∈ ids, (getFact id facts).map FactContent.evidence = (getFact id fs).map FactContent.evidence) :
    supportingEvidence host facts ids = supportingEvidence host fs ids := by
  have hlinks : supportingLinks facts ids = supportingLinks fs ids := List.flatMap_congr fun id hid => by rw [h id hid]
  rw [supportingEvidence, supportingEvidence, hlinks]

theorem supportingEvidence_sort (hd : KeyedList.Distinct FactContent.key fs) (ids : List String) :
    supportingEvidence host (sortFacts fs) ids = supportingEvidence host fs ids :=
  supportingEvidence_congr fun _ _ => by rw [getFact_sort hd]

theorem categorizationIsConfirmed_sort (fs : List FactContent) :
    categorizationIsConfirmed (sortFacts fs) = categorizationIsConfirmed fs :=
  (KeyedList.sorted_perm fs).any_eq

/-- a proposal does not confirm the categorization -/
theorem categorizationIsConfirmed_update (evidence : List EvidenceLink) (h : categorizationIsConfirmed facts = false) :
    categorizationIsConfirmed
      (KeyedList.update FactContent.key facts ((proposedValues g).map (proposedFact evidence))) = false := by
  rw [categorizationIsConfirmed, List.any_eq_false] at h ⊢
  intro f hf
  rcases KeyedList.mem_update hf with hf | hf
  · have hkey : f.key ∈ proposedKeys := keys_proposedFacts (g := g) evidence ▸ List.mem_map_of_mem hf
    have hkeys : ∀ k ∈ proposedKeys, k ≠ Categorization.statusKey ∧ k ≠ "system.impact_level" ∧ k ≠ "impact_level" := by
      decide
    obtain ⟨h₁, h₂, h₃⟩ := hkeys _ hkey
    simp [h₁, h₂, h₃]
  · exact h f hf

/-- **The facts stand**: the second pass writes the proposal that is there. -/
theorem generationFacts_replay {proposal : Option GeneratedCategorization}
    (hd : KeyedList.Distinct FactContent.key facts) (h : generationFacts host facts proposal = .ok fs) :
    generationFacts host (sortFacts fs) proposal = .ok (sortFacts fs) := by
  cases proposal with
  | none => rfl
  | some g =>
    rw [generationFacts] at h ⊢
    rw [categorizationIsConfirmed_sort]
    cases hc : categorizationIsConfirmed facts with
    | true =>
      rw [hc, if_pos rfl, Except.ok.injEq] at h
      rw [← h, hc, if_pos rfl]
    | false =>
      rw [hc, if_neg Bool.false_ne_true, applyCategorizationProposal_eq_ok] at h
      obtain ⟨-, evidence, hevidence, hne, rfl⟩ := h
      obtain ⟨hall, rfl⟩ := evidenceForFacts_eq_ok.1 hevidence
      have hdistinct : KeyedList.Distinct FactContent.key (KeyedList.update FactContent.key facts
          ((proposedValues g).map (proposedFact (supportingEvidence host facts g.supportingFactIds)))) :=
        KeyedList.distinct_update hd
      have hconfirmed := categorizationIsConfirmed_update (g := g)
        (supportingEvidence host facts g.supportingFactIds) hc
      rw [hconfirmed, if_neg Bool.false_ne_true, applyCategorizationProposal_eq_ok, categorizationIsConfirmed_sort]
      refine ⟨hconfirmed, supportingEvidence host facts g.supportingFactIds,
        evidenceForFacts_eq_ok.2 ⟨fun id hid => ?_, ?_⟩, hne, ?_⟩
      · exact KeyedList.mem_keys_sorted.2 (KeyedList.mem_keys_update.2 (Or.inr (hall id hid)))
      · rw [supportingEvidence_sort hdistinct, supportingEvidence_proposed]
      · refine (KeyedList.update_of_get? fun f hf => ?_).symm
        rw [sortFacts, KeyedList.get?_sorted hdistinct]
        exact KeyedList.get?_update_of_mem (distinct_proposedFacts _) hf

theorem keys_generationFacts {proposal : Option GeneratedCategorization}
    (h : generationFacts host facts proposal = .ok fs) :
    ∀ id ∈ facts.map FactContent.key, id ∈ fs.map FactContent.key := by
  intro id hid
  cases proposal with
  | none => exact Except.ok.inj h ▸ hid
  | some g =>
    rw [generationFacts] at h
    split_ifs at h
    · exact Except.ok.inj h ▸ hid
    · obtain ⟨-, evidence, -, -, rfl⟩ := applyCategorizationProposal_eq_ok.1 h
      exact KeyedList.mem_keys_update.2 (Or.inr hid)

/-- the evidence that the second pass gathers is that of `citedAgain` -/
theorem supportingEvidence_cited {proposal : Option GeneratedCategorization} {ids : List String}
    (hd : KeyedList.Distinct FactContent.key facts) (h : generationFacts host facts proposal = .ok fs)
    (hids : ∀ id ∈ ids, id ∈ facts.map FactContent.key) :
    supportingEvidence host (sortFacts fs) ids = supportingEvidence host (citedAgain host facts proposal) ids := by
  cases proposal with
  | none =>
    obtain rfl := Except.ok.inj h
    exact supportingEvidence_sort hd ids
  | some g =>
    rw [generationFacts] at h
    rw [citedAgain]
    cases hc : categorizationIsConfirmed facts with
    | true =>
      rw [hc, if_pos rfl, Except.ok.injEq] at h
      rw [← h, if_pos rfl, supportingEvidence_sort hd]
    | false =>
      rw [hc, if_neg Bool.false_ne_true, applyCategorizationProposal_eq_ok] at h
      obtain ⟨-, evidence, hevidence, -, rfl⟩ := h
      obtain ⟨-, rfl⟩ := evidenceForFacts_eq_ok.1 hevidence
      rw [if_neg Bool.false_ne_true, supportingEvidence_sort (KeyedList.distinct_update hd)]
      refine supportingEvidence_congr fun id hid => ?_
      obtain ⟨f, hf⟩ := Option.isSome_iff_exists.1 (KeyedList.get?_isSome.2 (hids id hid))
      have hkey := KeyedList.key_of_get? hf
      rw [evidence_update, getFact, getFact, KeyedList.get?_map fun f => by split_ifs <;> rfl, hf]
      simp only [Option.map_some, hkey]
      split_ifs <;> rfl

/-! ## Sections and controls -/

theorem generatedSection_replay {g : GeneratedSection} {s s' : SectionContent}
    (hkeys : ∀ id ∈ facts.map FactContent.key, id ∈ fs.map FactContent.key)
    (h : generatedSection host facts g s = .ok s') : generatedSection host fs g s' = .ok s' ↔
      (¬s.Kept → supportingEvidence host fs g.supportingFactIds =
        supportingEvidence host facts g.supportingFactIds) := by
  rw [generatedSection_eq_ok] at h
  split_ifs at h with hkept
  · rw [generatedSection_eq_ok, h, if_pos hkept]
    exact iff_of_true rfl fun hn => absurd hkept hn
  · obtain ⟨hall, rfl, hv⟩ := h
    have hfree : ¬(s.filled g (supportingEvidence host facts g.supportingFactIds)).Kept := by
      show ¬((if hasText g.content then SectionState.generated else .empty) = .edited ∨
        (if hasText g.content then SectionState.generated else .empty) = .reviewed)
      split_ifs <;> decide
    rw [generatedSection_eq_ok, if_neg hfree]
    constructor
    · rintro ⟨-, heq, -⟩ -
      exact (congrArg SectionContent.evidence heq).symm
    · intro heq
      refine ⟨fun id hid => hkeys id (hall id hid), ?_, hv⟩
      rw [heq hkept]
      rfl

theorem generatedControl_replay {g : GeneratedControl} {x x' : ControlContent}
    (hkeys : ∀ id ∈ facts.map FactContent.key, id ∈ fs.map FactContent.key)
    (h : generatedControl host facts g x = .ok x') : generatedControl host fs g x' = .ok x' ↔
      (x.state ≠ .reviewed → supportingEvidence host fs g.supportingFactIds =
        supportingEvidence host facts g.supportingFactIds) := by
  rw [generatedControl_eq_ok] at h
  split_ifs at h with hkept
  · rw [generatedControl_eq_ok, h, if_pos hkept]
    exact iff_of_true rfl fun hn => absurd hkept hn
  · obtain ⟨hall, rfl, hv⟩ := h
    have hfree : (x.filled g (supportingEvidence host facts g.supportingFactIds)).state ≠ .reviewed := by
      show (if hasText g.implementationStatement then ControlState.generated else .partly) ≠ .reviewed
      split_ifs <;> decide
    rw [generatedControl_eq_ok, if_neg hfree]
    constructor
    · rintro ⟨-, heq, -⟩ -
      exact (congrArg ControlContent.evidence heq).symm
    · intro heq
      refine ⟨fun id hid => hkeys id (hall id hid), ?_, hv⟩
      rw [heq hkept]
      rfl

theorem sections_replay {gs : List GeneratedSection} {xs ys : List SectionContent}
    (hkeys : ∀ id ∈ facts.map FactContent.key, id ∈ fs.map FactContent.key)
    (hgs : KeyedList.Distinct GeneratedSection.sectionId gs) (hxs : KeyedList.Distinct SectionContent.key xs)
    (hmerge : SectionsMerge host facts gs xs) (hys : ys = sortSections (xs.map (mergedSection host facts gs))) :
    (SectionsMerge host fs gs ys ∧ ys = sortSections (ys.map (mergedSection host fs gs))) ↔
      ∀ g ∈ gs, ∀ s ∈ xs, s.key = g.sectionId → ¬s.Kept →
        supportingEvidence host fs g.supportingFactIds = supportingEvidence host facts g.supportingFactIds := by
  refine (KeyedList.replay_iff key_generatedSection key_generatedSection hgs hxs hmerge hys).trans ?_
  refine forall₂_congr fun g hg => forall₃_congr fun s hs hkey => ?_
  obtain ⟨s₀, hs₀, s', hs'⟩ := hmerge g hg
  obtain rfl : s = s₀ := Option.some.inj (((KeyedList.get?_eq_some hxs).2 ⟨hs, hkey⟩).symm.trans hs₀)
  exact ⟨fun h => (generatedSection_replay hkeys hs').1 (h s' hs'),
    fun h s'' hs'' => (generatedSection_replay hkeys hs'').2 h⟩

theorem controls_replay {gs : List GeneratedControl} {xs ys : List ControlContent}
    (hkeys : ∀ id ∈ facts.map FactContent.key, id ∈ fs.map FactContent.key)
    (hgs : KeyedList.Distinct GeneratedControl.controlId gs) (hxs : KeyedList.Distinct ControlContent.controlId xs)
    (hmerge : ControlsMerge host facts gs xs) (hys : ys = sortControls (xs.map (mergedControl host facts gs))) :
    (ControlsMerge host fs gs ys ∧ ys = sortControls (ys.map (mergedControl host fs gs))) ↔
      ∀ g ∈ gs, ∀ x ∈ xs, x.controlId = g.controlId → x.state ≠ .reviewed →
        supportingEvidence host fs g.supportingFactIds = supportingEvidence host facts g.supportingFactIds := by
  refine (KeyedList.replay_iff controlId_generatedControl controlId_generatedControl hgs hxs hmerge hys).trans ?_
  refine forall₂_congr fun g hg => forall₃_congr fun x hx hkey => ?_
  obtain ⟨x₀, hx₀, x', hx'⟩ := hmerge g hg
  obtain rfl : x = x₀ := Option.some.inj (((KeyedList.get?_eq_some hxs).2 ⟨hx, hkey⟩).symm.trans hx₀)
  exact ⟨fun h => (generatedControl_replay hkeys hx').1 (h x' hx'),
    fun h x'' hx'' => (generatedControl_replay hkeys hx'').2 h⟩

/-! ## Direct answers -/

theorem directSectionAnswer_sort {xs : List SectionContent} (hd : KeyedList.Distinct SectionContent.key xs)
    (t : TargetType) (key : String) : directSectionAnswer t key (sortSections xs) = directSectionAnswer t key xs := by
  rw [directSectionAnswer, directSectionAnswer, getSection, getSection, sortSections, KeyedList.get?_sorted hd]

/-- the texts of the second pass are those of the first -/
theorem mergedText_merged {gs : List GeneratedSection} {xs : List SectionContent}
    (hxs : KeyedList.Distinct SectionContent.key xs) (hmerge : SectionsMerge host facts gs xs) {s : SectionContent}
    (hs : s ∈ xs) : mergedText gs (mergedSection host facts gs s) = (mergedSection host facts gs s).content := by
  unfold mergedText
  rw [key_mergedSection]
  split_ifs with hkept
  · rfl
  · cases hg : KeyedList.get? GeneratedSection.sectionId s.key gs with
    | none => rfl
    | some g =>
      have hcontent := content_mergedSection hxs hmerge hs
      have hfree : ¬s.Kept := by
        intro hs'
        have hsame : mergedSection host facts gs s = s := by
          unfold mergedSection KeyedList.rewriteBy
          simp only [hg, generatedSection, if_pos hs']
        exact hkept (hsame.symm ▸ hs')
      rw [hcontent, mergedText, if_neg hfree, hg]

theorem answerAfter_replay {gs : List GeneratedSection} {xs : List SectionContent}
    (hxs : KeyedList.Distinct SectionContent.key xs) (hmerge : SectionsMerge host facts gs xs) (t : TargetType)
    (key : String) :
    answerAfter gs (sortSections (xs.map (mergedSection host facts gs))) t key = answerAfter gs xs t key := by
  have hd : KeyedList.Distinct SectionContent.key (xs.map (mergedSection host facts gs)) :=
    (KeyedList.distinct_map key_mergedSection).2 hxs
  have htexts : ((sortSections (xs.map (mergedSection host facts gs))).map fun s =>
      { s with content := mergedText gs s }) = sortSections (xs.map (mergedSection host facts gs)) := by
    refine (List.map_congr_left fun s hs => ?_).trans (List.map_id' _)
    obtain ⟨s₀, hs₀, rfl⟩ := List.mem_map.1 (KeyedList.mem_sorted.1 hs)
    rw [mergedText_merged hxs hmerge hs₀]
  rw [answerAfter, htexts, directSectionAnswer_sort hd, directSectionAnswer_merged hxs hmerge]

/-! ## Questions -/

/-- a question that is open after the first pass has no direct answer -/
theorem resolveDirectSectionQuestions_open {sections : List SectionContent} {questions qs : List QuestionContent}
    (h : resolveDirectSectionQuestions questions sections = .ok qs) :
    ∀ q ∈ qs, q.state = .opened → directSectionAnswer q.targetType q.targetKey sections = none := by
  intro q' hq' hopen
  obtain ⟨q, -, hq⟩ := exists_of_mem_mapM h hq'
  split at hq
  · split_ifs at hq with hstate
    · rw [(validated_eq_ok.1 hq).1] at hopen
      cases hopen
    · obtain rfl := Except.ok.inj hq
      exact absurd hopen hstate
  · obtain rfl := Except.ok.inj hq
    assumption

theorem resolveDirectSectionQuestions_of_none {sections : List SectionContent} {questions : List QuestionContent}
    (h : ∀ q ∈ questions, q.state = .opened → directSectionAnswer q.targetType q.targetKey sections = none) :
    resolveDirectSectionQuestions questions sections = .ok questions := by
  refine mapM_eq_ok.2 (List.forall₂_same.2 fun q hq => ?_)
  split
  · rename_i a ha
    rw [if_neg fun hopen => ?_]
    rw [h q hq hopen] at ha
    cases ha
  · rfl

/-- a question that is added: its identifier and its identity are those of the generated one -/
structure Added (host : Host) (g : GeneratedQuestion) (q : QuestionContent) : Prop where
  id : q.questionId = uuid5 questionNamespace g.questionKey
  identity : questionIdentity host q = g.questionKey
  target : q.targetType = g.targetType ∧ q.targetKey = g.targetId

theorem added_of_openQuestion {g : GeneratedQuestion} {q : QuestionContent}
    (hg : g.questionKey = deterministicQuestionKey host g.targetType g.targetId g.question)
    (h : openQuestion g = .ok q) : Added host g q := by
  obtain ⟨_, -, rfl, -⟩ := openQuestion_eq_ok.1 h
  exact ⟨rfl, hg.symm, rfl, rfl⟩

end

section

variable {host : Host} {o : Outline} {c : RevisionContent} {r : GenerationResult} {qs news : List QuestionContent}
  {sections : List SectionContent}

theorem added_of_mem_news (hr : AcceptedShape host o r)
    (hnews : (r.questions.filter fun g => decide (Fresh host c r g)).mapM openQuestion = .ok news) {q : QuestionContent}
    (hq : q ∈ news) : ∃ g ∈ r.questions, Fresh host c r g ∧ Added host g q := by
  obtain ⟨g, hg, hopen⟩ := exists_of_mem_mapM hnews hq
  obtain ⟨hg, hfresh⟩ := List.mem_filter.1 hg
  exact ⟨g, hg, of_decide_eq_true hfresh, added_of_openQuestion (hr.questions g hg).2 hopen⟩

theorem exists_news_of_fresh (hr : AcceptedShape host o r)
    (hnews : (r.questions.filter fun g => decide (Fresh host c r g)).mapM openQuestion = .ok news)
    {g : GeneratedQuestion} (hg : g ∈ r.questions) (hfresh : Fresh host c r g) : ∃ q ∈ news, Added host g q := by
  obtain ⟨q, hq, hopen⟩ := Results.exists_mapM_of_mem hnews (List.mem_filter.2 ⟨hg, decide_eq_true hfresh⟩)
  exact ⟨q, hq, added_of_openQuestion (hr.questions g hg).2 hopen⟩

/-- a question of the dictionary that was not assigned is one of those before -/
theorem mem_update_cases (hqs : KeyedList.Distinct QuestionContent.idKey qs) {q : QuestionContent}
    (hq : q ∈ KeyedList.update QuestionContent.idKey qs news) :
    q ∈ news ∨ (q ∈ qs ∧ ∀ q' ∈ news, q'.idKey ≠ q.idKey) := by
  have hget := (KeyedList.get?_eq_some (KeyedList.distinct_update hqs)).2 ⟨hq, rfl⟩
  rw [KeyedList.get?_update] at hget
  rcases Option.or_eq_some_iff.1 hget with hnew | ⟨hnone, hold⟩
  · exact Or.inl (List.mem_reverse.1 (KeyedList.mem_of_get? hnew))
  · exact Or.inr ⟨KeyedList.mem_of_get? hold, fun q' hq' =>
      KeyedList.get?_eq_none.1 hnone q' (List.mem_reverse.2 hq')⟩

/-- the first pass changes no identifier and no identity -/
theorem resolvedQuestion_same {q q' : QuestionContent}
    (h : (match directSectionAnswer q.targetType q.targetKey sections with
      | some answer =>
        if q.state = QuestionState.opened then
          validated QuestionContent.firstError { q with state := .answered, answer := some answer }
        else .ok q
      | none => .ok q) = .ok q') :
    q'.questionId = q.questionId ∧ questionIdentity host q' = questionIdentity host q := by
  split at h
  · split_ifs at h
    · rw [(validated_eq_ok.1 h).1]
      exact ⟨rfl, rfl⟩
    · rw [← Except.ok.inj h]
      exact ⟨rfl, rfl⟩
  · rw [← Except.ok.inj h]
    exact ⟨rfl, rfl⟩

/-- the identities that are asked again stand in the dictionary unless an identifier is taken twice -/
theorem identities_replay (hr : AcceptedShape host o r) (hc : KeyedList.Distinct QuestionContent.idKey c.questions)
    (hqs : resolveDirectSectionQuestions c.questions sections = .ok qs)
    (hnews : (r.questions.filter fun g => decide (Fresh host c r g)).mapM openQuestion = .ok news) :
    (∀ g ∈ r.questions, answerAfter r.sections c.sections g.targetType g.targetId = none →
      g.questionKey ∈ (KeyedList.update QuestionContent.idKey qs news).map (questionIdentity host)) ↔
    (∀ g ∈ r.questions, ∀ g' ∈ r.questions, Fresh host c r g → Fresh host c r g' →
      uuid5 questionNamespace g.questionKey = uuid5 questionNamespace g'.questionKey →
        g.questionKey = g'.questionKey) ∧
    ∀ g ∈ r.questions, answerAfter r.sections c.sections g.targetType g.targetId = none →
      g.questionKey ∈ c.questions.map (questionIdentity host) → ∃ q ∈ c.questions,
        questionIdentity host q = g.questionKey ∧ ∀ g' ∈ r.questions, Fresh host c r g' →
          uuid5 questionNamespace g'.questionKey ≠ q.questionId := by
  have hd : KeyedList.Distinct QuestionContent.idKey qs := by
    rw [KeyedList.Distinct, (resolveDirectSectionQuestions_ok hqs).1]
    exact hc
  have hold : ∀ q ∈ qs, ∃ q₀ ∈ c.questions, q.questionId = q₀.questionId ∧
      questionIdentity host q = questionIdentity host q₀ := fun q hq =>
    (exists_of_mem_mapM hqs hq).imp fun q₀ h => ⟨h.1, resolvedQuestion_same h.2⟩
  constructor
  · intro h
    have hid : ∀ {g q}, Fresh host c r g → q ∈ KeyedList.update QuestionContent.idKey qs news →
        questionIdentity host q = g.questionKey → q.questionId = uuid5 questionNamespace g.questionKey := by
      intro g q hfresh hq hidentity
      rcases mem_update_cases hd hq with hnew | ⟨hq, -⟩
      · obtain ⟨g', -, -, hadded⟩ := added_of_mem_news hr hnews hnew
        rw [hadded.id, ← hadded.identity, hidentity]
      · obtain ⟨q₀, hq₀, -, hsame⟩ := hold q hq
        exact absurd (List.mem_map.2 ⟨q₀, hq₀, hsame.symm.trans hidentity⟩) hfresh.2
    refine ⟨fun g hg g' hg' hf hf' huuid => ?_, fun g hg hnone hmem => ?_⟩
    · obtain ⟨q, hq, hqi⟩ := List.mem_map.1 (h g hg hf.1)
      obtain ⟨q', hq', hqi'⟩ := List.mem_map.1 (h g' hg' hf'.1)
      have hkeys : q.questionId = q'.questionId := by rw [hid hf hq hqi, hid hf' hq' hqi', huuid]
      obtain rfl : q = q' := KeyedList.eq_of_get?_eq (KeyedList.distinct_update hd) hq hq' (congrArg Uuid.str hkeys)
      exact hqi.symm.trans hqi'
    · obtain ⟨q, hq, hqi⟩ := List.mem_map.1 (h g hg hnone)
      rcases mem_update_cases hd hq with hnew | ⟨hq, hfree⟩
      · obtain ⟨g', -, hf', hadded⟩ := added_of_mem_news hr hnews hnew
        exact absurd (hadded.identity.symm.trans hqi ▸ hmem) hf'.2
      · obtain ⟨q₀, hq₀, hq₀id, hsame⟩ := hold q hq
        refine ⟨q₀, hq₀, hsame.symm.trans hqi, fun g' hg' hf' heq => ?_⟩
        obtain ⟨q', hq', hadded⟩ := exists_news_of_fresh hr hnews hg' hf'
        exact hfree q' hq' (congrArg Uuid.str (hadded.id.trans (heq.trans hq₀id.symm)))
  · rintro ⟨hadded, hkept⟩ g hg hnone
    by_cases hmem : g.questionKey ∈ c.questions.map (questionIdentity host)
    · obtain ⟨q₀, hq₀, hidentity, hfree⟩ := hkept g hg hnone hmem
      obtain ⟨q, hq, hstep⟩ := Results.exists_mapM_of_mem hqs hq₀
      obtain ⟨hqid, hqi⟩ : q.questionId = q₀.questionId ∧ questionIdentity host q = questionIdentity host q₀ :=
        resolvedQuestion_same hstep
      have hget : KeyedList.get? QuestionContent.idKey q.idKey (KeyedList.update QuestionContent.idKey qs news) =
          some q := by
        rw [KeyedList.get?_update_of_notMem fun q' hq' heq => ?_]
        · exact (KeyedList.get?_eq_some hd).2 ⟨hq, rfl⟩
        · obtain ⟨g', hg', hf', ha⟩ := added_of_mem_news hr hnews hq'
          exact hfree g' hg' hf' (ha.id.symm.trans ((Uuid.str_injective heq).trans hqid))
      exact List.mem_map.2 ⟨q, KeyedList.mem_of_get? hget, hqi.trans hidentity⟩
    · obtain ⟨q, hq, ha⟩ := exists_news_of_fresh hr hnews hg ⟨hnone, hmem⟩
      obtain ⟨q', hq'⟩ := Option.isSome_iff_exists.1 (KeyedList.get?_isSome.2
        (List.mem_map_of_mem (f := QuestionContent.idKey) (List.mem_reverse.2 hq)))
      obtain ⟨g', hg', hf', ha'⟩ := added_of_mem_news hr hnews (List.mem_reverse.1 (KeyedList.mem_of_get? hq'))
      have hids : q'.idKey = q.idKey := KeyedList.key_of_get? hq'
      have hsame : q'.questionId = q.questionId := Uuid.str_injective hids
      have hkey := hadded g hg g' hg' ⟨hnone, hmem⟩ hf' (ha.id.symm.trans (hsame.symm.trans ha'.id))
      have hget : KeyedList.get? QuestionContent.idKey q.idKey (KeyedList.update QuestionContent.idKey qs news) =
          some q' := by rw [KeyedList.get?_update, hq', Option.some_or]
      exact List.mem_map.2 ⟨q', KeyedList.mem_of_get? hget, ha'.identity.trans hkey.symm⟩

/-- the second pass adds no question exactly when every question that it would ask is there -/
theorem questions_replay {c₁ : RevisionContent} (hr : AcceptedShape host o r)
    (hsorted : KeyedList.sorted QuestionContent.idKey c₁.questions = c₁.questions) :
    (∃ news, (r.questions.filter fun g => decide (Fresh host c₁ r g)).mapM openQuestion = .ok news ∧
      c₁.questions = sortQuestions (KeyedList.update QuestionContent.idKey c₁.questions news)) ↔
    ∀ g ∈ r.questions, answerAfter r.sections c₁.sections g.targetType g.targetId = none →
      g.questionKey ∈ c₁.questions.map (questionIdentity host) := by
  constructor
  · rintro ⟨news, hnews, heq⟩ g hg hnone
    by_contra hn
    obtain ⟨q, hq, -⟩ := exists_news_of_fresh hr hnews hg ⟨hnone, hn⟩
    obtain ⟨q', hq'⟩ := Option.isSome_iff_exists.1 (KeyedList.get?_isSome.2
      (List.mem_map_of_mem (f := QuestionContent.idKey) (List.mem_reverse.2 hq)))
    obtain ⟨g', -, hf', ha⟩ := added_of_mem_news hr hnews (List.mem_reverse.1 (KeyedList.mem_of_get? hq'))
    have hget : KeyedList.get? QuestionContent.idKey q.idKey
        (KeyedList.update QuestionContent.idKey c₁.questions news) = some q' := by
      rw [KeyedList.get?_update, hq', Option.some_or]
    have hmem : q' ∈ c₁.questions := by
      rw [heq, sortQuestions, KeyedList.mem_sorted]
      exact KeyedList.mem_of_get? hget
    exact hf'.2 (List.mem_map.2 ⟨q', hmem, ha.identity⟩)
  · intro h
    have hnil : (r.questions.filter fun g => decide (Fresh host c₁ r g)) = [] :=
      List.filter_eq_nil_iff.2 fun g hg hfresh => (of_decide_eq_true hfresh).2 (h g hg (of_decide_eq_true hfresh).1)
    exact ⟨[], by rw [hnil]; rfl, hsorted.symm⟩

/-- **When a replay changes nothing**: merging an accepted result into what it was merged into gives the same content
exactly when `Replays` holds, for every content and every result that merges. -/
theorem mergeGeneration_replay_iff {fresh : Nat → String} {c₁ : RevisionContent} (hc : c.Unique)
    (hr : Accepted host fresh o r) (h : mergeGeneration host c r = .ok c₁) :
    mergeGeneration host c₁ r = .ok c₁ ↔ Replays host c r := by
  have hshape := hr.shape
  obtain ⟨hs, hx, fs, qs, news, hfs, hqs, hnews, heq, hu⟩ := (mergeGeneration_eq_ok hc hshape).1 h
  have hfacts : c₁.facts = sortFacts fs := by rw [heq]
  have hsections : c₁.sections = sortSections (c.sections.map (mergedSection host c.facts r.sections)) := by rw [heq]
  have hcontrols : c₁.controls = sortControls (c.controls.map (mergedControl host c.facts r.controls)) := by rw [heq]
  have hquestions : c₁.questions = sortQuestions (KeyedList.update QuestionContent.idKey qs news) := by rw [heq]
  have hkeys : ∀ id ∈ c.facts.map FactContent.key, id ∈ c₁.facts.map FactContent.key := by
    intro id hid
    rw [hfacts]
    exact KeyedList.mem_keys_sorted.2 (keys_generationFacts hfs id hid)
  have hcited : ∀ ids : List String, (∀ id ∈ ids, id ∈ c.facts.map FactContent.key) →
      supportingEvidence host c₁.facts ids =
        supportingEvidence host (citedAgain host c.facts r.categorization) ids := by
    intro ids hids
    rw [hfacts, supportingEvidence_cited hc.facts hfs hids]
  have hanswer : ∀ t key, answerAfter r.sections c₁.sections t key = answerAfter r.sections c.sections t key := by
    intro t key
    rw [hsections, answerAfter_replay hc.sections hs]
  -- no open question has a direct answer, so the second pass resolves nothing
  have hopen : ∀ q ∈ c₁.questions, q.state = .opened →
      answerAfter r.sections c.sections q.targetType q.targetKey = none := by
    intro q hq hstate
    rw [hquestions] at hq
    rcases KeyedList.mem_update (KeyedList.mem_sorted.1 hq) with hq | hq
    · obtain ⟨g, -, hfresh, hadded⟩ := added_of_mem_news hshape hnews hq
      rw [hadded.target.1, hadded.target.2]
      exact hfresh.1
    · rw [← directSectionAnswer_merged hc.sections hs]
      exact resolveDirectSectionQuestions_open hqs q hq hstate
  have hresolve : SectionsMerge host c₁.facts r.sections c₁.sections → resolveDirectSectionQuestions c₁.questions
      (c₁.sections.map (mergedSection host c₁.facts r.sections)) = .ok c₁.questions := by
    intro hs₁
    refine resolveDirectSectionQuestions_of_none fun q hq hstate => ?_
    rw [directSectionAnswer_merged (RevisionContent.uniqueError_eq_none.1 hu).sections hs₁, hanswer]
    exact hopen q hq hstate
  have hsorted : KeyedList.sorted QuestionContent.idKey c₁.questions = c₁.questions := by
    rw [hquestions, sortQuestions, KeyedList.sorted_sorted]
  have hidentities : (∀ g ∈ r.questions, answerAfter r.sections c₁.sections g.targetType g.targetId = none →
      g.questionKey ∈ c₁.questions.map (questionIdentity host)) ↔ ∀ g ∈ r.questions,
        answerAfter r.sections c.sections g.targetType g.targetId = none →
          g.questionKey ∈ (KeyedList.update QuestionContent.idKey qs news).map (questionIdentity host) := by
    have hperm : ∀ k, k ∈ c₁.questions.map (questionIdentity host) ↔
        k ∈ (KeyedList.update QuestionContent.idKey qs news).map (questionIdentity host) := fun k => by
      rw [hquestions]
      exact ((KeyedList.sorted_perm _).map _).mem_iff
    simp only [hanswer, hperm]
  have hss := sections_replay hkeys hshape.sectionIds hc.sections hs hsections
  have hxx := controls_replay hkeys hshape.controlIds hc.controls hx hcontrols
  have hqq := (questions_replay hshape hsorted).trans
    (hidentities.trans (identities_replay hshape hc.questions hqs hnews))
  have hknown : ∀ g ∈ r.sections, ∀ s ∈ c.sections, s.key = g.sectionId → ¬s.Kept →
      ∀ id ∈ g.supportingFactIds, id ∈ c.facts.map FactContent.key := by
    intro g hg s hsmem hkey hfree
    obtain ⟨s₀, hs₀, s', hs'⟩ := hs g hg
    obtain rfl : s = s₀ := Option.some.inj (((KeyedList.get?_eq_some hc.sections).2 ⟨hsmem, hkey⟩).symm.trans hs₀)
    rw [generatedSection_eq_ok, if_neg hfree] at hs'
    exact hs'.1
  have hknown' : ∀ g ∈ r.controls, ∀ x ∈ c.controls, x.controlId = g.controlId → x.state ≠ .reviewed →
      ∀ id ∈ g.supportingFactIds, id ∈ c.facts.map FactContent.key := by
    intro g hg x hxmem hkey hfree
    obtain ⟨x₀, hx₀, x', hx'⟩ := hx g hg
    obtain rfl : x = x₀ := Option.some.inj (((KeyedList.get?_eq_some hc.controls).2 ⟨hxmem, hkey⟩).symm.trans hx₀)
    rw [generatedControl_eq_ok, if_neg hfree] at hx'
    exact hx'.1
  rw [mergeGeneration_eq_ok (RevisionContent.uniqueError_eq_none.1 hu) hshape]
  constructor
  · rintro ⟨hs₁, hx₁, fs₁, qs₁, news₁, -, hqs₁, hnews₁, heq₁, -⟩
    obtain rfl : c₁.questions = qs₁ := Except.ok.inj ((hresolve hs₁).symm.trans hqs₁)
    obtain ⟨hadded, hkept⟩ := hqq.1 ⟨news₁, hnews₁, congrArg RevisionContent.questions heq₁⟩
    refine ⟨fun g hg s hsmem hkey hfree => ?_, fun g hg x hxmem hkey hfree => ?_, hadded, hkept⟩
    · rw [← hcited _ (hknown g hg s hsmem hkey hfree)]
      exact hss.1 ⟨hs₁, congrArg RevisionContent.sections heq₁⟩ g hg s hsmem hkey hfree
    · rw [← hcited _ (hknown' g hg x hxmem hkey hfree)]
      exact hxx.1 ⟨hx₁, congrArg RevisionContent.controls heq₁⟩ g hg x hxmem hkey hfree
  · intro hreplays
    obtain ⟨hs₁, hs₂⟩ := hss.2 fun g hg s hsmem hkey hfree => by
      rw [hcited _ (hknown g hg s hsmem hkey hfree), hreplays.sections g hg s hsmem hkey hfree]
    obtain ⟨hx₁, hx₂⟩ := hxx.2 fun g hg x hxmem hkey hfree => by
      rw [hcited _ (hknown' g hg x hxmem hkey hfree), hreplays.controls g hg x hxmem hkey hfree]
    obtain ⟨news₁, hnews₁, hq₁⟩ := hqq.2 ⟨hreplays.added, hreplays.kept⟩
    refine ⟨hs₁, hx₁, c₁.facts, c₁.questions, news₁, ?_, hresolve hs₁, hnews₁, ?_, hu⟩
    · rw [hfacts]
      exact generationFacts_replay hc.facts hfs
    · have hf₁ : c₁.facts = sortFacts c₁.facts := by
        rw [hfacts]
        exact (KeyedList.sorted_sorted _).symm
      rw [← hf₁, ← hs₂, ← hx₂, ← hq₁]

end

theorem mergeGeneration_replay_small : ∃ r c₁, Small.generated "Who signs it?" = .ok r ∧
    mergeGeneration Small.responseHost Small.outlined r = .ok c₁ ∧
    (mergeGeneration Small.responseHost c₁ r = .ok c₁ ↔ Replays Small.responseHost Small.outlined r) := by
  have hok : (match Small.generated "Who signs it?" with
      | .ok r => (mergeGeneration Small.responseHost Small.outlined r).toOption.isSome
      | .error _ => false) = true := by
    rw [Small.generated, parseGenerationResponse, parseJsonObject, Py.chars_eq (String.ofList _), String.toList_ofList]
    decide +kernel
  generalize hres : Small.generated "Who signs it?" = res at hok
  cases res with
  | error e => cases hok
  | ok r =>
    simp only at hok
    generalize hmerge : mergeGeneration Small.responseHost Small.outlined r = merged at hok
    cases merged with
    | error e => cases hok
    | ok c₁ =>
      exact ⟨r, c₁, rfl, hmerge, mergeGeneration_replay_iff Small.outlined_valid.unique (.whole hres) hmerge⟩

namespace Small

/-- a revision with a proposal: the evidence of the proposed impact is another file than that of the extracted fact -/
def proposed : RevisionContent where
  facts := [⟨"evidence.a", .str "text", .extracted, [⟨.ofNat 50, [("page", .int 1)], page_ne_nil⟩], .active⟩,
    ⟨"system.confidentiality_impact", .str "low", .agentGenerated, [⟨.ofNat 51, [("page", .int 1)], page_ne_nil⟩],
      .active⟩]
  sections := [⟨"system.purpose", "Purpose", "", .empty, []⟩]
  controls := [{ controlId := "AC-1", title := "Policy", state := .empty }]

/-- a section that cites the proposed impact, and a proposal that cites the extracted fact -/
def citing : Json :=
  .obj [("schema_version", .str schemaVersion),
    ("sections", .arr [
      .obj [("section_id", .str "system.purpose"), ("content", .str "It serves mail."),
        ("supporting_fact_ids", stringsJson ["system.confidentiality_impact"])]]),
    ("controls", .arr []), ("questions", .arr []),
    ("categorization", .obj [("confidentiality", .str "low"), ("integrity", .str "low"), ("availability", .str "low"),
      ("confidentiality_rationale", .str "r"), ("integrity_rationale", .str "r"), ("availability_rationale", .str "r"),
      ("supporting_fact_ids", stringsJson ["evidence.a"])])]

def cited : Except Err GenerationResult :=
  parseGenerationResponse responseHost (fun _ => "") (.ofProfile defaultsProfile (generationFactIds proposed))
    (String.ofList (citing.dumps .compact))

def artifacts (c : RevisionContent) : List (List Uuid) := c.sections.map fun s => s.evidence.map EvidenceLink.artifactId

end Small

/-- the second pass replaces the evidence of the section by that of the new proposal -/
theorem citedProposal_not_replayed : ¬∀ (host : Host) (fresh : Nat → String) (o : Outline) (c c₁ : RevisionContent)
    (r : GenerationResult), c.Valid → Accepted host fresh o r → mergeGeneration host c r = .ok c₁ →
      mergeGeneration host c₁ r = .ok c₁ := by
  intro h
  have hrun : (match Small.cited with
      | .ok r =>
        match mergeGeneration Small.responseHost Small.proposed r with
        | .ok c₁ =>
          match mergeGeneration Small.responseHost c₁ r with
          | .ok c₂ => decide (Small.artifacts c₂ ≠ Small.artifacts c₁)
          | .error _ => false
        | .error _ => false
      | .error _ => false) = true := by
    rw [Small.cited, parseGenerationResponse, parseJsonObject, Py.chars_eq (String.ofList _), String.toList_ofList]
    decide +kernel
  have hvalid : Small.proposed.Valid := by decide
  generalize hres : Small.cited = res at hrun
  cases res with
  | error e => cases hrun
  | ok r =>
    simp only at hrun
    generalize hmerge : mergeGeneration Small.responseHost Small.proposed r = merged at hrun
    cases merged with
    | error e => cases hrun
    | ok c₁ =>
      have hsame := h Small.responseHost (fun _ => "") _ Small.proposed c₁ r hvalid (.whole hres) hmerge
      simp only [hsame] at hrun
      exact absurd rfl (of_decide_eq_true hrun)

end AtoService.Workspace
