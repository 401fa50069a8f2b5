/-
When a categorization may be proposed again.

The analysis asks for the active categorization status before it calls the model; a merge asks
`categorizationIsConfirmed`, which also takes any selected impact level for a confirmation. `factsStored_run` says what
the facts of every stored revision look like, and `oneNotion_iff` when the two questions have the same answer: a
migration or a trigger section leaves a categorization stale with its impact level in place, and `stale_not_reproposed`
is a run in which it can then not be proposed again.
-/
import AtoService.Workspace.Safety

namespace AtoService.Workspace

open AtoService.Py

/-! ## The facts of every stored revision -/

theorem FactsOk.jsonb {fs : List FactContent} (h : FactsOk fs) : FactsOk (fs.map FactContent.jsonb) where
  distinct := (KeyedList.distinct_map fun _ => rfl).2 h.distinct
  active f hf := by
    obtain ⟨g, hg, rfl⟩ := List.mem_map.1 hf
    exact h.active g hg
  noAlias f hf := by
    obtain ⟨g, hg, rfl⟩ := List.mem_map.1 hf
    exact h.noAlias g hg
  order := by
    rw [List.map_map]
    exact h.order
  levels f hf hk := by
    obtain ⟨g, hg, rfl⟩ := List.mem_map.1 hf
    obtain ⟨⟨l, hv, hl⟩, he⟩ := h.levels g hg hk
    exact ⟨⟨l, by rw [FactContent.jsonb, hv, Json.jsonb_str], hl⟩, by rw [FactContent.jsonb, he, List.map_nil]⟩

/-- the level that a workspace is created with is its selected or its provisional one -/
theorem factsOk_initial {profile : ResolvedProfile} {system : SystemRow} {level : Option String} {c : RevisionContent}
    (h : initialContent profile system level = .ok c) (hl : isImpactLevel (workingImpactLevel level) = true) :
    FactsOk c.facts := by
  obtain ⟨hv, rfl⟩ := initialContent_ok h
  have hkeys : ∀ f ∈ initialFacts profile system level, f.key = "profile_id" ∨ f.key = "profile_version" ∨
      f.key = "system.name" ∨ f.key = "system.identifier" ∨
      (f.key = (if level.isSome then impactKey else provisionalKey) ∧ f.value = .str (workingImpactLevel level)) := by
    intro f hf
    unfold initialFacts at hf
    rcases List.mem_append.1 hf with hf | hf
    · simp only [List.mem_cons, List.not_mem_nil, or_false] at hf
      rcases hf with rfl | rfl | rfl | rfl
      · exact Or.inl rfl
      · exact Or.inr (Or.inl rfl)
      · exact Or.inr (Or.inr (Or.inl rfl))
      · exact Or.inr (Or.inr (Or.inr (Or.inr ⟨rfl, rfl⟩)))
    · split at hf
      · simp at hf
      · simp at hf
      · rw [List.mem_singleton.1 hf]
        exact Or.inr (Or.inr (Or.inr (Or.inl rfl)))
  have hlevel : (if level.isSome then impactKey else provisionalKey) ≠ "impact_level" := by
    split_ifs <;> decide
  refine ⟨hv.unique.facts, fun f hf => ?_, fun f hf => ?_, ?_, fun f hf hk => ?_⟩
  · rw [isso_of_mem_initialFacts hf]
    rfl
  · rcases hkeys f hf with h | h | h | h | ⟨h, -⟩
    · rw [h]; decide
    · rw [h]; decide
    · rw [h]; decide
    · rw [h]; decide
    · rw [h]; exact hlevel
  · -- the level is written once, under one of the two keys
    rw [List.pairwise_map]
    refine List.Pairwise.imp_of_mem (R := fun _ _ => True) (fun {a b} ha hb _ => ?_)
      (List.pairwise_of_forall fun _ _ => trivial)
    rintro ⟨hp, hi⟩
    have hpi : ∀ f ∈ initialFacts profile system level, f.key = impactKey ∨ f.key = provisionalKey →
        f.key = (if level.isSome then impactKey else provisionalKey) := by
      intro f hf hk
      rcases hkeys f hf with h | h | h | h | ⟨h, -⟩
      · exact absurd hk (by rw [h]; decide)
      · exact absurd hk (by rw [h]; decide)
      · exact absurd hk (by rw [h]; decide)
      · exact absurd hk (by rw [h]; decide)
      · exact h
    have h₁ := hpi a ha (Or.inr hp)
    have h₂ := hpi b hb (Or.inl hi)
    rw [h₁.trans h₂.symm] at hp
    exact absurd (hp.symm.trans hi) (by decide)
  · refine ⟨?_, by rw [isso_of_mem_initialFacts hf]; rfl⟩
    rcases hkeys f hf with h | h | h | h | ⟨-, h⟩
    · exact absurd hk (by rw [h]; decide)
    · exact absurd hk (by rw [h]; decide)
    · exact absurd hk (by rw [h]; decide)
    · exact absurd hk (by rw [h]; decide)
    · exact ⟨_, h, hl⟩

/-- every edit keeps the shape of the facts; what a restore brings back has it already -/
theorem factsOk_apply {host : Host} {e : Edit} {base c : RevisionContent} (hb : base.Valid) (ha : e.Admissible)
    (hfs : FactsOk base.facts) (ht : ∀ target, e = .restore target → FactsOk target.facts)
    (h : e.apply host base = .ok c) : FactsOk c.facts := by
  by_cases hr : e.Rewrites
  · exact (rewritten_of_apply hb.unique ha hr h).factsOk ha hr hfs
  · cases e with
    | migrate old new newRow level categorization =>
      obtain ⟨-, hres, hcat⟩ := ha
      obtain ⟨diff, -, hmig⟩ := migrated_of_apply hb.unique h
      exact hmig.factsOk hb.unique hfs (resolveStoredProfile_spec hres).1 (confirmation_facts hcat)
    | restore target => exact Except.ok.inj h ▸ ht target rfl
    | _ => exact absurd trivial hr

/-- every stored revision reads back with facts of that shape -/
def FactsStored (db : Db) : Prop := ∀ row ∈ db.revisions, ∀ c, row.load = .ok c → FactsOk c.facts

namespace Appended

variable {r : Request} {expected : Option Uuid} {content : RevisionContent} {kept : List RevisionRow} {db db' : Db}

theorem factsStored (h : Appended r expected content kept db db') (hs : FactsStored db) (hv : content.Valid)
    (hc : FactsOk content.facts) : FactsStored db' := by
  intro row hrow c hload
  rw [h.revisions, List.mem_append, List.mem_singleton] at hrow
  rcases hrow with hrow | rfl
  · obtain ⟨row₀, hrow₀, hsame⟩ := SameRow.source h.sameRows hrow
    refine hs row₀ hrow₀ c ?_
    rw [← hsame.same]
    exact hload
  · rw [(storedAs_savedRow hv).load] at hload
    exact Except.ok.inj hload ▸ hc.jsonb

end Appended

theorem factsStored_effect {env : Env} {views : Views} {r : Request} {db db' : Db} (hdb : db.Ok) (hs : FactsStored db)
    (h : Effect env views r db db') : FactsStored db' := by
  cases h with
  | quiet h =>
    intro row hrow
    rw [h.revisions] at hrow
    exact hs row hrow
  | @saved e base content w seen h =>
    obtain ⟨hb, ha, hv⟩ := h.valid hdb
    obtain ⟨row, hrow, hload⟩ := h.loaded
    refine h.appended.factsStored hs hv (factsOk_apply hb ha (hs row (List.mem_of_find?_eq_some hrow) base hload)
      (fun target he => ?_) h.applied)
    -- only a restore restores, and what it brings back is stored
    subst he
    have hasks := h.asks
    unfold Asks at hasks
    cases hop : r.operation with
    | restore id =>
      simp only [hop] at hasks
      obtain ⟨row', target', hrow', hload', he⟩ := hasks
      obtain rfl := Edit.restore.inj he
      exact hs row' (List.mem_of_find?_eq_some hrow') target hload'
    | _ => simp [hop] at hasks
  | created h =>
    obtain ⟨row, p, -, -, hres, hc⟩ := h.resolved
    exact h.appended.factsStored hs h.valid (factsOk_initial hc (resolveStoredProfile_spec hres).1)
  | approved h =>
    intro row hrow c hload
    obtain ⟨row₀, hrow₀, hsame⟩ := SameRow.source (h.sameRows hdb) (by rw [h.tables] at hrow; exact hrow)
    refine hs row₀ hrow₀ c ?_
    rw [← hsame.same]
    exact hload

/-- **The facts of every revision of every run.** -/
theorem factsStored_run (env : Env) {db : Db} (h : db.Initial) (as : List Action) :
    FactsStored (runFrom env db as).db := by
  refine (Runs.run_inv (P := fun s => Inv s ∧ FactsStored s.db) (fun s a hs => ⟨step_inv a hs.1, ?_⟩) ?_ as).2
  · by_cases hf : ∃ i, a = .finish i
    · obtain ⟨i, rfl⟩ := hf
      cases hx : s.sessions[i]? with
      | none =>
        simp only [step, hx]
        exact hs.2
      | some x => exact factsStored_effect hs.1.tables hs.2 (finish_effect hs.1 hx)
    · obtain ⟨hu, -⟩ := step_untouched env s (fun i he => hf ⟨i, he⟩)
      intro row hrow
      rw [hu.revisions] at hrow
      exact hs.2 row hrow
  · exact ⟨⟨h.ok, by simp⟩, fun row hrow => by simp [h.revisions] at hrow⟩

/-! ## Writing a proposal -/

section

variable {host : Host} {g : GeneratedCategorization} {facts fs : List FactContent}

/-- a fact of a proposal -/
def proposedFact (evidence : List EvidenceLink) (p : String × String) : FactContent :=
  { key := p.1, value := .str p.2, provenance := .agentGenerated, evidence }

theorem foldlM_proposedFact {evidence : List EvidenceLink} {ps : List (String × String)} :
    ps.foldlM (fun facts p => do
      let f ← validated FactContent.firstError (proposedFact evidence p)
      return putFact f facts) facts = .ok fs ↔
    (∀ p ∈ ps, (proposedFact evidence p).Valid) ∧
      fs = KeyedList.update FactContent.key facts (ps.map (proposedFact evidence)) := by
  induction ps generalizing facts with
  | nil => simp [pure, Except.pure, KeyedList.update, eq_comm]
  | cons p ps ih =>
    simp only [List.foldlM_cons, bind_eq_ok, pure_eq_ok, validated_eq_ok, List.forall_mem_cons]
    constructor
    · rintro ⟨_, ⟨_, ⟨rfl, hv⟩, rfl⟩, h⟩
      obtain ⟨hvs, rfl⟩ := ih.1 h
      exact ⟨⟨hv, hvs⟩, rfl⟩
    · rintro ⟨⟨hv, hvs⟩, rfl⟩
      exact ⟨_, ⟨_, ⟨rfl, hv⟩, rfl⟩, ih.2 ⟨hvs, rfl⟩⟩

theorem proposedFact_valid {evidence : List EvidenceLink} {p : String × String} (hp : p ∈ proposedValues g) :
    (proposedFact evidence p).Valid ↔ evidence ≠ [] := by
  have hkeys : ∀ k ∈ Categorization.impactFactKeys ++ Categorization.rationaleFactKeys,
      1 ≤ k.length ∧ k.length ≤ 255 := by decide
  have hmem : p.1 ∈ Categorization.impactFactKeys ++ Categorization.rationaleFactKeys :=
    List.mem_map_of_mem (f := Prod.fst) hp
  obtain ⟨h₁, h₂⟩ := hkeys _ hmem
  rw [FactContent.valid_iff]
  constructor
  · rintro ⟨-, -, h | h⟩
    · exact absurd h (by simp [proposedFact])
    · exact h
  · exact fun h => ⟨h₁, h₂, Or.inr h⟩

/-- **What a proposal writes**: its six facts, with the evidence of the facts that support it. -/
theorem applyCategorizationProposal_eq_ok : applyCategorizationProposalToFacts host facts g = .ok fs ↔
    categorizationIsConfirmed facts = false ∧ ∃ evidence,
      evidenceForFacts host g.supportingFactIds facts = .ok evidence ∧
      evidence ≠ [] ∧ fs = KeyedList.update FactContent.key facts ((proposedValues g).map (proposedFact evidence)) := by
  have hstep : ∀ evidence, (proposedValues g).foldlM (fun facts p => do
      let f ← validated FactContent.firstError
        { key := p.1, value := .str p.2, provenance := .agentGenerated, evidence }
      return putFact f facts) facts = .ok fs ↔
      evidence ≠ [] ∧ fs = KeyedList.update FactContent.key facts ((proposedValues g).map (proposedFact evidence)) := by
    intro evidence
    refine foldlM_proposedFact.trans ?_
    refine and_congr_left fun _ => ⟨fun h => ?_, fun he p hp => (proposedFact_valid hp).2 he⟩
    exact (proposedFact_valid (g := g) (by simp [proposedValues])).1 (h _ (List.mem_cons_self))
  simp only [applyCategorizationProposalToFacts, bind_eq_ok, ensure_eq_ok, hstep]
  cases categorizationIsConfirmed facts <;> simp

end

/-! ## One notion of a confirmed categorization -/

/-- `active_categorization_status(…) == "confirmed"` of the active facts: what the analysis asks -/
def activelyConfirmed (c : RevisionContent) : Bool :=
  activeCategorizationStatus (KeyedList.ofList FactContent.key (c.facts.filter fun f => f.state = .active)) ==
    some "confirmed"

def alreadyConfirmed : Err := { cls := .workspaceEdit, detail := "categorization is already confirmed" }

/-- the values of the proposal stand in `c` -/
def Proposed (g : GeneratedCategorization) (c : RevisionContent) : Prop :=
  ∀ p ∈ proposedValues g, ∃ f, getFact p.1 c.facts = some f ∧ f.value = .str p.2 ∧ f.provenance = .agentGenerated

/-- the three places that ask whether the categorization of `c` is confirmed give one answer -/
structure OneNotion (c : RevisionContent) : Prop where
  refused : ∀ host g, mergeCategorizationProposal host c g = .error alreadyConfirmed ↔ activelyConfirmed c = true
  skipped : activelyConfirmed c = true → ∀ host r,
    mergeGeneration host c r = mergeGeneration host c { r with categorization := none }
  taken : activelyConfirmed c = false → ∀ host r g c', r.categorization = some g → mergeGeneration host c r = .ok c' →
    Proposed g c'
  analyzed : ∀ host views expected actor revisionId db e, generationContext views expected = .ok c →
    (analyzeWorkspaceCategorization host views expected (.error e) actor revisionId db).1 =
      .error (if activelyConfirmed c then alreadyConfirmed else e)
  reproposed : activelyConfirmed c = false → ∀ host (g : GeneratedCategorization) links,
    evidenceForFacts host g.supportingFactIds c.factDict = .ok links → links ≠ [] →
      ∃ c', mergeCategorizationProposal host c g = .ok c'

section

variable {host : Host} {g : GeneratedCategorization} {c : RevisionContent}

theorem gatherLinks_error {facts : List FactContent} {ids : List String} {links : List EvidenceLink} {e : Err}
    (h : gatherLinks host facts ids links = .error e) :
    ∃ id, e = { cls := .workspaceEdit, detail := "unknown supporting fact: " ++ id } := by
  induction ids generalizing links with
  | nil => simp [gatherLinks] at h
  | cons id ids ih =>
    rw [gatherLinks] at h
    cases hf : getFact id facts with
    | none =>
      simp only [hf, raise, Except.error.injEq] at h
      exact ⟨id, h.symm⟩
    | some f =>
      simp only [hf] at h
      exact ih h

/-- a proposal that is refused for another reason is refused with another text -/
theorem mergeCategorizationProposal_refused :
    mergeCategorizationProposal host c g = .error alreadyConfirmed ↔ categorizationIsConfirmed c.factDict = true := by
  cases hc : categorizationIsConfirmed c.factDict with
  | true =>
    refine iff_of_true ?_ rfl
    simp only [mergeCategorizationProposal, applyCategorizationProposalToFacts, hc]
    rfl
  | false =>
    refine iff_of_false (fun h => ?_) (by decide)
    simp only [mergeCategorizationProposal, applyCategorizationProposalToFacts, hc, Bool.not_false, ensure, if_true,
      evidenceForFacts] at h
    cases hl : gatherLinks host c.factDict g.supportingFactIds [] with
    | error e =>
      obtain ⟨id, rfl⟩ := gatherLinks_error hl
      rw [hl] at h
      have hdetail := congrArg (fun s => s.toList.head?) (congrArg Err.detail (Except.error.inj h))
      simp [alreadyConfirmed, String.toList_append] at hdetail
    | ok links =>
      rw [hl] at h
      have hr : Raises (· = .validation) ((proposedValues g).foldlM (fun facts p => do
          let f ← validated FactContent.firstError { key := p.1, value := .str p.2, provenance := .agentGenerated,
                                                     evidence := KeyedList.sorted (linkKey host) links }
          return putFact f facts) c.factDict >>= fun facts => .ok { c with facts := sortFacts facts }) := by
        refine raises_bind (raises_foldlM (fun facts p => ?_) _ _) fun _ => raises_ok _
        exact raises_bind (raises_validated _ _) fun _ => raises_ok _
      exact absurd (hr _ h) (by decide)

end

section

variable {c : RevisionContent}

/-- the merge asks for the status, and for any selected impact level -/
theorem categorizationIsConfirmed_eq (h : FactsOk c.facts) : categorizationIsConfirmed c.factDict = true ↔
    activelyConfirmed c = true ∨ ∃ f ∈ c.facts, f.key = "system.impact_level" := by
  have hdict : c.factDict = c.facts := KeyedList.ofList_eq h.distinct
  have hactive : activelyConfirmed c = true ↔
      ∃ f ∈ c.facts, f.key = Categorization.statusKey ∧ f.value.asStr = some "confirmed" := by
    rw [activelyConfirmed, filter_active h.active, KeyedList.ofList_eq h.distinct, beq_iff_eq, activeCategorizationStatus,
      activeText_confirmed]
    constructor
    · rintro ⟨f, hf, -, hv⟩
      exact ⟨f, KeyedList.mem_of_get? hf, KeyedList.key_of_get? hf, by rw [hv]; rfl⟩
    · rintro ⟨f, hf, hk, hv⟩
      exact ⟨f, (KeyedList.get?_eq_some h.distinct).2 ⟨hf, hk⟩, h.active f hf, Json.eq_str_of_asStr hv⟩
  rw [categorizationIsConfirmed, hdict, hactive, List.any_eq_true]
  constructor
  · rintro ⟨f, hf, hp⟩
    simp only [Bool.or_eq_true, Bool.and_eq_true, beq_iff_eq] at hp
    rcases hp with (⟨hk, hv⟩ | hk) | hk
    · exact Or.inl ⟨f, hf, hk, hv⟩
    · exact Or.inr ⟨f, hf, hk⟩
    · exact absurd hk (h.noAlias f hf)
  · rintro (⟨f, hf, hk, hv⟩ | ⟨f, hf, hk⟩)
    · exact ⟨f, hf, by simp [hk, hv]⟩
    · exact ⟨f, hf, by simp [hk]⟩

/-- where the merge and the analysis agree on the status, everything else follows -/
theorem oneNotion_of_eq (h : categorizationIsConfirmed c.factDict = activelyConfirmed c) : OneNotion c where
  refused host g := by rw [mergeCategorizationProposal_refused, h]
  skipped hc host r := by
    rw [hc] at h
    cases hr : r.categorization with
    | none =>
      cases r
      simp only at hr
      rw [hr]
    | some g => simp only [mergeGeneration, hr, generationFacts, h, if_true]
  taken hc host r g c' hr hm p hp := by
    rw [hc] at h
    simp only [mergeGeneration, hr, generationFacts, h, Bool.false_eq_true, if_false, bind_eq_ok, validated_eq_ok,
      applyCategorizationProposal_eq_ok] at hm
    obtain ⟨_, -, _, -, facts, ⟨-, links, -, -, rfl⟩, _, -, _, -, rfl, -⟩ := hm
    have hkeys : KeyedList.Distinct FactContent.key ((proposedValues g).map (proposedFact links)) := by
      show (((proposedValues g).map (proposedFact links)).map FactContent.key).Nodup
      rw [show ((proposedValues g).map (proposedFact links)).map FactContent.key =
        Categorization.impactFactKeys ++ Categorization.rationaleFactKeys from rfl]
      decide
    refine ⟨proposedFact links p, ?_, rfl, rfl⟩
    rw [getFact_sort (KeyedList.distinct_update (factDict_distinct c))]
    exact KeyedList.get?_update_of_mem hkeys (List.mem_map_of_mem hp)
  analyzed host views expected actor revisionId db e hctx := by
    have hres : analyzeWorkspaceCategorization host views expected (.error e) actor revisionId db =
        (.error (if activelyConfirmed c then alreadyConfirmed else e), db) := by
      refine Txn.bind_error.2 (Or.inr ⟨c, db, by rw [hctx]; rfl, Txn.bind_error.2 ?_⟩)
      cases ha : activelyConfirmed c with
      | true => exact Or.inl (Txn.require_error.2 ⟨fun hne => hne (beq_iff_eq.1 ha), rfl, rfl⟩)
      | false =>
        refine Or.inr ⟨(), db, Txn.require_ok.2 ⟨fun he => ?_, rfl⟩, Txn.bind_error.2 (Or.inl rfl)⟩
        exact Bool.false_ne_true (ha.symm.trans (beq_iff_eq.2 he))
    rw [hres]
  reproposed hc host g links hl hne := by
    rw [hc] at h
    have hok : applyCategorizationProposalToFacts host c.factDict g = .ok _ :=
      applyCategorizationProposal_eq_ok.2 ⟨h, links, hl, hne, rfl⟩
    exact ⟨_, by rw [mergeCategorizationProposal, hok]; rfl⟩

end

/-- **When the three places agree**: on every revision of every run, unless an impact level is selected under a
categorization that is not confirmed. -/
theorem oneNotion_iff (env : Env) {db : Db} (h : db.Initial) (as : List Action) {row : RevisionRow}
    {c : RevisionContent} (hr : row ∈ (runFrom env db as).db.revisions) (hl : row.load = .ok c) :
    OneNotion c ↔ (activelyConfirmed c = true ∨ ∀ f ∈ c.facts, f.key ≠ "system.impact_level") := by
  have heq := categorizationIsConfirmed_eq (factsStored_run env h as row hr c hl)
  constructor
  · intro hc
    by_contra hn
    rw [not_or] at hn
    push Not at hn
    obtain ⟨hn, f, hf, hk⟩ := hn
    let g : GeneratedCategorization := ⟨"low", "low", "low", "r", "r", "r", []⟩
    have href : mergeCategorizationProposal env.host c g = .error alreadyConfirmed :=
      mergeCategorizationProposal_refused.2 (heq.2 (Or.inr ⟨f, hf, hk⟩))
    exact hn ((hc.refused env.host g).1 href)
  · intro hc
    refine oneNotion_of_eq (Bool.eq_iff_iff.2 (heq.trans ⟨?_, Or.inl⟩))
    rintro (ha | ⟨f, hf, hk⟩)
    · exact ha
    · exact hc.resolve_right fun hn => hn f hf hk

theorem oneNotion_categorized : ∃ row c, row ∈ (runFrom Small.env Small.tables Small.categorized).db.revisions ∧
    row.load = .ok c ∧ activelyConfirmed c = true ∧ OneNotion c := by
  have hrun : ((runFrom Small.env Small.tables Small.categorized).db.revisions.any fun row =>
      match row.load with
      | .ok c => activelyConfirmed c
      | .error _ => false) = true := by decide +kernel
  obtain ⟨row, hr, hc⟩ := List.any_eq_true.1 hrun
  cases hl : row.load with
  | error e => simp [hl] at hc
  | ok c =>
    rw [hl] at hc
    exact ⟨row, c, hr, hl, hc, (oneNotion_iff Small.env Small.tables_initial Small.categorized hr hl).2 (Or.inl hc)⟩

/-- the confirmed categorization, made stale by a migration to another impact level -/
def Small.staleCategorization : List Action :=
  Small.categorized ++ whole (Small.ask (.migrate (.ofNat 1) "moderate") 102 103)

/-- a stale categorization cannot be proposed again: the merge calls it confirmed -/
theorem stale_not_reproposed : ¬∀ (env : Env) (db : Db), db.Initial → ∀ (as : List Action) (row : RevisionRow)
    (c : RevisionContent), row ∈ (runFrom env db as).db.revisions → row.load = .ok c → OneNotion c := by
  intro h
  have hrun : ((runFrom Small.env Small.tables Small.staleCategorization).db.revisions.any fun row =>
      match row.load with
      | .ok c => activeCategorizationStatus c.factDict == some "stale" && !activelyConfirmed c &&
          categorizationIsConfirmed c.factDict
      | .error _ => false) = true := by decide +kernel
  obtain ⟨row, hr, hc⟩ := List.any_eq_true.1 hrun
  cases hl : row.load with
  | error e => simp [hl] at hc
  | ok c =>
    simp only [hl, Bool.and_eq_true, Bool.not_eq_true'] at hc
    have hone := h Small.env Small.tables Small.tables_initial Small.staleCategorization row c hr hl
    have href := (hone.refused Small.env.host ⟨"low", "low", "low", "r", "r", "r", []⟩).1
      (mergeCategorizationProposal_refused.2 hc.2)
    exact Bool.false_ne_true (hc.1.2.symm.trans href)

end AtoService.Workspace
