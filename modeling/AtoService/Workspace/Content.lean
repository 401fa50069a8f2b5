/-
What every edit keeps of a revision's content, migrations and restores included.

`migrated_of_apply` says what a migration makes of the sections, controls, questions and facts. `Rewritten.factsOk` carries
the shape of the facts through an edit, `apply_valid` the validators: what an edit makes passes them, or the database
refuses one of its rows.
-/
import AtoService.Workspace.Edits
import AtoService.Workspace.Persistence

namespace AtoService.Workspace

open AtoService.Py

/-! ## What an edit leaves of a fact -/

namespace Edit

variable {e : Edit} {f g : FactContent}

theorem keepFact_some (h : e.keepFact f = some g) :
    g.key = f.key ∧ g.state = f.state ∧ g.value = f.value ∧ (f.evidence = [] → g = f) ∧ (f.Valid → g.Valid) := by
  have hsame : some f = some g → g.key = f.key ∧ g.state = f.state ∧ g.value = f.value ∧ (f.evidence = [] → g = f) ∧
      (f.Valid → g.Valid) := by
    intro h
    obtain rfl := Option.some.inj h
    exact ⟨rfl, rfl, rfl, fun _ => rfl, id⟩
  cases e with
  | remove a =>
    obtain ⟨rfl, hev⟩ := retainedFact_some h
    refine ⟨rfl, rfl, rfl, fun hf => ?_, fun hv => ?_⟩
    · have hsame : withoutArtifact a f.evidence = f.evidence := by rw [hf]; rfl
      rw [hsame]
    · rw [FactContent.valid_iff] at hv ⊢
      refine ⟨hv.1, hv.2.1, ?_⟩
      rcases hv.2.2 with hp | he
      · exact Or.inl hp
      · exact Or.inr (hev.resolve_left he)
  | _ => exact hsame h

/-- the keys of the system facts that an edit of a revision may write -/
def writtenKeys : List String :=
  statusKeys ++ [provisionalKey, proposalKey] ++ Categorization.impactFactKeys ++ Categorization.rationaleFactKeys

theorem writtenKeys_ne : ∀ k ∈ writtenKeys, k ≠ impactKey ∧ k ≠ "impact_level" ∧ k ≠ "profile_id" ∧
    k ≠ "profile_version" := by decide

theorem touches_written {k : String} (ha : e.Admissible) (hr : e.Rewrites) (ht : e.Touches k) :
    k ∈ writtenKeys ∨ ∃ ek : EvidenceKey, k = ek.text := by
  have hwritten : k ∈ statusKeys ∨ k = provisionalKey ∨ k = proposalKey ∨ k ∈ Categorization.impactFactKeys ∨
      k ∈ Categorization.rationaleFactKeys → k ∈ writtenKeys := by
    simp only [writtenKeys, List.mem_append, List.mem_cons, List.not_mem_nil, or_false]
    tauto
  cases e with
  | editSection key text => exact Or.inl (hwritten (ht.elim Or.inl fun h => Or.inr (Or.inl h)))
  | patch r v => exact Or.inl (hwritten (ht.elim Or.inl fun h => Or.inr (Or.inl h)))
  | generation r => exact Or.inl (hwritten (Or.inr (Or.inr (Or.inr ht))))
  | proposal g => exact Or.inl (hwritten (Or.inr (Or.inr (Or.inr ht))))
  | definition i =>
    obtain rfl : k = SystemDefinition.statusKey := ht
    exact Or.inl (hwritten (Or.inl (by decide)))
  | diagram i metadata =>
    rcases (show k = _ ∨ k = _ from ht) with rfl | rfl
    · exact Or.inl (hwritten (Or.inl (by decide)))
    · exact Or.inl (hwritten (Or.inr (Or.inr (Or.inl rfl))))
  | informationTypes ms =>
    obtain rfl : k = InformationTypes.statusKey := ht
    exact Or.inl (hwritten (Or.inl (by decide)))
  | ingest facts =>
    obtain ⟨f, hf, rfl⟩ := ht
    obtain ⟨-, -, -, -, ek, hek⟩ := ha f hf
    exact Or.inr ⟨ek, hek⟩
  | migrate old new newRow level categorization => exact hr.elim
  | restore target => exact hr.elim
  | editControl controlId statement status responsibility => exact ht.elim
  | answer questionId text => exact ht.elim
  | remove artifactId => exact ht.elim

/-- no edit of a revision writes the impact level or the identity of its profile, a migration apart -/
theorem touches_ne {k : String} (ha : e.Admissible) (hr : e.Rewrites) (ht : e.Touches k) :
    k ≠ impactKey ∧ k ≠ "impact_level" ∧ k ≠ "profile_id" ∧ k ≠ "profile_version" := by
  rcases touches_written ha hr ht with hk | ⟨ek, rfl⟩
  · exact writtenKeys_ne k hk
  · exact ⟨ek.text_ne (by decide), ek.text_ne (by decide), ek.text_ne (by decide), ek.text_ne (by decide)⟩

end Edit

/-! ## The facts of a rewritten revision -/

namespace Rewritten

variable {e : Edit} {base c : RevisionContent}

/-- an edit writes no impact level of its own, except the selected one as provisional -/
theorem factWrite_ok (ha : e.Admissible) (hr : e.Rewrites) (hb : FactsOk base.facts) {g : FactContent}
    (hw : e.FactWrite base g) : g.state = .active ∧ g.key ≠ "impact_level" ∧
      (g.key = impactKey ∨ g.key = provisionalKey → (∃ l, g.value = .str l ∧ isImpactLevel l = true) ∧ g.evidence = []) := by
  have hmark : IsMark base g → g.state = .active ∧ g.key ≠ "impact_level" ∧ (g.key = impactKey ∨ g.key = provisionalKey →
      (∃ l, g.value = .str l ∧ isImpactLevel l = true) ∧ g.evidence = []) := by
    rintro (⟨k, hk, rfl⟩ | ⟨f, hf, hkey, rfl⟩)
    · have hne : ∀ k ∈ statusKeys, k ≠ "impact_level" ∧ k ≠ impactKey ∧ k ≠ provisionalKey := by decide
      obtain ⟨h₁, h₂, h₃⟩ := hne k hk
      exact ⟨rfl, h₁, fun h => (h.elim h₂ h₃).elim⟩
    · exact ⟨rfl, (by decide : provisionalKey ≠ "impact_level"), fun _ => ⟨(hb.levels f hf (Or.inl hkey)).1, rfl⟩⟩
  have htouch : e.Touches g.key → g.state = .active → g.key ≠ provisionalKey → g.state = .active ∧ g.key ≠ "impact_level" ∧
      (g.key = impactKey ∨ g.key = provisionalKey → (∃ l, g.value = .str l ∧ isImpactLevel l = true) ∧ g.evidence = []) := by
    intro ht hs hp
    obtain ⟨h₁, h₂, -⟩ := Edit.touches_ne ha hr ht
    exact ⟨hs, h₂, fun h => (h.elim h₁ hp).elim⟩
  cases e with
  | editSection key text => exact hmark hw
  | patch r v => exact hmark hw
  | generation r => exact htouch hw.1 hw.2.1 (proposalKeys_ne _ (List.mem_append.2 hw.1)).1
  | proposal g => exact htouch hw.1 hw.2.1 (proposalKeys_ne _ (List.mem_append.2 hw.1)).1
  | definition i =>
    have hk : g.key = SystemDefinition.statusKey := hw.1
    exact htouch hw.1 (by rw [hw.2]; rfl) (by rw [hk]; decide)
  | diagram i metadata =>
    have hk : g.key = SystemDefinition.statusKey ∨ g.key = proposalKey := hw.1
    refine htouch hw.1 hw.2.1 ?_
    rcases hk with hk | hk <;> rw [hk] <;> decide
  | informationTypes ms =>
    have hk : g.key = InformationTypes.statusKey := hw.1
    exact htouch hw.1 (by rw [hw.2]; rfl) (by rw [hk]; decide)
  | ingest facts =>
    obtain ⟨-, hs, -, -, ek, hek⟩ := ha g hw
    exact htouch ⟨g, hw, rfl⟩ hs (hek ▸ ek.text_notMem.2.1)
  | editControl controlId statement status responsibility => exact hw.1.elim
  | answer questionId text => exact hw.1.elim
  | remove artifactId => exact hw.1.elim
  | migrate old new newRow level categorization => exact hr.elim
  | restore target => exact hr.elim

theorem factsOk (h : Rewritten e base c) (ha : e.Admissible) (hr : e.Rewrites) (hb : FactsOk base.facts) :
    FactsOk c.facts := by
  have hfact : ∀ g ∈ c.facts, g.state = .active ∧ g.key ≠ "impact_level" ∧
      (g.key = impactKey ∨ g.key = provisionalKey → (∃ l, g.value = .str l ∧ isImpactLevel l = true) ∧ g.evidence = []) := by
    intro g hg
    rcases h.facts.source g hg with ⟨f, hf, hkeep⟩ | hw
    · obtain ⟨hk, hs, hv, hev, -⟩ := Edit.keepFact_some hkeep
      rw [hs, hk, hv]
      refine ⟨hb.active f hf, hb.noAlias f hf, fun hkey => ?_⟩
      obtain ⟨hl, he⟩ := hb.levels f hf hkey
      exact ⟨hl, by rw [hev he, he]⟩
    · exact factWrite_ok ha hr hb hw
  refine ⟨h.facts.distinct, fun g hg => (hfact g hg).1, fun g hg => (hfact g hg).2.1, ?_, fun g hg => (hfact g hg).2.2⟩
  rcases h.factOrder with hs | hs
  · refine List.pairwise_map.2 (hs.imp fun {a b} hab => ?_)
    rintro ⟨ha, hb⟩
    rw [ha, hb] at hab
    exact absurd hab (by decide)
  · exact hb.order.sublist hs

theorem unique (h : Rewritten e base c) (hb : base.Unique) : c.Unique :=
  ⟨h.facts.distinct, h.sections.distinct hb.sections, h.controls.distinct hb.controls, h.questions⟩

theorem factWrite_valid (ha : e.Admissible) {g : FactContent} (hw : e.FactWrite base g) : g.Valid := by
  have hisso : ∀ k ∈ Edit.writtenKeys, ∀ v, (FactContent.isso k v).Valid := by
    have hlen : ∀ k ∈ Edit.writtenKeys, 1 ≤ k.length ∧ k.length ≤ 255 := by decide
    exact fun k hk v => FactContent.isso_valid (hlen k hk)
  have hmark : IsMark base g → g.Valid := by
    rintro (⟨k, hk, rfl⟩ | ⟨f, -, -, rfl⟩)
    · have hsub : ∀ k ∈ statusKeys, k ∈ Edit.writtenKeys := by decide
      exact hisso k (hsub k hk) _
    · exact hisso _ (by decide) _
  cases e with
  | editSection key text => exact hmark hw
  | patch r v => exact hmark hw
  | definition i =>
    rw [hw.2, show g.key = SystemDefinition.statusKey from hw.1]
    exact hisso _ (by decide) _
  | informationTypes ms =>
    rw [hw.2, show g.key = InformationTypes.statusKey from hw.1]
    exact hisso _ (by decide) _
  | ingest facts => exact (ha g hw).1
  | _ => exact hw.2.2.1

theorem valid (h : Rewritten e base c) (ha : e.Admissible) (hb : base.Valid) : c.Valid := by
  obtain ⟨hf, hs, hx, hq, hu⟩ := RevisionContent.valid_iff.1 hb
  refine RevisionContent.valid_iff.2 ⟨fun g hg => ?_, fun s hs' => ?_, fun x hx' => ?_, h.validQuestions hq, h.unique hu⟩
  · rcases h.facts.source g hg with ⟨f, hmem, hkeep⟩ | hw
    · exact (Edit.keepFact_some hkeep).2.2.2.2 (hf f hmem)
    · exact factWrite_valid ha hw
  · obtain ⟨s₀, hs₀, -, hw⟩ := h.sections.source s hs'
    exact hw.2 (hs s₀ hs₀)
  · obtain ⟨x₀, hx₀, -, hw⟩ := h.controls.source x hx'
    exact hw.2 (hx x₀ hx₀)

end Rewritten

/-! ## Migration -/

theorem distinct_staleIfAffected {diff : ProfileDiff} {keys : List String} {statusKey : String} {fs : List FactContent}
    (hd : KeyedList.Distinct FactContent.key fs) :
    KeyedList.Distinct FactContent.key (staleIfAffected diff keys statusKey fs) := by
  unfold staleIfAffected
  split_ifs
  · exact distinct_putFact hd
  · exact hd

theorem mem_staleIfAffected {diff : ProfileDiff} {keys : List String} {statusKey : String} {fs : List FactContent}
    {g : FactContent} (h : g ∈ staleIfAffected diff keys statusKey fs) :
    g = .isso statusKey (.str "stale") ∨ g ∈ fs := by
  unfold staleIfAffected at h
  split_ifs at h
  · exact mem_putFact h
  · exact Or.inr h

/-- a fact that a migration writes -/
def MigrationFact (new : ResolvedProfile) (level : String) (categorization : Option (List FactContent))
    (g : FactContent) : Prop :=
  g = .isso "profile_id" (.str new.profileId) ∨ g = .isso "profile_version" (.str new.profileVersion) ∨
    g = .isso impactKey (.str level) ∨ g = .isso provisionalKey (.str level) ∨
    (∃ k ∈ statusKeys, g = .isso k (.str "stale")) ∨ ∃ facts ∈ categorization, g ∈ facts

/-- `c` is `base` migrated to the profile `new` -/
structure Migrated (host : Host) (base : RevisionContent) (old new : ResolvedProfile) (level : String)
    (categorization : Option (List FactContent)) (diff : ProfileDiff) (c : RevisionContent) : Prop where
  compatible : incompatibleValues host base new = []
  sectionKeys : c.sections.map SectionContent.key = new.itemIds
  sections : ∀ s' ∈ c.sections, (∃ s ∈ base.sections, s.key = s'.key ∧ s'.content = s.content ∧
      s'.evidence = s.evidence ∧ (s'.state = s.state ∨ s.state = .reviewed ∧ s'.state = .edited)) ∨
    (s'.key ∉ base.sections.map SectionContent.key ∧ s'.content = "" ∧ s'.evidence = [] ∧ s'.Valid)
  titles : ∀ s' ∈ c.sections, ∃ i ∈ new.sspRequiredItems, s'.key = i.itemId ∧ s'.title = i.title
  controlIds : c.controls.map ControlContent.controlId = new.controlIds
  controls : ∀ x' ∈ c.controls, (∃ x ∈ base.controls, x.controlId = x'.controlId ∧ x'.evidence = x.evidence ∧
      ∃ title, (x'.controlId ∉ changedControlIds base old new diff ∧ x' = { x with title }) ∨
        (x'.controlId ∈ changedControlIds base old new diff ∧ x' = { x with
          title
          state := .partly
          unresolvedReason := some (migratedReason x.unresolvedReason new.profileVersion) })) ∨
    (x'.controlId ∉ base.controls.map ControlContent.controlId ∧ x'.implementationStatement = "" ∧ x'.evidence = [] ∧ x'.Valid)
  controlTitles : ∀ x' ∈ c.controls, ∃ p ∈ new.controls, x'.title = p.title
  questions : c.questions = base.questions.map (migratedQuestion new)
  facts : c.facts = sortFacts (migratedFacts base new diff level categorization)

theorem migratedSection_ok {old : List SectionContent} {changed : List String} {i : SspRequiredItem}
    {s' : SectionContent} (h : migratedSection old changed i = .ok s') :
    s'.key = i.itemId ∧ s'.title = i.title ∧
      ((∃ s ∈ old, s.key = s'.key ∧ s'.content = s.content ∧ s'.evidence = s.evidence ∧
          (s'.state = s.state ∨ s.state = .reviewed ∧ s'.state = .edited)) ∨
        (s'.key ∉ old.map SectionContent.key ∧ s'.content = "" ∧ s'.evidence = [] ∧ s'.Valid)) := by
  unfold migratedSection at h
  cases hs : getSection i.itemId old with
  | none =>
    simp only [hs, validated_eq_ok] at h
    obtain ⟨rfl, hv⟩ := h
    refine ⟨rfl, rfl, Or.inr ⟨fun hm => ?_, rfl, rfl, hv⟩⟩
    obtain ⟨s, hmem, hk⟩ := List.mem_map.1 hm
    exact KeyedList.get?_eq_none.1 hs s hmem hk
  | some s =>
    simp only [hs, Except.ok.injEq] at h
    subst h
    have hkey : s.key = i.itemId := KeyedList.key_of_get? hs
    refine ⟨hkey, rfl, Or.inl ⟨s, KeyedList.mem_of_get? hs, rfl, rfl, rfl, ?_⟩⟩
    show (if (changed.contains i.itemId && decide (s.state = .reviewed)) = true then SectionState.edited else s.state) = _ ∨ _
    split_ifs with hc
    · simp only [Bool.and_eq_true, decide_eq_true_eq] at hc
      exact Or.inr ⟨hc.2, rfl⟩
    · exact Or.inl rfl

theorem migratedControl_ok {old : List ControlContent} {changed : List String} {new : ResolvedProfile}
    {p : ProfileControl} {x' : ControlContent} (h : migratedControl old changed new p = .ok x') :
    x'.controlId = p.controlId ∧ x'.title = p.title ∧
      ((∃ x ∈ old, x.controlId = x'.controlId ∧ x'.evidence = x.evidence ∧
          ∃ title, (x'.controlId ∉ changed ∧ x' = { x with title }) ∨ (x'.controlId ∈ changed ∧ x' = { x with
            title
            state := .partly
            unresolvedReason := some (migratedReason x.unresolvedReason new.profileVersion) })) ∨
        (x'.controlId ∉ old.map ControlContent.controlId ∧ x'.implementationStatement = "" ∧ x'.evidence = [] ∧ x'.Valid)) := by
  unfold migratedControl at h
  cases hx : getControl p.controlId old with
  | none =>
    simp only [hx, validated_eq_ok] at h
    obtain ⟨rfl, hv⟩ := h
    refine ⟨rfl, rfl, Or.inr ⟨fun hm => ?_, rfl, rfl, hv⟩⟩
    obtain ⟨x, hmem, hk⟩ := List.mem_map.1 hm
    exact KeyedList.get?_eq_none.1 hx x hmem hk
  | some x =>
    have hkey : x.controlId = p.controlId := KeyedList.key_of_get? hx
    have hmem := KeyedList.mem_of_get? hx
    simp only [hx] at h
    split_ifs at h with hc
    · obtain rfl := Except.ok.inj h
      exact ⟨hkey, rfl, Or.inl ⟨x, hmem, rfl, rfl, p.title, Or.inr ⟨by simpa [hkey] using hc, rfl⟩⟩⟩
    · obtain rfl := Except.ok.inj h
      exact ⟨hkey, rfl, Or.inl ⟨x, hmem, rfl, rfl, p.title, Or.inl ⟨by simpa [hkey] using hc, rfl⟩⟩⟩

theorem map_eq_of_forall₂ {α β γ : Type} {R : α → β → Prop} {f : α → γ} {g : β → γ}
    (hR : ∀ a b, R a b → g b = f a) {xs : List α} {ys : List β} (h : List.Forall₂ R xs ys) : ys.map g = xs.map f := by
  induction h with
  | nil => rfl
  | cons hab _ ih => rw [List.map_cons, List.map_cons, hR _ _ hab, ih]

theorem migrated_of_apply {host : Host} {base c : RevisionContent} (hb : base.Unique) {old new : ResolvedProfile}
    {newRow : ProfileRow} {level : String} {categorization : Option (List FactContent)}
    (h : (Edit.migrate old new newRow level categorization).apply host base = .ok c) :
    ∃ diff, migrationDiff old new newRow = .ok diff ∧ Migrated host base old new level categorization diff c := by
  simp only [Edit.apply, migrateContent, bind_eq_ok, ensure_eq_ok, pure_eq_ok, hb.sectionDict, hb.controlDict] at h
  obtain ⟨diff, hdiff, -, hcompat, sections, hs, controls, hx, rfl⟩ := h
  refine ⟨diff, hdiff, ?_⟩
  refine {
    compatible := by simpa using hcompat
    sectionKeys := map_eq_of_forall₂ (f := SspRequiredItem.itemId) (g := SectionContent.key) (fun _ _ h => (migratedSection_ok h).1) (mapM_eq_ok.1 hs)
    sections := fun s' hs' => ?_
    titles := fun s' hs' => ?_
    controlIds := map_eq_of_forall₂ (f := ProfileControl.controlId) (g := ControlContent.controlId) (fun _ _ h => (migratedControl_ok h).1) (mapM_eq_ok.1 hx)
    controls := fun x' hx' => ?_
    controlTitles := fun x' hx' => ?_
    questions := rfl
    facts := rfl }
  · obtain ⟨i, -, hi⟩ := exists_of_mem_mapM hs hs'
    exact (migratedSection_ok hi).2.2
  · obtain ⟨i, hmem, hi⟩ := exists_of_mem_mapM hs hs'
    exact ⟨i, hmem, (migratedSection_ok hi).1, (migratedSection_ok hi).2.1⟩
  · obtain ⟨p, -, hp⟩ := exists_of_mem_mapM hx hx'
    exact (migratedControl_ok hp).2.2
  · obtain ⟨p, hmem, hp⟩ := exists_of_mem_mapM hx hx'
    exact ⟨p, hmem, (migratedControl_ok hp).2.1⟩

namespace Migrated

variable {host : Host} {base c : RevisionContent} {old new : ResolvedProfile} {level : String}
  {categorization : Option (List FactContent)} {diff : ProfileDiff}

section Facts

variable {fs : List FactContent}

theorem migratedProfileFacts_eq : migratedProfileFacts fs new level =
    putFact (.isso impactKey (.str level)) (putFact (.isso "profile_version" (.str new.profileVersion))
      (putFact (.isso "profile_id" (.str new.profileId)) fs)) := rfl

theorem mem_migratedCategorization {g : FactContent} (h : g ∈ migratedCategorizationFacts fs level categorization) :
    g ∈ fs ∨ g = .isso provisionalKey (.str level) ∨ g = .isso Categorization.statusKey (.str "stale") ∨
      ∃ facts ∈ categorization, g ∈ facts := by
  cases categorization with
  | some confirmed =>
    rcases KeyedList.mem_update h with h | h
    · exact Or.inr (Or.inr (Or.inr ⟨confirmed, rfl, h⟩))
    · exact Or.inl (List.mem_filter.1 h).1
  | none =>
    simp only [migratedCategorizationFacts] at h
    split_ifs at h
    · rcases mem_putFact h with rfl | h
      · exact Or.inr (Or.inl rfl)
      · rcases mem_putFact h with rfl | h
        · exact Or.inr (Or.inr (Or.inl rfl))
        · exact Or.inl h
    · exact Or.inl h

theorem distinct_migratedCategorization (hd : KeyedList.Distinct FactContent.key fs) :
    KeyedList.Distinct FactContent.key (migratedCategorizationFacts fs level categorization) := by
  cases categorization with
  | some confirmed => exact KeyedList.distinct_update (KeyedList.distinct_erase hd)
  | none =>
    simp only [migratedCategorizationFacts]
    split_ifs
    · exact distinct_putFact (distinct_putFact hd)
    · exact hd

/-- the keys of a confirmed categorization -/
def confirmedKeys : List String :=
  Categorization.statusKey :: (Categorization.impactFactKeys ++ Categorization.rationaleFactKeys)

theorem confirmedKeys_eq (i : CategorizationInput) :
    (buildConfirmedCategorizationFacts i).map FactContent.key = confirmedKeys := rfl

end Facts

/-- the facts of a confirmed categorization, one by one -/
theorem confirmedFact {i : CategorizationInput} {g : FactContent} (hg : g ∈ buildConfirmedCategorizationFacts i) :
    g.key ∈ confirmedKeys ∧ g.state = .active ∧ g.provenance = .issoEntered := by
  refine ⟨confirmedKeys_eq i ▸ List.mem_map_of_mem hg, ?_⟩
  simp only [buildConfirmedCategorizationFacts, List.mem_cons, List.not_mem_nil, or_false] at hg
  rcases hg with rfl | rfl | rfl | rfl | rfl | rfl | rfl <;> exact ⟨rfl, rfl⟩

theorem distinct_migratedFacts (hb : base.Unique) :
    KeyedList.Distinct FactContent.key (migratedFacts base new diff level categorization) := by
  simp only [migratedFacts, hb.factDict]
  refine distinct_staleIfAffected (distinct_staleIfAffected (distinct_migratedCategorization ?_))
  rw [migratedProfileFacts_eq]
  exact distinct_putFact (distinct_putFact (distinct_putFact hb.facts))

variable (h : Migrated host base old new level categorization diff c) (hb : base.Unique)

include h hb

theorem distinct_facts : KeyedList.Distinct FactContent.key c.facts := by
  rw [h.facts]
  exact distinct_sortFacts (distinct_migratedFacts hb)

theorem mem_facts {g : FactContent} (hg : g ∈ c.facts) : g ∈ base.facts ∨ MigrationFact new level categorization g := by
  rw [h.facts, mem_sortFacts] at hg
  simp only [migratedFacts, hb.factDict] at hg
  rcases mem_staleIfAffected hg with rfl | hg
  · exact Or.inr (Or.inr (Or.inr (Or.inr (Or.inr (Or.inl ⟨_, by decide, rfl⟩)))))
  rcases mem_staleIfAffected hg with rfl | hg
  · exact Or.inr (Or.inr (Or.inr (Or.inr (Or.inr (Or.inl ⟨_, by decide, rfl⟩)))))
  rcases mem_migratedCategorization hg with hg | rfl | rfl | hg
  · rw [migratedProfileFacts_eq] at hg
    rcases mem_putFact hg with rfl | hg
    · exact Or.inr (Or.inr (Or.inr (Or.inl rfl)))
    rcases mem_putFact hg with rfl | hg
    · exact Or.inr (Or.inr (Or.inl rfl))
    rcases mem_putFact hg with rfl | hg
    · exact Or.inr (Or.inl rfl)
    · exact Or.inl hg
  · exact Or.inr (Or.inr (Or.inr (Or.inr (Or.inl rfl))))
  · exact Or.inr (Or.inr (Or.inr (Or.inr (Or.inr (Or.inl ⟨_, by decide, rfl⟩)))))
  · exact Or.inr (Or.inr (Or.inr (Or.inr (Or.inr (Or.inr hg)))))

omit h hb in
theorem factsOk_of_mem {fs : List FactContent} (hd : KeyedList.Distinct FactContent.key fs) (hfs : FactsOk base.facts)
    (hl : isImpactLevel level = true) (hc : ∀ facts ∈ categorization, ∃ i, facts = buildConfirmedCategorizationFacts i)
    (hmem : ∀ g ∈ fs, g ∈ base.facts ∨ MigrationFact new level categorization g)
    (hsort : fs.Pairwise fun a b => a.key ≤ b.key) : FactsOk fs := by
  have hfact : ∀ g ∈ fs, g.state = .active ∧ g.key ≠ "impact_level" ∧
      (g.key = impactKey ∨ g.key = provisionalKey → (∃ l, g.value = .str l ∧ isImpactLevel l = true) ∧ g.evidence = []) := by
    intro g hg
    rcases hmem g hg with hg | rfl | rfl | rfl | rfl | ⟨k, hk, rfl⟩ | ⟨facts, hfacts, hg⟩
    · exact ⟨hfs.active g hg, hfs.noAlias g hg, hfs.levels g hg⟩
    · have hne : "profile_id" ≠ "impact_level" ∧ "profile_id" ≠ impactKey ∧ "profile_id" ≠ provisionalKey := by decide
      exact ⟨rfl, hne.1, fun hk => (hk.elim hne.2.1 hne.2.2).elim⟩
    · have hne : "profile_version" ≠ "impact_level" ∧ "profile_version" ≠ impactKey ∧
          "profile_version" ≠ provisionalKey := by decide
      exact ⟨rfl, hne.1, fun hk => (hk.elim hne.2.1 hne.2.2).elim⟩
    · exact ⟨rfl, show impactKey ≠ _ by decide, fun _ => ⟨⟨level, rfl, hl⟩, rfl⟩⟩
    · exact ⟨rfl, show provisionalKey ≠ _ by decide, fun _ => ⟨⟨level, rfl, hl⟩, rfl⟩⟩
    · have hne : ∀ k ∈ statusKeys, k ≠ "impact_level" ∧ k ≠ impactKey ∧ k ≠ provisionalKey := by decide
      obtain ⟨h₁, h₂, h₃⟩ := hne k hk
      exact ⟨rfl, h₁, fun h => (h.elim h₂ h₃).elim⟩
    · obtain ⟨i, rfl⟩ := hc facts hfacts
      have hne : ∀ k ∈ confirmedKeys, k ≠ "impact_level" ∧ k ≠ impactKey ∧ k ≠ provisionalKey := by decide
      obtain ⟨hk, hs, -⟩ := confirmedFact hg
      obtain ⟨h₁, h₂, h₃⟩ := hne _ hk
      exact ⟨hs, h₁, fun h => (h.elim h₂ h₃).elim⟩
  refine ⟨hd, fun g hg => (hfact g hg).1, fun g hg => (hfact g hg).2.1, ?_, fun g hg => (hfact g hg).2.2⟩
  refine List.pairwise_map.2 (hsort.imp fun {a b} hab => ?_)
  rintro ⟨ha, hb⟩
  rw [ha, hb] at hab
  exact absurd hab (by decide)

theorem factsOk (hfs : FactsOk base.facts) (hl : isImpactLevel level = true)
    (hc : ∀ facts ∈ categorization, ∃ i, facts = buildConfirmedCategorizationFacts i) : FactsOk c.facts :=
  factsOk_of_mem (h.distinct_facts hb) hfs hl hc (fun _ => h.mem_facts hb) (h.facts ▸ sortFacts_pairwise _)

end Migrated

/-! ## Validity -/

/-- a text that does not end with a blank is taken only when it fits -/
theorem varchar_length {n : Nat} {s t : String} (h : varchar n s = .ok t) (hl : ∀ c ∈ s.toList.getLast?, c ≠ ' ') :
    s.length ≤ n := by
  unfold varchar at h
  by_contra hn
  rw [chars_eq, if_neg hn] at h
  by_cases hb : ((s.toList.drop n).all (· == ' ')) = true
  · -- what is cut off holds the last character
    have hlen : n < s.toList.length := by
      rw [String.length_toList]
      omega
    have hne : s.toList.drop n ≠ [] := by
      intro he
      have := congrArg List.length he
      rw [List.length_drop, List.length_nil] at this
      omega
    have hlast : (s.toList.drop n).getLast? = s.toList.getLast? := by
      rw [List.getLast?_drop, if_neg (by omega)]
    have hsome : (s.toList.drop n).getLast hne ∈ s.toList.getLast? := by
      rw [← hlast]
      exact List.getLast?_eq_some_getLast hne
    exact hl _ hsome (by simpa using List.all_eq_true.1 hb _ (List.getLast_mem hne))
  · rw [if_neg hb] at h
    split_ifs at h <;> simp at h

/-- the last characters of a text are those of what it ends with -/
theorem getLast?_append_string {s t : String} (ht : t.toList ≠ []) : (s ++ t).toList.getLast? = t.toList.getLast? := by
  rw [String.toList_append, List.getLast?_append, List.getLast?_eq_some_getLast ht, Option.some_or]

theorem migrationMarker_last (v : String) : (migrationMarker v).toList.getLast? = some '.' := by
  have hne : " before approval.".toList ≠ [] := by decide
  have hlast : " before approval.".toList.getLast? = some '.' := by decide
  unfold migrationMarker
  exact (getLast?_append_string hne).trans hlast

theorem migrationMarker_ne (v : String) : (migrationMarker v).toList ≠ [] := by
  intro h
  have := migrationMarker_last v
  rw [h] at this
  simp at this

theorem migratedReason_last (r : Option String) (v : String) : (migratedReason r v).toList.getLast? = some '.' := by
  unfold migratedReason
  split
  · split_ifs
    · rw [getLast?_append_string (migrationMarker_ne v), migrationMarker_last]
    · exact migrationMarker_last v
  · exact migrationMarker_last v

theorem hasText_migratedReason (r : Option String) (v : String) : hasText (migratedReason r v) = true :=
  hasText_iff.2 ⟨'.', List.mem_of_getLast? (migratedReason_last r v), by decide⟩

/-- what the columns have taken of each control -/
theorem materializeRevision_controls {c : RevisionContent} {u : Unit} (h : materializeRevision c = .ok u) :
    ∀ x ∈ c.controls, (∃ t, varchar 500 x.title = .ok t) ∧ ∀ r ∈ x.unresolvedReason, ∃ t, varchar 4000 r = .ok t := by
  simp only [materializeRevision, bind_eq_ok] at h
  obtain ⟨_, _, _, _, _, _, _, _, _, hx, _⟩ := h
  intro x hmem
  have hrow := forM_eq_ok.1 hx x hmem
  simp only [controlRow, bind_eq_ok] at hrow
  obtain ⟨_, _, title, ht, _, _, _, _, _, _, reason, hr, _⟩ := hrow
  refine ⟨⟨title, ht⟩, fun r hmem => ?_⟩
  rw [Option.mem_def.1 hmem] at hr
  cases hv : varchar 4000 r with
  | error e => simp [hv] at hr
  | ok t => exact ⟨t, rfl⟩

theorem stripped_last {s : String} (hs : strip s = s) : ∀ c ∈ s.toList.getLast?, c ≠ ' ' := by
  rintro c hc rfl
  rw [← hs, strip, String.toList_ofList] at hc
  exact absurd (getLast?_stripChars ' ' hc) (by decide)

namespace Migrated

variable {host : Host} {base c : RevisionContent} {old new : ResolvedProfile} {level : String}
  {categorization : Option (List FactContent)} {diff : ProfileDiff} {newRow : ProfileRow}

theorem sections_valid (h : Migrated host base old new level categorization diff c) (hb : base.Valid)
    (hrow : ResolvedFrom newRow.bundle level new) (hwf : newRow.bundle.WellFormed) : ∀ s ∈ c.sections, s.Valid := by
  intro s' hs'
  rcases h.sections s' hs' with ⟨s, hs, hkey, htext, -, hstate⟩ | ⟨-, -, -, hv⟩
  · have hv := (RevisionContent.valid_iff.1 hb).2.1 s hs
    rw [SectionContent.valid_iff] at hv ⊢
    obtain ⟨h₁, h₂, -, -, h₅, h₆⟩ := hv
    obtain ⟨i, hi, -, htitle⟩ := h.titles s' hs'
    rw [hrow.items] at hi
    obtain ⟨ht₁, ht₂⟩ := hwf.itemTitles i hi
    rw [← hkey, htext, htitle]
    refine ⟨h₁, h₂, ht₁, by omega, h₅, ?_⟩
    rcases hstate with he | ⟨hr, he⟩
    · rwa [he]
    · rw [he, ← h₆, hr]
      decide
  · exact hv

theorem controls_valid (h : Migrated host base old new level categorization diff c) (hb : base.Valid)
    (hrow : ResolvedFrom newRow.bundle level new) (hwf : newRow.bundle.WellFormed) {u : Unit}
    (hm : materializeRevision c = .ok u) : ∀ x ∈ c.controls, x.Valid := by
  intro x' hx'
  rcases h.controls x' hx' with ⟨x, hx, -, -, title, hcase⟩ | ⟨-, -, -, hv⟩
  · have hv := (RevisionContent.valid_iff.1 hb).2.2.1 x hx
    rw [ControlContent.valid_iff] at hv
    obtain ⟨h₁, -, -, h₄, h₅, h₆, h₇, h₈, h₉, h₁₀⟩ := hv
    obtain ⟨p, hp, htitle⟩ := h.controlTitles x' hx'
    obtain ⟨hne, hstrip⟩ := hwf.controlTitles p (hrow.controls p hp)
    obtain ⟨⟨t, ht⟩, hreason⟩ := materializeRevision_controls hm x' hx'
    have hlen : 1 ≤ x'.title.length ∧ x'.title.length ≤ 500 := by
      rw [htitle] at ht ⊢
      refine ⟨?_, varchar_length ht (stripped_last hstrip)⟩
      rw [Nat.one_le_iff_ne_zero, Ne, String.length_eq_zero_iff]
      exact hne
    rcases hcase with ⟨-, rfl⟩ | ⟨-, rfl⟩
    · exact ControlContent.valid_iff.2 ⟨h₁, hlen.1, hlen.2, h₄, h₅, h₆, h₇, h₈, h₉, h₁₀⟩
    · obtain ⟨t, ht⟩ := hreason _ rfl
      have hlast : ∀ c ∈ (migratedReason x.unresolvedReason new.profileVersion).toList.getLast?, c ≠ ' ' := by
        rw [migratedReason_last]
        rintro c hc rfl
        exact absurd (Option.some.inj hc) (by decide)
      exact ControlContent.valid_iff.2 ⟨h₁, hlen.1, hlen.2, h₄, h₅, h₆, varchar_length ht hlast, nofun, nofun,
        fun _ => Or.inr (hasText_migratedReason _ _)⟩
  · exact hv

theorem question_valid {q : QuestionContent} (hq : q.Valid) : (migratedQuestion new q).Valid := by
  unfold migratedQuestion
  split_ifs with hc
  · rw [QuestionContent.valid_iff] at hq ⊢
    obtain ⟨h₁, h₂, h₃, h₄, h₅, -, -⟩ := hq
    exact ⟨h₁, h₂, h₃, h₄, h₅, nofun, nofun⟩
  · exact hq

theorem migratedQuestion_idKey (q : QuestionContent) : (migratedQuestion new q).idKey = q.idKey := by
  unfold migratedQuestion
  split_ifs <;> rfl

theorem unique (h : Migrated host base old new level categorization diff c) (hb : base.Unique)
    (hrow : ResolvedFrom newRow.bundle level new) (hwf : newRow.bundle.WellFormed) : c.Unique where
  facts := h.distinct_facts hb
  sections := by
    rw [KeyedList.Distinct, h.sectionKeys, ResolvedProfile.itemIds, hrow.items]
    exact hwf.items
  controls := by
    rw [KeyedList.Distinct, h.controlIds]
    exact (hwf.baselines _ (controlIdsFor_mem hrow.controlIds)).1
  questions := by
    rw [h.questions, KeyedList.distinct_map migratedQuestion_idKey]
    exact hb.questions

theorem valid (h : Migrated host base old new level categorization diff c) (hb : base.Valid)
    (hrow : ResolvedFrom newRow.bundle level new) (hwf : newRow.bundle.WellFormed)
    (hc : ∀ facts ∈ categorization, ∃ i, facts = buildConfirmedCategorizationFacts i) {u : Unit}
    (hm : materializeRevision c = .ok u) : c.Valid := by
  refine RevisionContent.valid_iff.2 ⟨fun g hg => ?_, h.sections_valid hb hrow hwf, h.controls_valid hb hrow hwf hm,
    fun q hq => ?_, h.unique hb.unique hrow hwf⟩
  · have hlen : ∀ k ∈ "profile_id" :: "profile_version" :: impactKey :: provisionalKey :: (statusKeys ++ confirmedKeys),
        1 ≤ k.length ∧ k.length ≤ 255 := by decide
    have hisso : ∀ k ∈ "profile_id" :: "profile_version" :: impactKey :: provisionalKey :: (statusKeys ++ confirmedKeys),
        ∀ v, (FactContent.isso k v).Valid := fun k hk v => FactContent.isso_valid (hlen k hk)
    rcases h.mem_facts hb.unique hg with hg | rfl | rfl | rfl | rfl | ⟨k, hk, rfl⟩ | ⟨facts, hfacts, hg⟩
    · exact (RevisionContent.valid_iff.1 hb).1 g hg
    · exact hisso _ (by simp) _
    · exact hisso _ (by simp) _
    · exact hisso _ (by simp) _
    · exact hisso _ (by simp) _
    · exact hisso k (by simp [hk]) _
    · obtain ⟨i, rfl⟩ := hc facts hfacts
      obtain ⟨hk, -, hp⟩ := confirmedFact hg
      exact FactContent.valid_iff.2 ⟨(hlen _ (by simp [hk])).1, (hlen _ (by simp [hk])).2, Or.inl hp⟩
  · rw [h.questions] at hq
    obtain ⟨q₀, hq₀, rfl⟩ := List.mem_map.1 hq
    exact question_valid ((RevisionContent.valid_iff.1 hb).2.2.2.1 q₀ hq₀)

end Migrated

/-! ## Any edit -/

section

variable {host : Host} {e : Edit} {base c : RevisionContent}

theorem confirmation_facts {categorization : Option (List FactContent)} {level : String}
    (h : ∀ facts ∈ categorization, ∃ i : CategorizationInput, i.Checked ∧ facts = buildConfirmedCategorizationFacts i ∧
      level = highWaterMarkImpact i.confidentiality i.integrity i.availability) :
    ∀ facts ∈ categorization, ∃ i, facts = buildConfirmedCategorizationFacts i := by
  intro facts hf
  obtain ⟨i, -, hi, -⟩ := h facts hf
  exact ⟨i, hi⟩

/-- **What an edit makes is valid**, when its rows have been taken. -/
theorem apply_valid (hb : base.Valid) (ha : e.Admissible) (h : e.apply host base = .ok c) {u : Unit}
    (hm : materializeRevision c = .ok u) : c.Valid := by
  by_cases hr : e.Rewrites
  · exact (rewritten_of_apply hb.unique ha hr h).valid ha hb
  · cases e with
    | migrate old new newRow level categorization =>
      obtain ⟨hwf, hres, hcat⟩ := ha
      obtain ⟨diff, -, hmig⟩ := migrated_of_apply hb.unique h
      exact hmig.valid hb (resolveStoredProfile_spec hres).2 hwf (confirmation_facts hcat) hm
    | restore target => exact Except.ok.inj h ▸ ha
    | _ => exact absurd trivial hr

end

end AtoService.Workspace
