/-
What the transforms of a revision do to its facts.

`getFact_put`, `getFact_sort` and `activeText_put_isso` read the dictionary of facts after an assignment. `Marked` is
what staleness marking may do: it writes the three statuses and the provisional impact and nothing else, and
`markStale_not_confirmed` says that no confirmation that covers the section stands after it. `FactsOk` is the
shape that every revision keeps its facts in.
-/
import AtoService.Workspace.Editing

namespace AtoService.Workspace

open AtoService.Py

/-! ## Lookups -/

section Lookups

variable {k : String} {f : FactContent} {fs : List FactContent}

theorem getFact_put : getFact k (putFact f fs) = if f.key = k then some f else getFact k fs := KeyedList.get?_put k f fs

theorem getFact_put_ne (h : f.key ≠ k) : getFact k (putFact f fs) = getFact k fs := by rw [getFact_put, if_neg h]

theorem getFact_sort (hd : KeyedList.Distinct FactContent.key fs) : getFact k (sortFacts fs) = getFact k fs :=
  KeyedList.get?_sorted hd

theorem distinct_sortFacts (hd : KeyedList.Distinct FactContent.key fs) :
    KeyedList.Distinct FactContent.key (sortFacts fs) := KeyedList.distinct_sorted hd

theorem distinct_putFact (hd : KeyedList.Distinct FactContent.key fs) :
    KeyedList.Distinct FactContent.key (putFact f fs) := KeyedList.distinct_put hd

theorem mem_sortFacts {g : FactContent} : g ∈ sortFacts fs ↔ g ∈ fs := KeyedList.mem_sorted

theorem mem_putFact {g : FactContent} (h : g ∈ putFact f fs) : g = f ∨ g ∈ fs := KeyedList.mem_put h

/-- the text at a key depends on the fact at that key only -/
theorem activeText_congr {gs : List FactContent} (h : getFact k fs = getFact k gs) : activeText k fs = activeText k gs := by
  rw [activeText, activeText, h]

theorem activeText_sort (hd : KeyedList.Distinct FactContent.key fs) : activeText k (sortFacts fs) = activeText k fs :=
  activeText_congr (getFact_sort hd)

theorem activeText_put_ne (h : f.key ≠ k) : activeText k (putFact f fs) = activeText k fs :=
  activeText_congr (getFact_put_ne h)

theorem activeText_put_isso (key text : String) : activeText key (putFact (.isso key (.str text)) fs) = some text := by
  have h : getFact key (putFact (.isso key (.str text)) fs) = some (.isso key (.str text)) := by
    rw [getFact_put, if_pos (FactContent.isso_key _ _)]
  rw [activeText, h]
  rfl

end Lookups

namespace RevisionContent

variable {c : RevisionContent}

theorem Unique.factDict (hc : c.Unique) : c.factDict = c.facts := KeyedList.ofList_eq hc.facts

theorem Unique.sectionDict (hc : c.Unique) : c.sectionDict = c.sections := KeyedList.ofList_eq hc.sections

theorem Unique.controlDict (hc : c.Unique) : c.controlDict = c.controls := KeyedList.ofList_eq hc.controls

theorem Unique.questionDict (hc : c.Unique) : c.questionDict = c.questions := KeyedList.ofList_eq hc.questions

end RevisionContent

/-! ## Staleness marking -/

def impactKey : String := "system.impact_level"

def provisionalKey : String := "system.provisional_impact_level"

/-- the status facts of the three confirmations -/
def statusKeys : List String := [Categorization.statusKey, SystemDefinition.statusKey, InformationTypes.statusKey]

/-- a fact that marking writes: a stale status, or the selected impact as provisional -/
def IsMark (c : RevisionContent) (g : FactContent) : Prop :=
  (∃ k ∈ statusKeys, g = .isso k (.str "stale")) ∨
    ∃ f ∈ c.facts, f.key = impactKey ∧ g = .isso provisionalKey f.value

/-- `c'` is `c` after some marking -/
structure Marked (c c' : RevisionContent) : Prop where
  sections : c'.sections = c.sections
  controls : c'.controls = c.controls
  questions : c'.questions = c.questions
  distinct : KeyedList.Distinct FactContent.key c.facts → KeyedList.Distinct FactContent.key c'.facts
  frame : KeyedList.Distinct FactContent.key c.facts → ∀ k, k ∉ statusKeys → k ≠ provisionalKey →
    getFact k c'.facts = getFact k c.facts
  provisional : KeyedList.Distinct FactContent.key c.facts → getFact impactKey c.facts = none →
    getFact provisionalKey c'.facts = getFact provisionalKey c.facts
  mem : ∀ g ∈ c'.facts, g ∈ c.facts ∨ IsMark c g
  order : c'.facts = c.facts ∨ c'.facts.Pairwise fun a b => a.key ≤ b.key
  statuses : KeyedList.Distinct FactContent.key c.facts → ∀ k ∈ statusKeys,
    activeText k c'.facts = activeText k c.facts ∨ activeText k c'.facts = some "stale"

namespace Marked

theorem refl (c : RevisionContent) : Marked c c :=
  ⟨rfl, rfl, rfl, id, fun _ _ _ _ => rfl, fun _ _ => rfl, fun _ h => Or.inl h, Or.inl rfl, fun _ _ _ => Or.inl rfl⟩

theorem trans {c₁ c₂ c₃ : RevisionContent} (h : Marked c₁ c₂) (h' : Marked c₂ c₃) : Marked c₁ c₃ where
  sections := h'.sections.trans h.sections
  controls := h'.controls.trans h.controls
  questions := h'.questions.trans h.questions
  distinct hd := h'.distinct (h.distinct hd)
  frame hd k hk hp := (h'.frame (h.distinct hd) k hk hp).trans (h.frame hd k hk hp)
  provisional hd hn := by
    have hn' : getFact impactKey c₂.facts = none := (h.frame hd impactKey (by decide) (by decide)).trans hn
    exact (h'.provisional (h.distinct hd) hn').trans (h.provisional hd hn)
  mem g hg := by
    rcases h'.mem g hg with hg | ⟨k, hk, rfl⟩ | ⟨f, hf, hkey, rfl⟩
    · exact h.mem g hg
    · exact Or.inr (Or.inl ⟨k, hk, rfl⟩)
    · -- marking never writes the selected impact, so it stood there before
      rcases h.mem f hf with hf | ⟨k, hk, rfl⟩ | ⟨f', -, -, rfl⟩
      · exact Or.inr (Or.inr ⟨f, hf, hkey, rfl⟩)
      · rw [FactContent.isso_key] at hkey
        subst hkey
        exact absurd hk (by decide)
      · exact absurd (show provisionalKey = impactKey from hkey) (by decide)
  order := by
    rcases h'.order with he | hs
    · rw [he]
      exact h.order
    · exact Or.inr hs
  statuses hd k hk := by
    rcases h'.statuses (h.distinct hd) k hk with he | hs
    · rw [he]
      exact h.statuses hd k hk
    · exact Or.inr hs

/-- a confirmation that does not stand does not come back -/
theorem not_confirmed {c c' : RevisionContent} (h : Marked c c') (hd : KeyedList.Distinct FactContent.key c.facts)
    {k : String} (hk : k ∈ statusKeys) (hc : activeText k c.facts ≠ some "confirmed") :
    activeText k c'.facts ≠ some "confirmed" := by
  rcases h.statuses hd k hk with he | hs
  · rwa [he]
  · rw [hs]
    decide

end Marked

theorem knownStatus_confirmed {s : Option String} : knownStatus s = some "confirmed" ↔ s = some "confirmed" := by
  rw [knownStatus, Option.filter_eq_some_iff]
  exact ⟨fun h => h.1, fun h => ⟨h, by decide⟩⟩

/-- what sorting a dictionary of facts keeps, when the dictionary is `c`'s own -/
theorem factDict_distinct (c : RevisionContent) : KeyedList.Distinct FactContent.key c.factDict :=
  KeyedList.distinct_ofList _

theorem getFact_factDict {c : RevisionContent} (hd : KeyedList.Distinct FactContent.key c.facts) (k : String) :
    getFact k c.factDict = getFact k c.facts := by
  rw [RevisionContent.factDict, KeyedList.ofList_eq hd]

theorem sortFacts_pairwise (fs : List FactContent) : (sortFacts fs).Pairwise fun a b => a.key ≤ b.key :=
  KeyedList.sorted_pairwise fs

theorem marked_confirmation (triggers : List String) {statusKey : String} (hk : statusKey ∈ statusKeys)
    (c : RevisionContent) (key : String) : Marked c (markConfirmationStale triggers statusKey c key) := by
  unfold markConfirmationStale
  split_ifs with h
  · exact Marked.refl c
  · have hdist := factDict_distinct c
    have keep : KeyedList.Distinct FactContent.key c.facts → ∀ k, k ∉ statusKeys →
        getFact k (sortFacts (putFact (.isso statusKey (.str "stale")) c.factDict)) = getFact k c.facts := by
      intro hd k hk'
      have hne : (FactContent.isso statusKey (.str "stale")).key ≠ k := fun e => hk' (e ▸ hk)
      rw [getFact_sort (distinct_putFact hdist), getFact_put_ne hne, getFact_factDict hd]
    refine ⟨rfl, rfl, rfl, fun _ => distinct_sortFacts (distinct_putFact hdist), fun hd k hk' _ => keep hd k hk',
      fun hd _ => keep hd _ (by decide), fun g hg => ?_, Or.inr (sortFacts_pairwise _), fun hd k _ => ?_⟩
    · rcases mem_putFact (mem_sortFacts.1 hg) with rfl | hg
      · exact Or.inr (Or.inl ⟨statusKey, hk, rfl⟩)
      · exact Or.inl (KeyedList.mem_ofList hg)
    · rw [activeText_sort (distinct_putFact hdist)]
      by_cases he : statusKey = k
      · subst he
        exact Or.inr (activeText_put_isso statusKey "stale")
      · left
        rw [activeText_put_ne (by simpa using he)]
        exact activeText_congr (getFact_factDict hd k)

/-- the facts of a categorization that went stale, key by key -/
theorem getFact_staleCategorization {fs : List FactContent} {k : String} (hk : k ≠ Categorization.statusKey)
    (hp : k ≠ provisionalKey) : getFact k (staleCategorizationFacts fs) = getFact k fs := by
  have hs : getFact k (putFact (.isso Categorization.statusKey (.str "stale")) fs) = getFact k fs :=
    getFact_put_ne (Ne.symm hk)
  simp only [staleCategorizationFacts]
  split
  · rw [getFact_put_ne (Ne.symm hp), hs]
  · exact hs

theorem staleCategorization_status (fs : List FactContent) :
    activeText Categorization.statusKey (staleCategorizationFacts fs) = some "stale" := by
  simp only [staleCategorizationFacts]
  split
  · rw [activeText_put_ne (show provisionalKey ≠ Categorization.statusKey by decide)]
    exact activeText_put_isso _ _
  · exact activeText_put_isso _ _

theorem distinct_staleCategorization {fs : List FactContent} (hd : KeyedList.Distinct FactContent.key fs) :
    KeyedList.Distinct FactContent.key (staleCategorizationFacts fs) := by
  simp only [staleCategorizationFacts]
  split
  · exact distinct_putFact (distinct_putFact hd)
  · exact distinct_putFact hd

theorem marked_categorization (c : RevisionContent) (key : String) :
    Marked c (markCategorizationStaleIfNeeded c key) := by
  unfold markCategorizationStaleIfNeeded
  split_ifs with h
  · exact Marked.refl c
  · have hdist := distinct_staleCategorization (factDict_distinct c)
    refine ⟨rfl, rfl, rfl, fun _ => distinct_sortFacts hdist, fun hd k hk hp => ?_, fun hd hn => ?_, fun g hg => ?_,
      Or.inr (sortFacts_pairwise _), fun hd k hk => ?_⟩
    · have hne : k ≠ Categorization.statusKey := fun e => hk (e ▸ by decide)
      rw [getFact_sort hdist, getFact_staleCategorization hne hp, getFact_factDict hd]
    · have hput : getFact impactKey (putFact (.isso Categorization.statusKey (.str "stale")) c.factDict) = none := by
        rw [getFact_put_ne (by decide), getFact_factDict hd, hn]
      have hstale : staleCategorizationFacts c.factDict =
          putFact (.isso Categorization.statusKey (.str "stale")) c.factDict := by
        simp only [staleCategorizationFacts]
        rw [show getFact "system.impact_level" _ = none from hput]
      show getFact provisionalKey (sortFacts (staleCategorizationFacts c.factDict)) = _
      rw [getFact_sort hdist, hstale, getFact_put_ne (by decide), getFact_factDict hd]
    · have hmark : ∀ g ∈ putFact (.isso Categorization.statusKey (.str "stale")) c.factDict, g ∈ c.facts ∨ IsMark c g := by
        intro g hg
        rcases mem_putFact hg with rfl | hg
        · exact Or.inr (Or.inl ⟨_, by decide, rfl⟩)
        · exact Or.inl (KeyedList.mem_ofList hg)
      replace hg := mem_sortFacts.1 hg
      simp only [staleCategorizationFacts] at hg
      split at hg
      · rename_i impact himpact
        rcases mem_putFact hg with rfl | hg
        · refine Or.inr (Or.inr ⟨impact, ?_, KeyedList.key_of_get? himpact, rfl⟩)
          rcases mem_putFact (KeyedList.mem_of_get? himpact) with rfl | hm
          · exact absurd (KeyedList.key_of_get? himpact) (by decide)
          · exact KeyedList.mem_ofList hm
        · exact hmark g hg
      · exact hmark g hg
    · rw [activeText_sort hdist]
      by_cases he : k = Categorization.statusKey
      · subst he
        exact Or.inr (staleCategorization_status _)
      · left
        have hp : k ≠ provisionalKey := fun e => absurd (e ▸ hk) (by decide)
        exact activeText_congr ((getFact_staleCategorization he hp).trans (getFact_factDict hd k))

theorem marked_markStale (c : RevisionContent) (key : String) : Marked c (markStale c key) :=
  ((marked_categorization c key).trans (marked_confirmation _ (by decide) _ key)).trans
    (marked_confirmation _ (by decide) _ key)

theorem marked_foldl (keys : List String) (c : RevisionContent) : Marked c (keys.foldl markStale c) := by
  induction keys generalizing c with
  | nil => exact Marked.refl c
  | cons key keys ih => exact (marked_markStale c key).trans (ih (markStale c key))

/-! ## What marking makes stale -/

theorem markConfirmation_not_confirmed {triggers : List String} {statusKey key : String} (ht : key ∈ triggers) {c : RevisionContent} (hd : KeyedList.Distinct FactContent.key c.facts) :
    activeText statusKey (markConfirmationStale triggers statusKey c key).facts ≠ some "confirmed" := by
  unfold markConfirmationStale
  split_ifs with h
  · rcases h with h | h
    · exact absurd ht h
    · rw [Ne, knownStatus_confirmed, activeText_congr (getFact_factDict hd statusKey)] at h
      exact h
  · have hdist := distinct_putFact (f := .isso statusKey (.str "stale")) (factDict_distinct c)
    rw [activeText_sort hdist, activeText_put_isso]
    decide

theorem markCategorization_not_confirmed {key : String} (ht : key ∈ Categorization.staleTriggerSectionKeys)
    {c : RevisionContent} (hd : KeyedList.Distinct FactContent.key c.facts) :
    activeText Categorization.statusKey (markCategorizationStaleIfNeeded c key).facts ≠ some "confirmed" := by
  unfold markCategorizationStaleIfNeeded
  split_ifs with h
  · rcases h with h | h
    · exact absurd ht h
    · rwa [Ne, activeCategorizationStatus, activeText_congr (getFact_factDict hd _)] at h
  · rw [activeText_sort (distinct_staleCategorization (factDict_distinct c)), staleCategorization_status]
    decide

/-- the confirmation that covers a section: a status fact and the sections it was given over -/
inductive Covers : String → String → Prop where
  | categorization {key : String} (h : key ∈ Categorization.staleTriggerSectionKeys) :
    Covers Categorization.statusKey key
  | systemDefinition {key : String} (h : key ∈ SystemDefinition.staleTriggerSectionKeys) :
    Covers SystemDefinition.statusKey key
  | informationTypes : Covers InformationTypes.statusKey InformationTypes.sectionKey

theorem Covers.mem {k key : String} (h : Covers k key) : k ∈ statusKeys := by
  cases h <;> decide

/-- **Marking is complete.** After `markStale` no confirmation that covers the section stands. -/
theorem markStale_not_confirmed {c : RevisionContent} (hd : KeyedList.Distinct FactContent.key c.facts)
    {k key : String} (h : Covers k key) : activeText k (markStale c key).facts ≠ some "confirmed" := by
  have m₁ := marked_categorization c key
  have m₂ : Marked _ (markSystemDefinitionStaleIfNeeded (markCategorizationStaleIfNeeded c key) key) :=
    marked_confirmation _ (by decide) _ key
  have m₃ : Marked _ (markStale c key) := marked_confirmation _ (by decide) _ key
  have d₁ := m₁.distinct hd
  have d₂ := m₂.distinct d₁
  cases h with
  | categorization ht =>
    exact m₃.not_confirmed d₂ (by decide) (m₂.not_confirmed d₁ (by decide) (markCategorization_not_confirmed ht hd))
  | systemDefinition ht => exact m₃.not_confirmed d₂ (by decide) (markConfirmation_not_confirmed ht d₁)
  | informationTypes =>
    exact markConfirmation_not_confirmed List.mem_cons_self d₂

theorem foldl_markStale_not_confirmed {keys : List String} {c : RevisionContent}
    (hd : KeyedList.Distinct FactContent.key c.facts) {k key : String} (h : Covers k key) (hkey : key ∈ keys) :
    activeText k (keys.foldl markStale c).facts ≠ some "confirmed" := by
  induction keys generalizing c with
  | nil => simp at hkey
  | cons key' keys ih =>
    have hd' := (marked_markStale c key').distinct hd
    rcases List.mem_cons.1 hkey with rfl | hkey
    · exact (marked_foldl keys _).not_confirmed hd' h.mem (markStale_not_confirmed hd h)
    · exact ih hd' hkey

/-! ## The impact level -/

/-- what holds of the facts of every revision: all active, no old name of the impact level, and the selected level
before the provisional one, each of them a level without evidence -/
structure FactsOk (fs : List FactContent) : Prop where
  distinct : KeyedList.Distinct FactContent.key fs
  active : ∀ f ∈ fs, f.state = .active
  noAlias : ∀ f ∈ fs, f.key ≠ "impact_level"
  order : (fs.map FactContent.key).Pairwise fun a b => ¬(a = provisionalKey ∧ b = impactKey)
  levels : ∀ f ∈ fs, f.key = impactKey ∨ f.key = provisionalKey →
    (∃ l, f.value = .str l ∧ isImpactLevel l = true) ∧ f.evidence = []

theorem filter_active {fs : List FactContent} (h : ∀ f ∈ fs, f.state = .active) :
    (fs.filter fun f => f.state = .active) = fs :=
  List.filter_eq_self.2 fun f hf => by simp [h f hf]

end AtoService.Workspace
