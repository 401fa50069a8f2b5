/-
What REDUCE reports about the targets of a catalog.

- `Round.readAt_other`: a round keeps the values of the other targets.
- `Kept.round`, `Kept.run`: every target of the rounds so far is rejected, in conflict or merged, and what is merged is
  filled, as long as no round fills a target with nothing.
- `targets_accounted_iff`: the result accounts for the targets exactly when no round does that.
Witness `null_merged`: a null that is proposed for an empty target is merged, and the target is no gap.
-/
import AtoService.Intake.ReduceOrder
import AtoService.Intake.ReduceRounds

namespace AtoService.IntakeMerge

open Json Results
open AtoService.Drafts (Fields isUnfilled Same)
open AtoService.Workspace (Uuid)

/-! ## Values of targets -/

/-- there is no value at the pointer, or one that counts as empty -/
def EmptyAt (document : Json) (pointer : String) : Prop :=
  match readAt (pointerParts pointer) document with
  | .ok v => isUnfilled (some v) = true
  | .error _ => True

theorem EmptyAt.congr {document document' : Json} {t : String}
    (h : readAt (pointerParts t) document = readAt (pointerParts t) document') :
    EmptyAt document t ↔ EmptyAt document' t := by
  unfold EmptyAt
  rw [h]

theorem emptyAt_of_read {document value : Json} {t : String} (h : readAt (pointerParts t) document = .ok value) :
    EmptyAt document t ↔ isUnfilled (some value) = true := by
  unfold EmptyAt
  rw [h]

theorem readAt_of_current {document value : Json} {t : String} (hne : t ≠ "")
    (h : currentValue document t = .ok (some value)) : readAt (pointerParts t) document = .ok value := by
  rw [currentValue, if_neg hne] at h
  split at h
  · next v hv =>
    rw [hv, Option.some.inj (Except.ok.inj h)]
  · cases h
  · cases h

theorem unfilled_of_emptyAt {document : Json} {t : String} {current : Option Json} (hne : t ≠ "")
    (h : currentValue document t = .ok current) (hempty : EmptyAt document t) : isUnfilled current = true := by
  cases current with
  | none => rfl
  | some v => exact (emptyAt_of_read (readAt_of_current hne h)).1 hempty

variable {profileId : String} {catalog : List TargetSpec} {schemas : Schemas} {m m' : Merging} {t u : String}
  {first : IntakeMapProposal} {entries proposals : List IntakeMapProposal}

theorem writeAt_of_set {document value document' : Json} (h : setJsonPointer document t value = .ok document') :
    writeAt value (pointerParts t) document = .ok document' := by
  unfold setJsonPointer at h
  split at h
  · cases h
  · exact mapError_eq_ok.1 h

/-- a round keeps the values of the other targets -/
theorem Round.readAt_other (hcatalog : catalogForProfile profileId = some catalog)
    (h : Round schemas (some profileId) m t first entries m') (hu : Listed catalog u) (hne : t ≠ u) :
    readAt (pointerParts u) m'.document = readAt (pointerParts u) m.document := by
  cases h with
  | rejected _ => rfl
  | disagreeing _ _ => rfl
  | contradicted _ _ _ _ _ => rfl
  | confirmed _ _ _ _ _ => rw [recordSources_document]
  | filled hadmitted _ _ _ hset =>
    have ht := listed_of_admitted hcatalog hadmitted
    have hwrite := writeAt_of_set hset
    exact readAt_writeAt_of_unrelated (catalog_apart hcatalog ht hu hne)
      (through_of_writeAt (catalogPointer hcatalog ht).names hwrite) hwrite

/-! ## Rounds that fill a target with nothing -/

/-- the round takes a value for an empty target, and the value is empty as well -/
def FillsNothing (schemas : Schemas) (profileId : String) (proposals : List IntakeMapProposal) (m : Merging)
    (t : String) : Prop :=
  ∃ first rest existing, entriesFor proposals t = first :: rest ∧
    admitted schemas (some profileId) t first.proposedValue m.document = .ok true ∧ Agree first (first :: rest) ∧
    currentValue m.document t = .ok existing ∧ isUnfilled existing = true ∧
    isUnfilled (some first.proposedValue) = true

/-- the target is rejected, or left in conflict -/
def Reported (m : Merging) (t : String) : Prop :=
  t ∈ m.rejectedProposals ∨ ∃ c ∈ m.conflicts, c.targetPointer = t ∧ c.resolution = "unresolved"

theorem Reported.round {profile : Option String} (h : Round schemas profile m t first entries m')
    (hu : Reported m u) : Reported m' u := by
  cases h with
  | rejected _ => exact hu.imp_left fun hmem => List.mem_append_left _ hmem
  | disagreeing _ _ => exact hu.imp_right fun ⟨c, hc, hcu⟩ => ⟨c, List.mem_append_left _ hc, hcu⟩
  | contradicted _ _ _ _ _ => exact hu.imp_right fun ⟨c, hc, hcu⟩ => ⟨c, List.mem_append_left _ hc, hcu⟩
  | confirmed _ _ _ _ _ =>
    unfold Reported
    rw [recordSources_rejected, recordSources_conflicts]
    exact hu
  | filled _ _ _ _ _ =>
    change u ∈ (m.recordSources t entries).rejectedProposals ∨ ∃ c ∈ (m.recordSources t entries).conflicts, _
    rw [recordSources_rejected, recordSources_conflicts]
    exact hu

/-- a round reports its target, or merges it with the value that is then there -/
theorem Round.result (proposals : List IntakeMapProposal) {rest : List IntakeMapProposal}
    (hcatalog : catalogForProfile profileId = some catalog)
    (h : Round schemas (some profileId) m t first (first :: rest) m') :
    (Reported m' t ∧ m'.mergedTargets = m.mergedTargets) ∨
      (Listed catalog t ∧ m'.mergedTargets = m.mergedTargets ++ [t] ∧
        ∃ value, readAt (pointerParts t) m'.document = .ok value ∧
          (isUnfilled (some value) = true → entriesFor proposals t = first :: rest →
            FillsNothing schemas profileId proposals m t)) := by
  cases h with
  | rejected _ => exact Or.inl ⟨Or.inl (List.mem_append_right _ List.mem_cons_self), rfl⟩
  | disagreeing _ _ => exact Or.inl ⟨Or.inr ⟨_, List.mem_append_right _ List.mem_cons_self, rfl, rfl⟩, rfl⟩
  | contradicted _ _ _ _ _ => exact Or.inl ⟨Or.inr ⟨_, List.mem_append_right _ List.mem_cons_self, rfl, rfl⟩, rfl⟩
  | @confirmed value hadmitted hagree hcurrent hfilled hsame =>
    have ht := listed_of_admitted hcatalog hadmitted
    refine Or.inr ⟨ht, recordSources_merged m t first rest, value, ?_, ?_⟩
    · rw [recordSources_document]
      exact readAt_of_current (catalogPointer hcatalog ht).ne_empty hcurrent
    · intro hempty
      rw [hfilled] at hempty
      cases hempty
  | filled hadmitted hagree hcurrent hunfilled hset =>
    have ht := listed_of_admitted hcatalog hadmitted
    have hwrite := writeAt_of_set hset
    refine Or.inr ⟨ht, recordSources_merged m t first rest, first.proposedValue, ?_, ?_⟩
    · exact readAt_writeAt (catalogPointer hcatalog ht).parts_ne hwrite
    · intro hempty hentries
      exact ⟨first, rest, _, hentries, hadmitted, hagree, hcurrent, hunfilled, hempty⟩

/-- what holds after the rounds of some targets, none of which filled its target with nothing -/
structure Kept (catalog : List TargetSpec) (done : List String) (m : Merging) : Prop where
  handled : ∀ t ∈ done, Reported m t ∨ t ∈ m.mergedTargets
  merged : ∀ t ∈ m.mergedTargets, Listed catalog t ∧ t ∈ done
  filled : ∀ t ∈ m.mergedTargets, ¬EmptyAt m.document t

theorem Kept.round (hcatalog : catalogForProfile profileId = some catalog) {done : List String}
    (h : Kept catalog done m) (hfresh : t ∉ done) (hentries : entriesFor proposals t ≠ [])
    (hquiet : ¬FillsNothing schemas profileId proposals m t)
    (hm : mergeTarget schemas (some profileId) proposals m t = .ok m') : Kept catalog (done ++ [t]) m' := by
  obtain ⟨hnone, _⟩ | ⟨first, rest, hgroup, hround⟩ := mergeTarget_cases hm
  · exact absurd hnone hentries
  have hother : ∀ u ∈ m.mergedTargets, ¬EmptyAt m'.document u := by
    intro u hu
    obtain ⟨hlisted, hdone⟩ := h.merged u hu
    have hne : t ≠ u := fun heq => hfresh (heq ▸ hdone)
    rw [EmptyAt.congr (hround.readAt_other hcatalog hlisted hne)]
    exact h.filled u hu
  rcases hround.result proposals hcatalog with ⟨hreported, hmerged⟩ | ⟨hlisted, hmerged, value, hread, hempty⟩
  · refine ⟨fun u hu => ?_, fun u hu => ?_, fun u hu => ?_⟩
    · rcases List.mem_append.1 hu with hu | hu
      · exact (h.handled u hu).imp (Reported.round hround) fun hmem => hmerged ▸ hmem
      · obtain rfl := List.mem_singleton.1 hu
        exact Or.inl hreported
    · rw [hmerged] at hu
      exact ⟨(h.merged u hu).1, List.mem_append_left _ (h.merged u hu).2⟩
    · rw [hmerged] at hu
      exact hother u hu
  · refine ⟨fun u hu => ?_, fun u hu => ?_, fun u hu => ?_⟩
    · rcases List.mem_append.1 hu with hu | hu
      · exact (h.handled u hu).imp (Reported.round hround) fun hmem => hmerged ▸ List.mem_append_left _ hmem
      · obtain rfl := List.mem_singleton.1 hu
        exact Or.inr (hmerged ▸ List.mem_append_right _ List.mem_cons_self)
    · rw [hmerged] at hu
      rcases List.mem_append.1 hu with hu | hu
      · exact ⟨(h.merged u hu).1, List.mem_append_left _ (h.merged u hu).2⟩
      · obtain rfl := List.mem_singleton.1 hu
        exact ⟨hlisted, List.mem_append_right _ List.mem_cons_self⟩
    · rw [hmerged] at hu
      rcases List.mem_append.1 hu with hu | hu
      · exact hother u hu
      · obtain rfl := List.mem_singleton.1 hu
        rw [emptyAt_of_read hread]
        exact fun hunfilled => hquiet (hempty hunfilled hgroup)

/-- the rounds of the targets before one of them end in a state -/
def Reaches (schemas : Schemas) (profileId : String) (proposals : List IntakeMapProposal) (base : Merging)
    (done : List String) (m : Merging) : Prop :=
  done.foldlM (mergeTarget schemas (some profileId) proposals) base = .ok m

/-- no round of the loop fills its target with nothing -/
def Quiet (schemas : Schemas) (profileId : String) (proposals : List IntakeMapProposal) (base : Merging) : Prop :=
  ∀ done t later m, targetsOf proposals = done ++ t :: later → Reaches schemas profileId proposals base done m →
    ¬FillsNothing schemas profileId proposals m t

theorem mem_targetsOf : t ∈ targetsOf proposals ↔ t ∈ proposals.map IntakeMapProposal.targetPointer := by
  rw [targetsOf, List.mem_insertionSort, List.mem_dedup]

theorem targetsOf_nodup (proposals : List IntakeMapProposal) : (targetsOf proposals).Nodup :=
  (List.perm_insertionSort _ _).nodup_iff.2 (List.nodup_dedup _)

theorem entriesFor_ne_nil (h : t ∈ targetsOf proposals) : entriesFor proposals t ≠ [] := by
  obtain ⟨p, hp, rfl⟩ := List.mem_map.1 (mem_targetsOf.1 h)
  exact List.ne_nil_of_mem (List.mem_filter.2 ⟨hp, decide_eq_true rfl⟩)

theorem reaches_snoc {base : Merging} {done : List String} (h : Reaches schemas profileId proposals base done m)
    (hm : mergeTarget schemas (some profileId) proposals m t = .ok m') :
    Reaches schemas profileId proposals base (done ++ [t]) m' := by
  rw [Reaches, List.foldlM_append]
  exact bind_eq_ok.2 ⟨m, h, by rw [List.foldlM_cons, hm]; rfl⟩

/-- every run of quiet rounds -/
theorem Kept.run (hcatalog : catalogForProfile profileId = some catalog) {base : Merging}
    (hquiet : Quiet schemas profileId proposals base) {done later : List String}
    (htargets : targetsOf proposals = done ++ later) (hreach : Reaches schemas profileId proposals base done m)
    (h : Kept catalog done m) (hm : later.foldlM (mergeTarget schemas (some profileId) proposals) m = .ok m') :
    Kept catalog (targetsOf proposals) m' := by
  induction later generalizing done m with
  | nil =>
    obtain rfl := Except.ok.inj hm
    rw [htargets, List.append_nil]
    exact h
  | cons t later ih =>
    rw [List.foldlM_cons] at hm
    obtain ⟨m₁, hround, hm⟩ := bind_eq_ok.1 hm
    have hnodup := htargets ▸ targetsOf_nodup proposals
    have hfresh : t ∉ done := fun hmem => (List.nodup_append.1 hnodup).2.2 t hmem t List.mem_cons_self rfl
    have ht : t ∈ targetsOf proposals := htargets ▸ List.mem_append_right _ List.mem_cons_self
    have hkept := h.round hcatalog hfresh (entriesFor_ne_nil ht) (hquiet done t later m htargets hreach) hround
    exact ih (by rw [htargets, List.append_assoc]; rfl) (reaches_snoc hreach hround) hkept hm

/-- a target that was merged with nothing stays merged and empty -/
theorem empty_of_fillsNothing (hcatalog : catalogForProfile profileId = some catalog)
    (h : FillsNothing schemas profileId proposals m t)
    (hm : mergeTarget schemas (some profileId) proposals m t = .ok m') :
    Listed catalog t ∧ t ∈ m'.mergedTargets ∧ EmptyAt m'.document t := by
  obtain ⟨first, rest, existing, hentries, hadmitted, hagree, hcurrent, hunfilled, hempty⟩ := h
  obtain ⟨hnone, _⟩ | ⟨first', rest', hgroup, hround⟩ := mergeTarget_cases hm
  · rw [hnone] at hentries
    cases hentries
  rw [hentries] at hgroup
  cases hgroup
  have ht := listed_of_admitted hcatalog hadmitted
  have hfilled : ∀ {value : Json}, currentValue m.document t = .ok (some value) → isUnfilled (some value) = true := by
    intro value hvalue
    rw [hcurrent] at hvalue
    rw [← Except.ok.inj hvalue, hunfilled]
  cases hround with
  | rejected hrejected =>
    rw [hadmitted] at hrejected
    cases hrejected
  | disagreeing _ hdisagree => exact absurd hagree hdisagree
  | contradicted _ _ hvalue hne _ =>
    rw [hfilled hvalue] at hne
    cases hne
  | confirmed _ _ hvalue hne _ =>
    rw [hfilled hvalue] at hne
    cases hne
  | filled _ _ _ _ hset =>
    refine ⟨ht, ?_, ?_⟩
    · change t ∈ (m.recordSources t (first :: rest)).mergedTargets
      rw [recordSources_merged]
      exact List.mem_append_right _ List.mem_cons_self
    · exact (emptyAt_of_read (readAt_writeAt (catalogPointer hcatalog ht).parts_ne (writeAt_of_set hset))).2 hempty

theorem empty_run (hcatalog : catalogForProfile profileId = some catalog) (ht : Listed catalog t) {later : List String}
    (hfresh : t ∉ later) (hmerged : t ∈ m.mergedTargets) (hempty : EmptyAt m.document t)
    (hm : later.foldlM (mergeTarget schemas (some profileId) proposals) m = .ok m') :
    t ∈ m'.mergedTargets ∧ EmptyAt m'.document t := by
  induction later generalizing m with
  | nil =>
    obtain rfl := Except.ok.inj hm
    exact ⟨hmerged, hempty⟩
  | cons u later ih =>
    rw [List.foldlM_cons] at hm
    obtain ⟨m₁, hstep, hrest⟩ := bind_eq_ok.1 hm
    obtain ⟨hne, hfresh⟩ := not_or.1 (mt List.mem_cons.2 hfresh)
    obtain ⟨_, rfl⟩ | ⟨first, rest, _, hround⟩ := mergeTarget_cases hstep
    · exact ih hfresh hmerged hempty hrest
    · refine ih hfresh ?_ ?_ hrest
      · rcases hround.result proposals hcatalog with ⟨_, heq⟩ | ⟨_, heq, _⟩
        · rw [heq]
          exact hmerged
        · rw [heq]
          exact List.mem_append_left _ hmerged
      · exact (EmptyAt.congr (hround.readAt_other hcatalog ht (Ne.symm hne))).2 hempty

/-! ## The account -/

/-- every target that is still empty is a gap, an unresolved conflict or rejected, and every merged target has a value -/
structure Accounted (catalog : List TargetSpec) (r : IntakeMergeResult) : Prop where
  empty : ∀ spec ∈ catalog, EmptyAt (.obj r.document) spec.pointer →
    (∃ gap ∈ r.gaps, gap.targetPointer = spec.pointer) ∨
      (∃ c ∈ r.conflicts, c.targetPointer = spec.pointer ∧ c.resolution = "unresolved") ∨
      spec.pointer ∈ r.rejectedProposals
  merged : ∀ t ∈ r.mergedTargets, ¬EmptyAt (.obj r.document) t

theorem gap_of_emptyAt (hcatalog : catalogForProfile profileId = some catalog) {document : Json} {gaps : List IntakeGap}
    (h : catalogGaps (some profileId) proposals document = .ok gaps) {spec : TargetSpec} (hspec : spec ∈ catalog)
    (hnone : spec.pointer ∉ proposals.map IntakeMapProposal.targetPointer) (hempty : EmptyAt document spec.pointer) :
    ∃ gap ∈ gaps, gap.targetPointer = spec.pointer := by
  obtain ⟨found, hfound, h⟩ := bind_eq_ok.1 h
  rw [hcatalog] at hfound
  obtain rfl := Except.ok.inj hfound
  obtain ⟨all, hall, h⟩ := bind_eq_ok.1 h
  obtain rfl := Except.ok.inj h
  obtain ⟨gap?, hgap?, hgap⟩ := exists_mapM_of_mem hall hspec
  rw [catalogGap, if_neg hnone] at hgap
  obtain ⟨current, hcurrent, hgap⟩ := bind_eq_ok.1 hgap
  have hpointer := catalogPointer hcatalog (List.mem_map_of_mem (f := TargetSpec.pointer) hspec)
  have hunfilled := unfilled_of_emptyAt hpointer.ne_empty hcurrent hempty
  rw [if_pos hunfilled] at hgap
  exact ⟨_, List.mem_filterMap.2 ⟨_, hgap?, (Except.ok.inj hgap).symm⟩, rfl⟩

theorem mem_sortedSet {targets : List String} : t ∈ sortedSet targets ↔ t ∈ targets := by
  rw [sortedSet, List.mem_insertionSort, List.mem_dedup]

section

variable {baseDocument baseFieldProvenance : Fields} {steps : List IntakeMapStepResult} {r : IntakeMergeResult}
  {document : Fields} {unfilled : List IntakeGap}

theorem accounted_of_quiet (hcatalog : catalogForProfile profileId = some catalog)
    (h : Merged schemas (some profileId) baseDocument baseFieldProvenance steps r document m unfilled)
    (hquiet : Quiet schemas profileId (sortedProposals steps)
      { document := .obj document, provenance := baseFieldProvenance }) : Accounted catalog r := by
  have hkept : Kept catalog (targetsOf (sortedProposals steps)) m := by
    refine Kept.run hcatalog hquiet (List.nil_append _).symm rfl ⟨?_, ?_, ?_⟩ h.rounds
    all_goals exact fun u hu => absurd hu List.not_mem_nil
  have hreads : ∀ {u}, Listed catalog u → (EmptyAt (.obj r.document) u ↔ EmptyAt m.document u) := fun hu =>
    EmptyAt.congr (h.reads _ (catalogPointer hcatalog hu).extensions)
  constructor
  · intro spec hspec hempty
    have hlisted : Listed catalog spec.pointer := List.mem_map_of_mem hspec
    rw [hreads hlisted] at hempty
    by_cases hproposed : spec.pointer ∈ (sortedProposals steps).map IntakeMapProposal.targetPointer
    · rcases hkept.handled _ (mem_targetsOf.2 hproposed) with (hrejected | ⟨c, hc, hcu⟩) | hmerged
      · refine Or.inr (Or.inr ?_)
        rw [h.rejectedProposals]
        exact mem_sortedSet.2 hrejected
      · refine Or.inr (Or.inl ⟨c, ?_, hcu⟩)
        rw [h.conflicts]
        exact (List.mem_insertionSort _).2 hc
      · exact absurd hempty (hkept.filled _ hmerged)
    · obtain ⟨gap, hgap, hpointer⟩ := gap_of_emptyAt hcatalog h.catalog hspec hproposed hempty
      refine Or.inl ⟨gap, ?_, hpointer⟩
      rw [h.gaps]
      exact List.mem_append_left _ hgap
  · intro u hu
    rw [h.mergedTargets, mem_sortedSet] at hu
    rw [hreads (hkept.merged u hu).1]
    exact hkept.filled u hu

theorem quiet_of_accounted (hcatalog : catalogForProfile profileId = some catalog)
    (h : Merged schemas (some profileId) baseDocument baseFieldProvenance steps r document m unfilled)
    (haccounted : Accounted catalog r) : Quiet schemas profileId (sortedProposals steps)
      { document := .obj document, provenance := baseFieldProvenance } := by
  intro done t later m₀ htargets hreach hnothing
  have hrounds := h.rounds
  rw [mergeTargets, htargets, List.foldlM_append] at hrounds
  obtain ⟨m₀', hreach', hrounds⟩ := bind_eq_ok.1 hrounds
  obtain rfl : m₀ = m₀' := Except.ok.inj (hreach.symm.trans hreach')
  rw [List.foldlM_cons] at hrounds
  obtain ⟨m₁, hstep, hrounds⟩ := bind_eq_ok.1 hrounds
  obtain ⟨ht, hmerged, hempty⟩ := empty_of_fillsNothing hcatalog hnothing hstep
  have hnodup := htargets ▸ targetsOf_nodup (sortedProposals steps)
  have hfresh : t ∉ later := (List.nodup_cons.1 (List.nodup_append.1 hnodup).2.1).1
  obtain ⟨hmerged, hempty⟩ := empty_run hcatalog ht hfresh hmerged hempty hrounds
  refine haccounted.merged t ?_ ?_
  · rw [h.mergedTargets]
    exact mem_sortedSet.2 hmerged
  · exact (EmptyAt.congr (h.reads _ (catalogPointer hcatalog ht).extensions)).2 hempty

end

/-- no round of the steps fills its target with nothing -/
def QuietSteps (schemas : Schemas) (profileId : String) (baseDocument baseFieldProvenance : Fields)
    (steps : List MapStep) : Prop :=
  ∀ validated document, validatedSteps schemas steps = .ok validated → withExtensions baseDocument = .ok document →
    Quiet schemas profileId (sortedProposals validated) { document := .obj document, provenance := baseFieldProvenance }

/-- a result accounts for the targets of its profile exactly when no round has filled an empty target with nothing -/
theorem targets_accounted_iff {schemas : Schemas} {profileId : String} {baseDocument baseFieldProvenance : Fields}
    {systemDisplayName : String} {steps : List MapStep} {catalog : List TargetSpec} {r : IntakeMergeResult}
    (hcatalog : catalogForProfile profileId = some catalog)
    (h : reduceIntakeMapResults schemas (some profileId) baseDocument baseFieldProvenance systemDisplayName steps = .ok r) :
    Accounted catalog r ↔ QuietSteps schemas profileId baseDocument baseFieldProvenance steps := by
  obtain ⟨validated, hvalidated, h⟩ := bind_eq_ok.1 h
  obtain ⟨document, m, unfilled, hmerged⟩ := merged_of_reduceSteps h
  constructor
  · intro haccounted validated' document' hvalidated' hdocument'
    obtain rfl : validated = validated' := Except.ok.inj (hvalidated.symm.trans hvalidated')
    obtain rfl : document = document' := Except.ok.inj (hmerged.extended.symm.trans hdocument')
    exact quiet_of_accounted hcatalog hmerged haccounted
  · intro hquiet
    exact accounted_of_quiet hcatalog hmerged (hquiet validated document hvalidated hmerged.extended)

/-- a proposal for a target, from the step with a key -/
def proposalFor (targetPointer : String) (proposedValue : Json) (stepKey : String) : IntakeMapProposal where
  targetPointer := targetPointer
  proposedValue := proposedValue
  evidenceKind := "direct_evidence"
  sourceArtifactId := Uuid.ofNat 0x33333333333343338333333333333333
  sourceSha256 := String.ofList (List.replicate 64 'a')
  sourceLocator := [("kind", .str "chunk"), ("chunk_id", .str "chunk-0")]
  modelStepId := Uuid.ofNat 0x44444444444444448444444444444444
  confidence := "high"
  chunkId := some "chunk-0"
  segmentIndex := none
  stepKey := stepKey

def reduceNull : Except ReduceError IntakeMergeResult :=
  reduceIntakeMapResults acceptingSchemas (some "fisma_agency_security") emptyDraft [] "Demo System"
    [.result ⟨"intake_map_000", true, [proposalFor "/package/reporting_period" .null "intake_map_000"]⟩]

/-- a null for the empty reporting period is merged: the target stays empty, and is reported nowhere -/
theorem null_merged : ∃ r, reduceNull = .ok r ∧ r.mergedTargets = ["/package/reporting_period"] ∧
    EmptyAt (.obj r.document) "/package/reporting_period" ∧
    "/package/reporting_period" ∉ r.gaps.map IntakeGap.targetPointer ∧ r.conflicts.length = 0 ∧
    r.rejectedProposals = [] :=
  ⟨_, rfl, by decide, rfl, by decide, by decide, by decide⟩

/-- two steps that disagree on the mission, one of which names a target that the catalog does not have -/
def disagreeingSteps : List MapStep :=
  [.result ⟨"intake_map_000", true, [proposalFor "/system/mission_summary" (.str "Payroll.") "intake_map_000"]⟩,
    .result ⟨"intake_map_001", true, [proposalFor "/system/mission_summary" (.str "Billing.") "intake_map_001",
      proposalFor "/system/colour" (.str "Red.") "intake_map_001"]⟩]

/-- the mission is a conflict and the other proposal is rejected: the equivalence at an accepted input -/
theorem targets_accounted_mission : ∃ r,
    reduceIntakeMapResults acceptingSchemas (some "fisma_agency_security") emptyDraft [] "Demo System" disagreeingSteps = .ok r ∧
      r.conflicts.length = 1 ∧ r.rejectedProposals.length = 1 ∧
      (Accounted fismaTargets r ↔ QuietSteps acceptingSchemas "fisma_agency_security" emptyDraft [] disagreeingSteps) :=
  ⟨_, rfl, by decide, by decide, targets_accounted_iff rfl rfl⟩

end AtoService.IntakeMerge
