/-
The rounds of REDUCE: what one round of the loop over the targets does, and what every round leaves alone.

`Round` lists what a round can do with a group. With a profile only targets of its catalog are merged, and these are apart
from each other and from the extensions (`catalog_apart`), so that a round changes the value of its own target only
(`Round.readAt_other`).
-/
import AtoService.Intake.Reduce

namespace AtoService.IntakeMerge

open Json Results
open AtoService.Drafts (Fields isUnfilled Same)

/-! ## Catalogs -/

/-- what is true of every pointer of a catalog -/
structure CatalogPointer (pointer : String) : Prop where
  ne_empty : pointer ≠ ""
  parts_ne : pointerParts pointer ≠ []
  names : ∀ part ∈ pointerParts pointer, partInt part = none
  extensions : Unrelated ["extensions"] (pointerParts pointer)

theorem mem_of_lookup {α : Type} {k : String} {v : α} {xs : List (String × α)} (h : xs.lookup k = some v) : ∃ p ∈ xs, p.2 = v := by
  induction xs with
  | nil => cases h
  | cons p ps ih =>
    rw [List.lookup_cons] at h
    split at h
    · exact ⟨p, List.mem_cons_self, Option.some.inj h⟩
    · obtain ⟨q, hq, hv⟩ := ih h
      exact ⟨q, List.mem_cons_of_mem _ hq, hv⟩

variable {profileId : String} {catalog : List TargetSpec}

theorem catalog_cases (h : catalogForProfile profileId = some catalog) :
    catalog = fismaTargets ∨ catalog = fedramp20xTargets := by
  obtain ⟨p, hp, rfl⟩ := mem_of_lookup h
  simp only [List.mem_cons, List.not_mem_nil, or_false] at hp
  rcases hp with rfl | rfl | rfl
  · exact Or.inl rfl
  · exact Or.inr rfl
  · exact Or.inr rfl

theorem fedramp20x_subset : ∀ spec ∈ fedramp20xTargets, spec ∈ fismaTargets := by decide

theorem catalog_subset (h : catalogForProfile profileId = some catalog) : ∀ spec ∈ catalog, spec ∈ fismaTargets := by
  rcases catalog_cases h with rfl | rfl
  · exact fun spec hspec => hspec
  · exact fedramp20x_subset

theorem fisma_pointer : ∀ spec ∈ fismaTargets, spec.pointer ≠ "" ∧ pointerParts spec.pointer ≠ [] ∧
    (∀ part ∈ pointerParts spec.pointer, partInt part = none) ∧
    Unrelated ["extensions"] (pointerParts spec.pointer) := by decide

theorem fisma_apart : ∀ spec ∈ fismaTargets, ∀ spec' ∈ fismaTargets,
    spec.pointer = spec'.pointer ∨ Unrelated (pointerParts spec.pointer) (pointerParts spec'.pointer) := by decide

/-- a pointer of the catalog of the profile -/
def Listed (catalog : List TargetSpec) (pointer : String) : Prop := pointer ∈ catalog.map TargetSpec.pointer

theorem catalogPointer (h : catalogForProfile profileId = some catalog) {t : String} (ht : Listed catalog t) :
    CatalogPointer t := by
  obtain ⟨spec, hspec, rfl⟩ := List.mem_map.1 ht
  obtain ⟨hne, hparts, hnames, hextensions⟩ := fisma_pointer spec (catalog_subset h spec hspec)
  exact ⟨hne, hparts, hnames, hextensions⟩

theorem catalog_apart (h : catalogForProfile profileId = some catalog) {t u : String} (ht : Listed catalog t)
    (hu : Listed catalog u) (hne : t ≠ u) : Unrelated (pointerParts t) (pointerParts u) := by
  obtain ⟨spec, hspec, rfl⟩ := List.mem_map.1 ht
  obtain ⟨spec', hspec', rfl⟩ := List.mem_map.1 hu
  exact (fisma_apart spec (catalog_subset h spec hspec) spec' (catalog_subset h spec' hspec')).resolve_left hne

theorem listed_of_allowed {t : String} (h : isTargetAllowed catalog t = true) : Listed catalog t := by
  have hspec := (Bool.and_eq_true_iff.1 h).2
  obtain ⟨spec, hfind⟩ := Option.isSome_iff_exists.1 hspec
  have hpointer : decide (spec.pointer = t) = true := List.find?_some (p := fun spec : TargetSpec => spec.pointer = t) hfind
  exact List.mem_map.2 ⟨spec, List.mem_of_find?_eq_some hfind, of_decide_eq_true hpointer⟩

/-! ## Rounds -/

section

variable (schemas : Schemas) (profileId : Option String) (m : Merging) (t : String) (first : IntakeMapProposal)
  (entries : List IntakeMapProposal)

/-- every proposal of the group has the value of the first -/
def Agree : Prop := ∀ entry ∈ entries, valueText entry = valueText first

/-- what a round does with the group of a target -/
inductive Round : Merging → Prop where
  | rejected : admitted schemas profileId t first.proposedValue m.document = .ok false → Round (m.reject t)
  | disagreeing : admitted schemas profileId t first.proposedValue m.document = .ok true → ¬Agree first entries →
      Round (m.conflict (disagreeing t entries))
  | filled {existing : Option Json} {document : Json} :
      admitted schemas profileId t first.proposedValue m.document = .ok true → Agree first entries →
      currentValue m.document t = .ok existing → isUnfilled existing = true →
      setJsonPointer m.document t first.proposedValue = .ok document →
      Round { m.recordSources t entries with
        document := document, detached := m.detached || pointerParts t = ["extensions"] }
  | contradicted {value : Json} :
      admitted schemas profileId t first.proposedValue m.document = .ok true → Agree first entries →
      currentValue m.document t = .ok (some value) → isUnfilled (some value) = false → ¬Same value first.proposedValue →
      Round (m.conflict (disagreeingWithBase t entries value (member t m.provenance)))
  | confirmed {value : Json} :
      admitted schemas profileId t first.proposedValue m.document = .ok true → Agree first entries →
      currentValue m.document t = .ok (some value) → isUnfilled (some value) = false → Same value first.proposedValue →
      Round (m.recordSources t entries)

end

variable {schemas : Schemas} {m m' : Merging} {t : String} {first : IntakeMapProposal}
  {entries proposals : List IntakeMapProposal}

theorem round_of_merge {profileId : Option String}
    (h : mergeTargetGroup schemas profileId m t first entries = .ok m') : Round schemas profileId m t first entries m' := by
  obtain ⟨allowed, hallowed, h⟩ := bind_eq_ok.1 h
  cases allowed with
  | false =>
    obtain rfl := Except.ok.inj h
    exact .rejected hallowed
  | true =>
    rw [if_neg (by decide)] at h
    by_cases hagree : ∀ entry ∈ entries, valueText entry = valueText first
    · rw [if_neg (not_not.2 hagree)] at h
      obtain ⟨existing, hexisting, h⟩ := bind_eq_ok.1 h
      cases hunfilled : isUnfilled existing with
      | true =>
        rw [if_pos hunfilled] at h
        obtain ⟨document, hset, h⟩ := bind_eq_ok.1 h
        obtain rfl := Except.ok.inj h
        exact .filled hallowed hagree hexisting hunfilled hset
      | false =>
        rw [if_neg (by rw [hunfilled]; decide)] at h
        cases existing with
        | none => cases hunfilled
        | some value =>
          by_cases hsame : Same value first.proposedValue
          · rw [if_neg (by simpa using hsame)] at h
            obtain rfl := Except.ok.inj h
            exact .confirmed hallowed hagree hexisting hunfilled hsame
          · rw [if_pos ⟨value, rfl, hsame⟩] at h
            obtain rfl := Except.ok.inj h
            exact .contradicted hallowed hagree hexisting hunfilled hsame
    · rw [if_pos hagree] at h
      obtain rfl := Except.ok.inj h
      exact .disagreeing hallowed hagree

theorem mergeTarget_cases {profileId : Option String} (h : mergeTarget schemas profileId proposals m t = .ok m') :
    entriesFor proposals t = [] ∧ m' = m ∨
      ∃ first rest, entriesFor proposals t = first :: rest ∧ Round schemas profileId m t first (first :: rest) m' := by
  unfold mergeTarget at h
  split at h
  · next hnone => exact Or.inl ⟨hnone, (Except.ok.inj h).symm⟩
  · next first rest hentries => exact Or.inr ⟨first, rest, hentries, round_of_merge h⟩

theorem listed_of_admitted (hcatalog : catalogForProfile profileId = some catalog) {value document : Json}
    (h : admitted schemas (some profileId) t value document = .ok true) : Listed catalog t := by
  obtain ⟨found, hfound, h⟩ := bind_eq_ok.1 h
  rw [hcatalog] at hfound
  obtain rfl := Except.ok.inj hfound
  have hallowed := Except.ok.inj h
  exact listed_of_allowed (Bool.and_eq_true_iff.1 hallowed).1

/-! ## What the sources become -/

@[simp] theorem recordSources_document (m : Merging) (t : String) (entries : List IntakeMapProposal) :
    (m.recordSources t entries).document = m.document := by
  unfold Merging.recordSources
  split <;> rfl

@[simp] theorem recordSources_conflicts (m : Merging) (t : String) (entries : List IntakeMapProposal) :
    (m.recordSources t entries).conflicts = m.conflicts := by
  unfold Merging.recordSources
  split <;> rfl

@[simp] theorem recordSources_rejected (m : Merging) (t : String) (entries : List IntakeMapProposal) :
    (m.recordSources t entries).rejectedProposals = m.rejectedProposals := by
  unfold Merging.recordSources
  split <;> rfl

/-- a group has a primary source, and the others supplement it -/
theorem exists_primary (first : IntakeMapProposal) (rest : List IntakeMapProposal) :
    ∃ primary supplements, selectPrimaryProvenance ((first :: rest).map provenanceFromProposal) =
        some (primary, supplements) ∧
      (primary :: supplements).Perm ((first :: rest).map provenanceFromProposal) := by
  have hperm : (byKey provenanceSortKey ((first :: rest).map provenanceFromProposal)).Perm
      ((first :: rest).map provenanceFromProposal) := List.perm_insertionSort _ _
  unfold selectPrimaryProvenance
  cases hsorted : byKey provenanceSortKey ((first :: rest).map provenanceFromProposal) with
  | nil =>
    rw [hsorted] at hperm
    exact absurd hperm.nil_eq.symm (List.cons_ne_nil _ _)
  | cons primary supplements => exact ⟨primary, supplements, rfl, hsorted ▸ hperm⟩

theorem recordSources_merged (m : Merging) (t : String) (first : IntakeMapProposal) (rest : List IntakeMapProposal) :
    (m.recordSources t (first :: rest)).mergedTargets = m.mergedTargets ++ [t] := by
  obtain ⟨primary, supplements, hselect, _⟩ := exists_primary first rest
  rw [Merging.recordSources, hselect]

/-! ## What follows the rounds -/

theorem readAt_congr_member {fs fs' : Fields} {q : List String} (hq : Unrelated ["extensions"] q)
    (h : ∀ k, k ≠ "extensions" → member k fs' = member k fs) : readAt q (.obj fs') = readAt q (.obj fs) := by
  cases q with
  | nil => exact absurd rfl hq.symm.ne_nil
  | cons k ks =>
    have hk : k ≠ "extensions" := by
      rintro rfl
      exact hq.1 (List.cons_prefix_cons.2 ⟨rfl, List.nil_prefix⟩)
    rw [readAt, readAt, h k hk]

theorem member_writeExtensions (detached : Bool) (written document : Fields) {k : String} (hk : k ≠ "extensions") :
    member k (writeExtensions detached written document) = member k document := by
  unfold writeExtensions
  split
  · rw [member_putMember, if_neg (Ne.symm hk)]
  · rfl

theorem member_withExtensions {document document' : Fields} (h : withExtensions document = .ok document') {k : String}
    (hk : k ≠ "extensions") : member k document' = member k document := by
  unfold withExtensions at h
  split at h
  · obtain rfl := Except.ok.inj h
    rw [member, member, KeyedList.get?, KeyedList.get?, List.find?_append]
    simp [Ne.symm hk]
  · obtain rfl := Except.ok.inj h
    rfl
  · cases h

/-- a merge that goes through: the state after the rounds, and what the result takes from it -/
structure Merged (schemas : Schemas) (profileId : Option String) (baseDocument baseFieldProvenance : Fields)
    (steps : List IntakeMapStepResult) (r : IntakeMergeResult) (document : Fields) (m : Merging)
    (unfilled : List IntakeGap) : Prop where
  extended : withExtensions baseDocument = .ok document
  rounds : mergeTargets schemas profileId (sortedProposals steps)
    { document := .obj document, provenance := baseFieldProvenance } = .ok m
  catalog : catalogGaps profileId (sortedProposals steps) m.document = .ok unfilled
  gaps : r.gaps = unfilled ++ contextGaps steps
  conflicts : r.conflicts = sortedConflicts m.conflicts
  provenance : r.fieldProvenance = m.provenance
  mergedTargets : r.mergedTargets = sortedSet m.mergedTargets
  rejectedProposals : r.rejectedProposals = sortedSet m.rejectedProposals
  reads : ∀ q, Unrelated ["extensions"] q → readAt q (.obj r.document) = readAt q m.document
  document : ∃ (merged : Fields) (proposal : Option Json), m.document = .obj merged ∧
    r.document = writeExtensions m.detached (proposal.map fun p => ("system_context_proposal", p)).toList
      (writeExtensions m.detached (intakeExtensions m r.gaps r.contextComplete) merged)

theorem merged_of_reduceSteps {profileId : Option String} {baseDocument baseFieldProvenance : Fields}
    {systemDisplayName : String} {steps : List IntakeMapStepResult} {r : IntakeMergeResult}
    (h : reduceSteps schemas profileId baseDocument baseFieldProvenance systemDisplayName steps = .ok r) :
    ∃ document m unfilled, Merged schemas profileId baseDocument baseFieldProvenance steps r document m unfilled := by
  obtain ⟨document, hdocument, h⟩ := bind_eq_ok.1 h
  obtain ⟨m, hm, h⟩ := bind_eq_ok.1 h
  obtain ⟨unfilled, hunfilled, h⟩ := bind_eq_ok.1 h
  obtain ⟨merged, hmerged, h⟩ := bind_eq_ok.1 h
  obtain ⟨_, _, h⟩ := bind_eq_ok.1 h
  obtain rfl := Except.ok.inj h
  have hobject : m.document = .obj merged := by
    cases hdoc : m.document with
    | obj fs =>
      rw [hdoc] at hmerged
      rw [← Option.some.inj (orRaise_eq_ok.1 hmerged)]
    | _ =>
      rw [hdoc] at hmerged
      cases hmerged
  refine ⟨document, m, unfilled, hdocument, hm, hunfilled, rfl, rfl, rfl, rfl, rfl, fun q hq => ?_,
    merged, _, hobject, rfl⟩
  rw [hobject]
  refine readAt_congr_member hq fun k hk => ?_
  rw [member_writeExtensions _ _ _ hk, member_writeExtensions _ _ _ hk]

end AtoService.IntakeMerge
