/-
What REDUCE leaves alone, and what becomes of every source.

- `readAt_writeAt_nonempty`: setting a value where there is none keeps every value that is not empty.
- `round_untouched`, `run_untouched`: the rounds of other targets change nothing of a target.
- `target_history`: what happened to a target between the base and the result is its own round.
- `reduce_keeps`: what a result keeps of the base, what it changes, and where it says so.
Witness `reduce_replaces_rejects_changes`: a proposal of the value that the base has replaces the provenance of the base.
-/
import AtoService.Intake.ReduceTargets

namespace AtoService.IntakeMerge

open Json Results
open AtoService.Drafts (Fields isUnfilled Same)

/-! ## Values that are not empty -/

theorem readAt_append (p q : List String) (v : Json) :
    readAt (p ++ q) v = (do let w ← readAt p v; readAt q w) := by
  induction p generalizing v with
  | nil => rfl
  | cons k ks ih =>
    cases v with
    | obj fs =>
      rw [List.cons_append, readAt, readAt]
      cases member k fs with
      | none => rfl
      | some u => exact ih u
    | arr xs =>
      rw [List.cons_append, readAt, readAt]
      cases entryPlace k xs with
      | error e => rfl
      | ok i =>
        change (do let u ← orRaise xs[i]? PointerError.missing; readAt (ks ++ q) u) =
          (do let w ← (do let u ← orRaise xs[i]? PointerError.missing; readAt ks u); readAt q w)
        cases xs[i]? with
        | none => rfl
        | some u => exact ih u
    | _ => rfl

/-- a path that meets objects only leads to an object, before its last part -/
theorem object_of_through {p : List String} {k : String} {ks : List String} {v w : Json}
    (h : Through (p ++ k :: ks) v) (hw : readAt p v = .ok w) (hnull : w ≠ .null) : ∃ fs, w = .obj fs := by
  induction p generalizing v with
  | nil =>
    obtain rfl := Except.ok.inj hw
    cases v with
    | obj fs => exact ⟨fs, rfl⟩
    | _ => exact h.elim
  | cons j js ih =>
    cases v with
    | obj fs =>
      rw [readAt] at hw
      obtain ⟨u, hu, hw⟩ := bind_eq_ok.1 hw
      have hmember := orRaise_eq_ok.1 hu
      have hne : u ≠ .null := by
        rintro rfl
        cases js with
        | nil => exact hnull (Except.ok.inj hw).symm
        | cons _ _ => cases hw
      exact ih (h u hmember hne (by simp)) hw
    | _ => exact h.elim

def isObject : Json → Bool
  | .obj _ => true
  | _ => false

theorem readAt_unfilled {q : List String} {v w : Json} (hv : isUnfilled (some v) = true) (h : readAt q v = .ok w) :
    q = [] ∧ w = v := by
  cases q with
  | nil => exact ⟨rfl, (Except.ok.inj h).symm⟩
  | cons k ks =>
    cases v with
    | obj fs =>
      have hnil : fs = [] := List.isEmpty_iff.1 hv
      rw [hnil] at h
      cases h
    | arr xs =>
      have hnil : xs = [] := List.isEmpty_iff.1 hv
      rw [hnil, readAt] at h
      obtain ⟨i, hi, _⟩ := bind_eq_ok.1 h
      exact absurd (entryPlace_lt hi) (Nat.not_lt_zero i)
    | _ => cases h

/-- a value that is set in place of none, or of an empty one, replaces no other value that is not empty -/
theorem readAt_writeAt_nonempty {new : Json} {p q : List String} {v v' w : Json} (hp : Through p v)
    (hempty : ∀ u, readAt p v = .ok u → isUnfilled (some u) = true) (h : writeAt new p v = .ok v')
    (hq : readAt q v = .ok w) (hfilled : isUnfilled (some w) = false) (hobject : isObject w = false) :
    readAt q v' = .ok w := by
  by_cases hpq : p <+: q
  · -- below an empty value there is none
    obtain ⟨s, rfl⟩ := hpq
    rw [readAt_append] at hq
    obtain ⟨u, hu, hw⟩ := bind_eq_ok.1 hq
    obtain ⟨_, rfl⟩ := readAt_unfilled (hempty u hu) hw
    rw [hempty w hu] at hfilled
    cases hfilled
  · by_cases hqp : q <+: p
    · -- above the place that is set there are objects
      obtain ⟨s, rfl⟩ := hqp
      cases s with
      | nil => exact absurd (by simp) hpq
      | cons k ks =>
        have hnull : w ≠ .null := by
          rintro rfl
          cases hfilled
        obtain ⟨fs, rfl⟩ := object_of_through hp hq hnull
        cases hobject
    · rw [readAt_writeAt_of_unrelated ⟨hpq, hqp⟩ hp h]
      exact hq

/-! ## What the rounds of other targets leave alone -/

variable {profileId : String} {catalog : List TargetSpec} {schemas : Schemas} {m m' : Merging} {t u : String}
  {first : IntakeMapProposal} {entries proposals : List IntakeMapProposal}

/-- nothing of the target has changed -/
structure Untouched (catalog : List TargetSpec) (u : String) (m m' : Merging) : Prop where
  reads : Listed catalog u → readAt (pointerParts u) m'.document = readAt (pointerParts u) m.document
  provenance : member u m'.provenance = member u m.provenance
  supplements : KeyedList.get? Prod.fst u m'.supplements = KeyedList.get? Prod.fst u m.supplements
  conflicts : ∀ c ∈ m.conflicts, c ∈ m'.conflicts
  merged : u ∈ m'.mergedTargets ↔ u ∈ m.mergedTargets
  rejected : u ∈ m'.rejectedProposals ↔ u ∈ m.rejectedProposals

theorem Untouched.refl (catalog : List TargetSpec) (u : String) (m : Merging) : Untouched catalog u m m :=
  ⟨fun _ => rfl, rfl, rfl, fun _ hc => hc, Iff.rfl, Iff.rfl⟩

theorem Untouched.trans {m'' : Merging} (h : Untouched catalog u m m') (h' : Untouched catalog u m' m'') :
    Untouched catalog u m m'' where
  reads hu := (h'.reads hu).trans (h.reads hu)
  provenance := h'.provenance.trans h.provenance
  supplements := h'.supplements.trans h.supplements
  conflicts c hc := h'.conflicts c (h.conflicts c hc)
  merged := h'.merged.trans h.merged
  rejected := h'.rejected.trans h.rejected

theorem untouched_conflict (u : String) (c : IntakeFieldConflict) : Untouched catalog u m (m.conflict c) :=
  ⟨fun _ => rfl, rfl, rfl, fun _ hc => List.mem_append_left _ hc, Iff.rfl, Iff.rfl⟩

theorem untouched_recordSources (hne : t ≠ u) : Untouched catalog u m (m.recordSources t entries) := by
  unfold Merging.recordSources
  split
  · exact Untouched.refl catalog u m
  · refine ⟨fun _ => rfl, ?_, ?_, fun _ hc => hc, ?_, Iff.rfl⟩
    · rw [member_putMember, if_neg hne]
    · dsimp only
      split
      · rfl
      · rw [KeyedList.get?_put, if_neg hne]
    · simp [Ne.symm hne]

theorem round_untouched (hcatalog : catalogForProfile profileId = some catalog)
    (h : Round schemas (some profileId) m t first entries m') (hne : t ≠ u) : Untouched catalog u m m' := by
  have hreads := fun hu => h.readAt_other hcatalog (u := u) hu hne
  cases h with
  | rejected _ =>
    refine ⟨hreads, rfl, rfl, fun _ hc => hc, Iff.rfl, ?_⟩
    simp [Merging.reject, Ne.symm hne]
  | disagreeing _ _ => exact untouched_conflict u _
  | contradicted _ _ _ _ _ => exact untouched_conflict u _
  | confirmed _ _ _ _ _ => exact untouched_recordSources hne
  | filled _ _ _ _ _ =>
    have huntouched : Untouched catalog u m (m.recordSources t entries) := untouched_recordSources hne
    obtain ⟨_, hprovenance, hsupplements, hconflicts, hmerged, hrejected⟩ := huntouched
    exact ⟨hreads, hprovenance, hsupplements, hconflicts, hmerged, hrejected⟩

theorem run_untouched (hcatalog : catalogForProfile profileId = some catalog) {targets : List String} (hfresh : u ∉ targets)
    (h : targets.foldlM (mergeTarget schemas (some profileId) proposals) m = .ok m') : Untouched catalog u m m' := by
  induction targets generalizing m with
  | nil =>
    obtain rfl := Except.ok.inj h
    exact Untouched.refl catalog u m
  | cons t targets ih =>
    rw [List.foldlM_cons] at h
    obtain ⟨m₁, hstep, hrest⟩ := bind_eq_ok.1 h
    obtain ⟨hne, hfresh⟩ := not_or.1 (mt List.mem_cons.2 hfresh)
    obtain ⟨_, rfl⟩ | ⟨first, rest, _, hround⟩ := mergeTarget_cases hstep
    · exact ih hfresh hrest
    · exact (round_untouched hcatalog hround (Ne.symm hne)).trans (ih hfresh hrest)

/-- the history of a target with proposals: nothing, its own round, and nothing -/
theorem target_history (hcatalog : catalogForProfile profileId = some catalog) {base : Merging}
    (h : mergeTargets schemas (some profileId) proposals base = .ok m) (hu : u ∈ targetsOf proposals) :
    ∃ m₀ m₁ first rest, entriesFor proposals u = first :: rest ∧ Untouched catalog u base m₀ ∧
      Round schemas (some profileId) m₀ u first (first :: rest) m₁ ∧ Untouched catalog u m₁ m := by
  obtain ⟨done, later, htargets⟩ := List.append_of_mem hu
  have hnodup := htargets ▸ targetsOf_nodup proposals
  obtain ⟨_, hlater, hdisjoint⟩ := List.nodup_append.1 hnodup
  rw [mergeTargets, htargets, List.foldlM_append] at h
  obtain ⟨m₀, hdone, h⟩ := bind_eq_ok.1 h
  rw [List.foldlM_cons] at h
  obtain ⟨m₁, hstep, h⟩ := bind_eq_ok.1 h
  have hbefore := run_untouched hcatalog (fun hmem => hdisjoint u hmem u List.mem_cons_self rfl) hdone
  have hafter := run_untouched hcatalog (List.nodup_cons.1 hlater).1 h
  obtain ⟨hnone, _⟩ | ⟨first, rest, hentries, hround⟩ := mergeTarget_cases hstep
  · exact absurd hnone (entriesFor_ne_nil hu)
  · exact ⟨m₀, m₁, first, rest, hentries, hbefore, hround, hafter⟩

/-! ## What the rounds leave of the base -/

/-- what a round sets, it sets under objects, in place of nothing -/
theorem Round.readAt_nonempty (hcatalog : catalogForProfile profileId = some catalog)
    (h : Round schemas (some profileId) m t first entries m') {q : List String} {w : Json}
    (hq : readAt q m.document = .ok w) (hfilled : isUnfilled (some w) = false) (hobject : isObject w = false) :
    readAt q m'.document = .ok w := by
  cases h with
  | rejected _ => exact hq
  | disagreeing _ _ => exact hq
  | contradicted _ _ _ _ _ => exact hq
  | confirmed _ _ _ _ _ =>
    rw [recordSources_document]
    exact hq
  | @filled existing document hadmitted _ hcurrent hunfilled hset =>
    have hpointer := catalogPointer hcatalog (listed_of_admitted hcatalog hadmitted)
    have hwrite := writeAt_of_set hset
    refine readAt_writeAt_nonempty (through_of_writeAt hpointer.names hwrite) (fun u hu => ?_) hwrite hq hfilled hobject
    rw [currentValue, if_neg hpointer.ne_empty, hu] at hcurrent
    rw [Except.ok.inj hcurrent, hunfilled]

/-- a path that is apart from the catalog reads the same -/
theorem Round.readAt_elsewhere (hcatalog : catalogForProfile profileId = some catalog)
    (h : Round schemas (some profileId) m t first entries m') {q : List String}
    (hq : ∀ u, Listed catalog u → Unrelated (pointerParts u) q) : readAt q m'.document = readAt q m.document := by
  cases h with
  | rejected _ => rfl
  | disagreeing _ _ => rfl
  | contradicted _ _ _ _ _ => rfl
  | confirmed _ _ _ _ _ => rw [recordSources_document]
  | filled hadmitted _ _ _ hset =>
    have ht := listed_of_admitted hcatalog hadmitted
    have hwrite := writeAt_of_set hset
    exact readAt_writeAt_of_unrelated (hq t ht) (through_of_writeAt (catalogPointer hcatalog ht).names hwrite) hwrite

/-- no target of the catalog replaces the extensions -/
theorem Round.detached (hcatalog : catalogForProfile profileId = some catalog)
    (h : Round schemas (some profileId) m t first entries m') : m'.detached = m.detached := by
  cases h with
  | rejected _ => rfl
  | disagreeing _ _ => rfl
  | contradicted _ _ _ _ _ => rfl
  | confirmed _ _ _ _ _ =>
    unfold Merging.recordSources
    split <;> rfl
  | filled hadmitted _ _ _ _ =>
    have hextensions := (catalogPointer hcatalog (listed_of_admitted hcatalog hadmitted)).extensions
    have hne : pointerParts t ≠ ["extensions"] := fun heq => hextensions.1 (heq ▸ List.prefix_rfl)
    change (m.detached || decide (pointerParts t = ["extensions"])) = m.detached
    rw [decide_eq_false hne, Bool.or_false]

theorem Round.distinct {profile : Option String} (h : Round schemas profile m t first entries m')
    (hd : KeyedList.Distinct Prod.fst m.supplements) : KeyedList.Distinct Prod.fst m'.supplements := by
  have hrecord : KeyedList.Distinct Prod.fst (m.recordSources t entries).supplements := by
    unfold Merging.recordSources
    split
    · exact hd
    · dsimp only
      split
      · exact hd
      · exact KeyedList.distinct_put hd
  cases h with
  | rejected _ => exact hd
  | disagreeing _ _ => exact hd
  | contradicted _ _ _ _ _ => exact hd
  | confirmed _ _ _ _ _ => exact hrecord
  | filled _ _ _ _ _ => exact hrecord

/-- what holds of a state, and is kept by every round, holds after all of them -/
theorem run_induction {targets : List String} {P : Merging → Prop}
    (hround : ∀ m m' t first entries, Round schemas (some profileId) m t first entries m' → P m → P m')
    (h : targets.foldlM (mergeTarget schemas (some profileId) proposals) m = .ok m') (hm : P m) : P m' := by
  induction targets generalizing m with
  | nil =>
    obtain rfl := Except.ok.inj h
    exact hm
  | cons t targets ih =>
    rw [List.foldlM_cons] at h
    obtain ⟨m₁, hstep, hrest⟩ := bind_eq_ok.1 h
    obtain ⟨_, rfl⟩ | ⟨first, rest, _, hr⟩ := mergeTarget_cases hstep
    · exact ih hrest hm
    · exact ih hrest (hround _ _ _ _ _ hr hm)

/-! ## The recorded supplements -/

/-- what the document records in its extensions as supplements of a target -/
def recordedSupplements (document : Fields) (t : String) : Option Json := do
  let extensions ← (member "extensions" document).bind asObj
  let supplements ← (member "intake_provenance_supplements" extensions).bind asObj
  member t supplements

theorem member_update_of_mem {k : String} {v : Json} {xs ys : Fields} (hd : KeyedList.Distinct Prod.fst ys)
    (h : (k, v) ∈ ys) : member k (KeyedList.update Prod.fst xs ys) = some v := by
  have hget : KeyedList.get? Prod.fst k (KeyedList.update Prod.fst xs ys) = some (k, v) :=
    KeyedList.get?_update_of_mem hd h
  rw [member, hget]
  rfl

theorem member_update_of_notMem {k : String} {xs ys : Fields} (h : ∀ y ∈ ys, y.1 ≠ k) :
    member k (KeyedList.update Prod.fst xs ys) = member k xs := by
  rw [member, member, KeyedList.get?_update_of_notMem h]

theorem writeExtensions_attached {written document extensions : Fields}
    (h : member "extensions" document = some (.obj extensions)) :
    writeExtensions false written document =
      putMember "extensions" (.obj (KeyedList.update Prod.fst extensions written)) document := by
  unfold writeExtensions
  rw [h]

/-- the supplements of a target are found in the extensions that the merge has written -/
theorem recordedSupplements_written {merged extensions : Fields} {gaps : List IntakeGap} {contextComplete : Bool}
    {proposal : Option Json} {supplements : List Fields}
    (hextensions : member "extensions" merged = some (.obj extensions))
    (hd : KeyedList.Distinct Prod.fst m.supplements)
    (hget : KeyedList.get? Prod.fst t m.supplements = some (t, supplements)) :
    recordedSupplements (writeExtensions false (proposal.map fun p => ("system_context_proposal", p)).toList
      (writeExtensions false (intakeExtensions m gaps contextComplete) merged)) t =
        some (.arr (supplements.map Json.obj)) := by
  let entry := fun p : String × List Fields => (p.1, Json.arr (p.2.map Json.obj))
  have hmem := KeyedList.mem_of_get? hget
  have hwritten : ("intake_provenance_supplements", Json.obj ((KeyedList.sorted Prod.fst m.supplements).map entry)) ∈
      intakeExtensions m gaps contextComplete := by
    refine List.mem_append_right _ ?_
    rw [if_neg (by rw [List.isEmpty_iff]; exact List.ne_nil_of_mem hmem)]
    exact List.mem_singleton.2 rfl
  have hkeys : KeyedList.Distinct Prod.fst (intakeExtensions m gaps contextComplete) := by
    unfold intakeExtensions KeyedList.Distinct
    split <;> simp
  have hfirst : member "intake_provenance_supplements"
      (KeyedList.update Prod.fst extensions (intakeExtensions m gaps contextComplete)) =
        some (.obj ((KeyedList.sorted Prod.fst m.supplements).map entry)) := member_update_of_mem hkeys hwritten
  rw [writeExtensions_attached hextensions,
    writeExtensions_attached (by rw [member_putMember, if_pos rfl]), recordedSupplements, member_putMember, if_pos rfl]
  have hother : ∀ p ∈ (proposal.map fun p => ("system_context_proposal", p)).toList,
      p.1 ≠ "intake_provenance_supplements" := by
    intro p hp
    cases proposal with
    | none => cases hp
    | some q =>
      obtain rfl := List.mem_singleton.1 hp
      simp
  change (((member "intake_provenance_supplements" (KeyedList.update Prod.fst _ _)).bind asObj).bind (member t)) = _
  rw [member_update_of_notMem hother, hfirst]
  change member t ((KeyedList.sorted Prod.fst m.supplements).map entry) = _
  have hmap : KeyedList.get? Prod.fst t ((KeyedList.sorted Prod.fst m.supplements).map entry) =
      (KeyedList.get? Prod.fst t (KeyedList.sorted Prod.fst m.supplements)).map entry :=
    KeyedList.get?_map (fun _ => rfl) t _
  rw [member, hmap, KeyedList.get?_sorted hd, hget]
  rfl

/-! ## What a result keeps, changes and reports -/

/-- What a result makes of the base, with a profile. A provenance entry of the base stays unless its target is merged. -/
structure KeepsBase (catalog : List TargetSpec) (baseDocument baseFieldProvenance : Fields)
    (proposals : List IntakeMapProposal) (r : IntakeMergeResult) : Prop where
  values : ∀ q v, Unrelated ["extensions"] q → readAt q (.obj baseDocument) = .ok v → isUnfilled (some v) = false →
    isObject v = false → readAt q (.obj r.document) = .ok v
  targets : ∀ t, Listed catalog t → ¬EmptyAt (.obj baseDocument) t →
    readAt (pointerParts t) (.obj r.document) = readAt (pointerParts t) (.obj baseDocument)
  provenance : ∀ t, t ∉ r.mergedTargets → member t r.fieldProvenance = member t baseFieldProvenance
  elsewhere : ∀ q, Unrelated ["extensions"] q → (∀ t, Listed catalog t → Unrelated (pointerParts t) q) →
    readAt q (.obj r.document) = readAt q (.obj baseDocument)
  changed : ∀ t, Listed catalog t →
    readAt (pointerParts t) (.obj r.document) ≠ readAt (pointerParts t) (.obj baseDocument) →
      EmptyAt (.obj baseDocument) t ∧ entriesFor proposals t ≠ [] ∧ ∀ p ∈ entriesFor proposals t, ∃ v,
        readAt (pointerParts t) (.obj r.document) = .ok v ∧ stableJsonDumps v = stableJsonDumps p.proposedValue
  disagreements : ∀ t p q, p ∈ entriesFor proposals t → q ∈ entriesFor proposals t →
    stableJsonDumps p.proposedValue ≠ stableJsonDumps q.proposedValue → t ∉ r.rejectedProposals →
      ∃ c ∈ r.conflicts, c.targetPointer = t ∧ c.resolution = "unresolved" ∧
        c.candidates.Perm ((entriesFor proposals t).map candidateFromProposal)
  contradictions : ∀ t v, Listed catalog t → readAt (pointerParts t) (.obj baseDocument) = .ok v →
    isUnfilled (some v) = false → t ∉ r.rejectedProposals →
      (∀ p ∈ entriesFor proposals t, ∀ q ∈ entriesFor proposals t,
        stableJsonDumps p.proposedValue = stableJsonDumps q.proposedValue) →
      (∃ p ∈ entriesFor proposals t, stableJsonDumps p.proposedValue ≠ stableJsonDumps v) →
        ∃ c ∈ r.conflicts, c.targetPointer = t ∧ c.resolution = "unresolved" ∧
          c.candidates = candidateFromExisting t v (member t baseFieldProvenance) ::
            (entriesFor proposals t).map candidateFromProposal
  sources : ∀ t ∈ r.mergedTargets, ∃ primary supplements,
    (primary :: supplements).Perm ((entriesFor proposals t).map provenanceFromProposal) ∧
      member t r.fieldProvenance = some (.obj primary) ∧
      (supplements ≠ [] → recordedSupplements r.document t = some (.arr (supplements.map Json.obj)))

/-- the sources of a group are its primary one and the supplements -/
theorem recordSources_sources (m : Merging) (t : String) (first : IntakeMapProposal) (rest : List IntakeMapProposal) :
    ∃ primary supplements, (primary :: supplements).Perm ((first :: rest).map provenanceFromProposal) ∧
      member t (m.recordSources t (first :: rest)).provenance = some (.obj primary) ∧
      (supplements ≠ [] → KeyedList.get? Prod.fst t (m.recordSources t (first :: rest)).supplements =
        some (t, supplements)) := by
  obtain ⟨primary, supplements, hselect, hperm⟩ := exists_primary first rest
  refine ⟨primary, supplements, hperm, ?_, fun hne => ?_⟩
  · rw [Merging.recordSources, hselect]
    dsimp only
    rw [member_putMember, if_pos rfl]
  · rw [Merging.recordSources, hselect]
    dsimp only
    rw [if_neg (by rwa [List.isEmpty_iff]), KeyedList.get?_put, if_pos rfl]

/-- grouping by a key reorders a list, when each of its keys is listed once -/
theorem flatMap_filter_perm {α : Type} (f : α → String) {ks : List String} (hd : ks.Nodup) {xs : List α}
    (h : ∀ x ∈ xs, f x ∈ ks) : (ks.flatMap fun k => xs.filter fun x => f x = k).Perm xs := by
  induction ks generalizing xs with
  | nil =>
    cases xs with
    | nil => exact List.Perm.nil
    | cons x xs => exact absurd (h x List.mem_cons_self) List.not_mem_nil
  | cons k ks ih =>
    obtain ⟨hk, hd⟩ := List.nodup_cons.1 hd
    let others := xs.filter fun x => ¬f x = k
    have hothers : (ks.flatMap fun k' => xs.filter fun x => f x = k') =
        ks.flatMap fun k' => others.filter fun x => f x = k' := by
      refine List.flatMap_congr fun k' hk' => ?_
      rw [List.filter_filter]
      refine List.filter_congr fun x _ => ?_
      by_cases hx : f x = k'
      · have hne : ¬k' = k := fun heq => hk (heq ▸ hk')
        simp [hx, hne]
      · simp [hx]
    have hrest : (ks.flatMap fun k' => others.filter fun x => f x = k').Perm others := by
      refine ih hd fun x hx => ?_
      obtain ⟨hmem, hne⟩ := List.mem_filter.1 hx
      exact (List.mem_cons.1 (h x hmem)).resolve_left (by simpa using hne)
    rw [List.flatMap_cons, hothers]
    refine (List.Perm.append_left _ hrest).trans ?_
    have hsplit := List.filter_append_perm (fun x => decide (f x = k)) xs
    simpa [others] using hsplit

/-- the candidates of a disagreement are the proposals of the group, in another order -/
theorem disagreeing_entries (entries : List IntakeMapProposal) :
    (((entries.map valueText).dedup.insertionSort (· ≤ ·)).flatMap fun text =>
      byKey proposalSortKey (entries.filter fun entry => valueText entry = text)).Perm entries := by
  have hd : ((entries.map valueText).dedup.insertionSort (· ≤ ·)).Nodup :=
    (List.perm_insertionSort _ _).nodup_iff.2 (List.nodup_dedup _)
  refine (List.Perm.flatMap_left _ fun text _ => List.perm_insertionSort _ _).trans
    (flatMap_filter_perm valueText hd fun entry hentry => ?_)
  rw [List.mem_insertionSort, List.mem_dedup]
  exact List.mem_map_of_mem hentry

theorem withExtensions_object {document document' : Fields} (h : withExtensions document = .ok document') :
    ∃ extensions, member "extensions" document' = some (.obj extensions) := by
  unfold withExtensions at h
  split at h
  · next hnone =>
    obtain rfl := Except.ok.inj h
    refine ⟨[], ?_⟩
    have hfind : KeyedList.get? Prod.fst "extensions" document = none := Option.map_eq_none_iff.1 hnone
    rw [member, KeyedList.get?, List.find?_append, ← KeyedList.get?, hfind]
    rfl
  · next extensions hextensions =>
    obtain rfl := Except.ok.inj h
    exact ⟨extensions, hextensions⟩
  · cases h

section

variable {baseDocument baseFieldProvenance : Fields} {steps : List IntakeMapStepResult} {r : IntakeMergeResult}
  {document : Fields} {unfilled : List IntakeGap}

/-- the state before the rounds -/
def start (document baseFieldProvenance : Fields) : Merging :=
  { document := .obj document, provenance := baseFieldProvenance }

variable (hcatalog : catalogForProfile profileId = some catalog)
  (h : Merged schemas (some profileId) baseDocument baseFieldProvenance steps r document m unfilled)

include h

/-- the extensions aside, the rounds start from the base -/
theorem start_reads {q : List String} (hq : Unrelated ["extensions"] q) :
    readAt q (start document baseFieldProvenance).document = readAt q (.obj baseDocument) :=
  readAt_congr_member hq fun _ hk => member_withExtensions h.extended hk

include hcatalog

theorem result_reads (ht : Listed catalog t) :
    readAt (pointerParts t) (.obj r.document) = readAt (pointerParts t) m.document :=
  h.reads _ (catalogPointer hcatalog ht).extensions

/-- nothing happens to a pointer without proposals; to another, its round does -/
theorem result_history (t : String) :
    (t ∉ targetsOf (sortedProposals steps) ∧ Untouched catalog t (start document baseFieldProvenance) m) ∨
      ∃ m₀ m₁ first rest, entriesFor (sortedProposals steps) t = first :: rest ∧
        Untouched catalog t (start document baseFieldProvenance) m₀ ∧
        Round schemas (some profileId) m₀ t first (first :: rest) m₁ ∧ Untouched catalog t m₁ m := by
  by_cases ht : t ∈ targetsOf (sortedProposals steps)
  · exact Or.inr (target_history hcatalog h.rounds ht)
  · exact Or.inl ⟨ht, run_untouched hcatalog ht h.rounds⟩

theorem result_values (q : List String) (v : Json) (hq : Unrelated ["extensions"] q)
    (hv : readAt q (.obj baseDocument) = .ok v) (hfilled : isUnfilled (some v) = false) (hobject : isObject v = false) :
    readAt q (.obj r.document) = .ok v := by
  rw [h.reads q hq]
  refine run_induction (P := fun m => readAt q m.document = .ok v)
    (fun m m' t first entries hround hm => hround.readAt_nonempty hcatalog hm hfilled hobject) h.rounds ?_
  exact (start_reads h hq).trans hv

theorem result_elsewhere (q : List String) (hq : Unrelated ["extensions"] q)
    (hother : ∀ t, Listed catalog t → Unrelated (pointerParts t) q) :
    readAt q (.obj r.document) = readAt q (.obj baseDocument) := by
  rw [h.reads q hq, ← start_reads h hq]
  exact run_induction (P := fun m => readAt q m.document = readAt q (start document baseFieldProvenance).document)
    (fun m m' t first entries hround hm => (hround.readAt_elsewhere hcatalog hother).trans hm) h.rounds rfl

/-- a target that changes was empty, and has the one value of its proposals now -/
theorem result_changed (ht : Listed catalog t)
    (hne : readAt (pointerParts t) (.obj r.document) ≠ readAt (pointerParts t) (.obj baseDocument)) :
    EmptyAt (.obj baseDocument) t ∧ entriesFor (sortedProposals steps) t ≠ [] ∧
      ∀ p ∈ entriesFor (sortedProposals steps) t, ∃ v, readAt (pointerParts t) (.obj r.document) = .ok v ∧
        stableJsonDumps v = stableJsonDumps p.proposedValue := by
  have hpointer := catalogPointer hcatalog ht
  rw [result_reads hcatalog h ht, ← start_reads h hpointer.extensions] at hne
  rcases result_history hcatalog h t with ⟨_, huntouched⟩ | ⟨m₀, m₁, first, rest, hentries, hbefore, hround, hafter⟩
  · exact absurd (huntouched.reads ht) hne
  · rw [hafter.reads ht] at hne
    rw [result_reads hcatalog h ht, hafter.reads ht, hentries]
    cases hround with
    | rejected _ => exact absurd (hbefore.reads ht) hne
    | disagreeing _ _ => exact absurd (hbefore.reads ht) hne
    | contradicted _ _ _ _ _ => exact absurd (hbefore.reads ht) hne
    | confirmed _ _ _ _ _ =>
      rw [recordSources_document] at hne
      exact absurd (hbefore.reads ht) hne
    | filled _ hagree hcurrent hunfilled hset =>
      refine ⟨?_, List.cons_ne_nil _ _, fun p hp => ?_⟩
      · rw [← EmptyAt.congr (start_reads h hpointer.extensions), ← EmptyAt.congr (hbefore.reads ht)]
        unfold EmptyAt
        split
        · next v hv =>
          rw [currentValue, if_neg hpointer.ne_empty, hv] at hcurrent
          rw [Except.ok.inj hcurrent, hunfilled]
        · trivial
      · exact ⟨first.proposedValue, readAt_writeAt hpointer.parts_ne (writeAt_of_set hset), (hagree p hp).symm⟩

theorem result_provenance (t : String) (ht : t ∉ r.mergedTargets) :
    member t r.fieldProvenance = member t baseFieldProvenance := by
  rw [h.mergedTargets, mem_sortedSet] at ht
  rw [h.provenance]
  rcases result_history hcatalog h t with ⟨_, huntouched⟩ | ⟨m₀, m₁, first, rest, _, hbefore, hround, hafter⟩
  · exact huntouched.provenance
  · rw [hafter.merged] at ht
    rw [hafter.provenance]
    refine Eq.trans ?_ hbefore.provenance
    cases hround with
    | rejected _ => rfl
    | disagreeing _ _ => rfl
    | contradicted _ _ _ _ _ => rfl
    | confirmed _ _ _ _ _ =>
      rw [recordSources_merged] at ht
      exact absurd (List.mem_append_right _ List.mem_cons_self) ht
    | filled _ _ _ _ _ =>
      change t ∉ (m₀.recordSources t (first :: rest)).mergedTargets at ht
      rw [recordSources_merged] at ht
      exact absurd (List.mem_append_right _ List.mem_cons_self) ht

/-- the document still has its extensions after the rounds -/
theorem result_extensions {merged : Fields} (hmerged : m.document = .obj merged) :
    ∃ extensions, member "extensions" merged = some (.obj extensions) := by
  obtain ⟨extensions, hstart⟩ := withExtensions_object h.extended
  have hreads : readAt ["extensions"] m.document = .ok (.obj extensions) := by
    refine run_induction (P := fun m => readAt ["extensions"] m.document = .ok (.obj extensions))
      (fun m m' t first entries hround hm => ?_) h.rounds ?_
    · exact (hround.readAt_elsewhere hcatalog fun u hu => (catalogPointer hcatalog hu).extensions.symm).trans hm
    · rw [readAt, hstart]
      rfl
  rw [hmerged, readAt] at hreads
  obtain ⟨v, hv, hreads⟩ := bind_eq_ok.1 hreads
  obtain rfl := Except.ok.inj hreads
  exact ⟨extensions, orRaise_eq_ok.1 hv⟩

omit hcatalog in
theorem result_conflict {c : IntakeFieldConflict} (hc : c ∈ m.conflicts) : c ∈ r.conflicts := by
  rw [h.conflicts]
  exact (List.mem_insertionSort _).2 hc

omit hcatalog in
theorem result_rejected : t ∈ r.rejectedProposals ↔ t ∈ m.rejectedProposals := by
  rw [h.rejectedProposals, mem_sortedSet]

theorem result_disagreements {p q : IntakeMapProposal} (hp : p ∈ entriesFor (sortedProposals steps) t)
    (hq : q ∈ entriesFor (sortedProposals steps) t)
    (hne : stableJsonDumps p.proposedValue ≠ stableJsonDumps q.proposedValue) (ht : t ∉ r.rejectedProposals) :
    ∃ c ∈ r.conflicts, c.targetPointer = t ∧ c.resolution = "unresolved" ∧
      c.candidates.Perm ((entriesFor (sortedProposals steps) t).map candidateFromProposal) := by
  rw [result_rejected h] at ht
  rcases result_history hcatalog h t with ⟨hnone, _⟩ | ⟨m₀, m₁, first, rest, hentries, hbefore, hround, hafter⟩
  · have hmem := List.mem_filter.1 hp
    have heq : p.targetPointer = t := of_decide_eq_true hmem.2
    exact absurd (mem_targetsOf.2 (heq ▸ List.mem_map_of_mem hmem.1)) hnone
  · rw [hafter.rejected] at ht
    rw [hentries] at hp hq ⊢
    have hdisagree : ¬Agree first (first :: rest) := fun hagree => hne ((hagree p hp).trans (hagree q hq).symm)
    cases hround with
    | rejected _ => exact absurd (List.mem_append_right _ List.mem_cons_self) ht
    | contradicted _ hagree _ _ _ => exact absurd hagree hdisagree
    | confirmed _ hagree _ _ _ => exact absurd hagree hdisagree
    | filled _ hagree _ _ _ => exact absurd hagree hdisagree
    | disagreeing _ _ =>
      refine ⟨_, result_conflict h (hafter.conflicts _ (List.mem_append_right _ List.mem_cons_self)), rfl, rfl, ?_⟩
      exact (disagreeing_entries (first :: rest)).map candidateFromProposal

theorem result_contradictions {v : Json} (ht : Listed catalog t)
    (hv : readAt (pointerParts t) (.obj baseDocument) = .ok v) (hfilled : isUnfilled (some v) = false)
    (hrejected : t ∉ r.rejectedProposals)
    (hsame : ∀ p ∈ entriesFor (sortedProposals steps) t, ∀ q ∈ entriesFor (sortedProposals steps) t,
      stableJsonDumps p.proposedValue = stableJsonDumps q.proposedValue)
    (hother : ∃ p ∈ entriesFor (sortedProposals steps) t, stableJsonDumps p.proposedValue ≠ stableJsonDumps v) :
    ∃ c ∈ r.conflicts, c.targetPointer = t ∧ c.resolution = "unresolved" ∧
      c.candidates = candidateFromExisting t v (member t baseFieldProvenance) ::
        (entriesFor (sortedProposals steps) t).map candidateFromProposal := by
  obtain ⟨p, hp, hpv⟩ := hother
  have hpointer := catalogPointer hcatalog ht
  rw [result_rejected h] at hrejected
  rcases result_history hcatalog h t with ⟨hnone, _⟩ | ⟨m₀, m₁, first, rest, hentries, hbefore, hround, hafter⟩
  · have hmem := List.mem_filter.1 hp
    have heq : p.targetPointer = t := of_decide_eq_true hmem.2
    exact absurd (mem_targetsOf.2 (heq ▸ List.mem_map_of_mem hmem.1)) hnone
  · rw [hafter.rejected] at hrejected
    have hread : readAt (pointerParts t) m₀.document = .ok v :=
      (hbefore.reads ht).trans ((start_reads h hpointer.extensions).trans hv)
    have hcurrent : currentValue m₀.document t = .ok (some v) := by
      rw [currentValue, if_neg hpointer.ne_empty, hread]
    rw [hentries] at hp hsame ⊢
    have hfirst : stableJsonDumps v ≠ stableJsonDumps first.proposedValue := fun heq =>
      hpv ((hsame p hp first List.mem_cons_self).trans heq.symm)
    have hvalue : ∀ {value}, currentValue m₀.document t = .ok (some value) → value = v := by
      intro value hvalue
      rw [hcurrent] at hvalue
      exact (Option.some.inj (Except.ok.inj hvalue)).symm
    cases hround with
    | rejected _ => exact absurd (List.mem_append_right _ List.mem_cons_self) hrejected
    | disagreeing _ hdisagree => exact absurd (fun q hq => hsame q hq first List.mem_cons_self) hdisagree
    | filled _ _ hexisting hunfilled _ =>
      rw [hcurrent] at hexisting
      rw [← Except.ok.inj hexisting, hfilled] at hunfilled
      cases hunfilled
    | confirmed _ _ hexisting _ hsameValue =>
      obtain rfl := hvalue hexisting
      exact absurd (congrArg String.ofList hsameValue) hfirst
    | contradicted _ _ hexisting _ _ =>
      obtain rfl := hvalue hexisting
      refine ⟨_, result_conflict h (hafter.conflicts _ (List.mem_append_right _ List.mem_cons_self)), rfl, rfl, ?_⟩
      rw [hbefore.provenance]
      rfl

theorem result_sources (ht : t ∈ r.mergedTargets) : ∃ primary supplements,
    (primary :: supplements).Perm ((entriesFor (sortedProposals steps) t).map provenanceFromProposal) ∧
      member t r.fieldProvenance = some (.obj primary) ∧
      (supplements ≠ [] → recordedSupplements r.document t = some (.arr (supplements.map Json.obj))) := by
  rw [h.mergedTargets, mem_sortedSet] at ht
  rw [h.provenance]
  have hrecorded : ∀ {supplements}, KeyedList.get? Prod.fst t m.supplements = some (t, supplements) →
      recordedSupplements r.document t = some (.arr (supplements.map Json.obj)) := by
    intro supplements hget
    obtain ⟨merged, proposal, hmerged, hdocument⟩ := h.document
    obtain ⟨extensions, hextensions⟩ := result_extensions hcatalog h hmerged
    have hattached : m.detached = false := run_induction (P := fun m => m.detached = false)
      (fun m m' t first entries hround hm => (hround.detached hcatalog).trans hm) h.rounds rfl
    have hdistinct : KeyedList.Distinct Prod.fst m.supplements := run_induction
      (P := fun m => KeyedList.Distinct Prod.fst m.supplements)
      (fun m m' t first entries hround hm => hround.distinct hm) h.rounds List.nodup_nil
    rw [hdocument, hattached]
    exact recordedSupplements_written hextensions hdistinct hget
  rcases result_history hcatalog h t with ⟨_, huntouched⟩ | ⟨m₀, m₁, first, rest, hentries, hbefore, hround, hafter⟩
  · exact absurd (huntouched.merged.1 ht) List.not_mem_nil
  · have hnotyet : t ∉ m₀.mergedTargets := fun hmem => absurd (hbefore.merged.1 hmem) List.not_mem_nil
    rw [hafter.merged] at ht
    rw [hentries]
    obtain ⟨primary, supplements, hperm, hprimary, hsupplements⟩ := recordSources_sources m₀ t first rest
    have hresult : m₁.provenance = (m₀.recordSources t (first :: rest)).provenance →
        m₁.supplements = (m₀.recordSources t (first :: rest)).supplements →
        member t m.provenance = some (.obj primary) ∧
          (supplements ≠ [] → recordedSupplements r.document t = some (.arr (supplements.map Json.obj))) := by
      intro hprovenance hsupplement
      refine ⟨?_, fun hne => hrecorded ?_⟩
      · rw [hafter.provenance, hprovenance, hprimary]
      · rw [hafter.supplements, hsupplement, hsupplements hne]
    cases hround with
    | rejected _ => exact absurd ht hnotyet
    | disagreeing _ _ => exact absurd ht hnotyet
    | contradicted _ _ _ _ _ => exact absurd ht hnotyet
    | confirmed _ _ _ _ _ => exact ⟨primary, supplements, hperm, hresult rfl rfl⟩
    | filled _ _ _ _ _ => exact ⟨primary, supplements, hperm, hresult rfl rfl⟩

theorem keepsBase : KeepsBase catalog baseDocument baseFieldProvenance (sortedProposals steps) r where
  values := result_values hcatalog h
  targets := by
    intro t ht hfilled
    by_contra hne
    exact hfilled (result_changed hcatalog h ht hne).1
  provenance := result_provenance hcatalog h
  elsewhere := result_elsewhere hcatalog h
  changed _ ht hne := result_changed hcatalog h ht hne
  disagreements _ _ _ hp hq hne ht := result_disagreements hcatalog h hp hq hne ht
  contradictions _ _ ht hv hfilled hrejected hsame hother :=
    result_contradictions hcatalog h ht hv hfilled hrejected hsame hother
  sources _ ht := result_sources hcatalog h ht

end

/-- With a profile, a merge keeps the base, changes targets of the catalog that were empty only, and says where it does not
take a value. -/
theorem reduce_keeps {schemas : Schemas} {profileId : String} {baseDocument baseFieldProvenance : Fields}
    {systemDisplayName : String} {steps : List MapStep} {catalog : List TargetSpec} {r : IntakeMergeResult}
    (hcatalog : catalogForProfile profileId = some catalog)
    (h : reduceIntakeMapResults schemas (some profileId) baseDocument baseFieldProvenance systemDisplayName steps = .ok r) :
    ∃ validated, validatedSteps schemas steps = .ok validated ∧
      KeepsBase catalog baseDocument baseFieldProvenance (sortedProposals validated) r := by
  obtain ⟨validated, hvalidated, h⟩ := bind_eq_ok.1 h
  obtain ⟨document, m, unfilled, hmerged⟩ := merged_of_reduceSteps h
  exact ⟨validated, hvalidated, keepsBase hcatalog hmerged⟩

/-- a draft with a mission, which extraction has found -/
def missionDraft : Fields := putMember "system" (.obj [("display_name", .str "Demo System"),
  ("authorization_boundary", .str ""), ("mission_summary", .str "Payroll."), ("impact_level", .null),
  ("authorization_path", .str "agency")]) emptyDraft

def missionProvenance : Fields :=
  [("/system/mission_summary", .obj [("source_artifact_id", .str "55555555-5555-4555-8555-555555555555"),
    ("source_sha256", .str (String.ofList (List.replicate 64 'b'))),
    ("source_locator", .obj [("kind", .str "json_pointer"), ("json_pointer", .str "/system/mission_summary")]),
    ("extraction_method", .str "deterministic"), ("model_step_id", .null)])]

def reduceMission (value : String) : Except ReduceError IntakeMergeResult :=
  reduceIntakeMapResults acceptingSchemas (some "fisma_agency_security") missionDraft missionProvenance "Demo System"
    [.result ⟨"intake_map_000", true, [proposalFor "/system/mission_summary" (.str value) "intake_map_000"]⟩]

/-- the method by which the value of a pointer was found -/
def extractionMethod (provenance : Fields) (t : String) : Option String :=
  (((member t provenance).bind asObj).bind (member "extraction_method")).bind asStr

def reduceProposals (profileId : Option String) (proposals : List IntakeMapProposal) :
    Except ReduceError IntakeMergeResult :=
  reduceIntakeMapResults acceptingSchemas profileId emptyDraft [] "Demo System"
    [.result ⟨"intake_map_000", true, proposals⟩]

/-- A proposal of the value that the base has replaces the provenance of the base, which is recorded nowhere else.
Proposals that disagree are rejected together when the first is not allowed. Without a profile any field can change. -/
theorem reduce_replaces_rejects_changes :
    (∃ r, reduceMission "Payroll." = .ok r ∧
      extractionMethod missionProvenance "/system/mission_summary" = some "deterministic" ∧
      extractionMethod r.fieldProvenance "/system/mission_summary" = some "llm_normalize" ∧
      recordedSupplements r.document "/system/mission_summary" = none) ∧
    (∃ r, reduceProposals (some "fisma_agency_security")
        [proposalFor "/system/impact_level" (.str "critical") "intake_map_000",
          proposalFor "/system/impact_level" (.str "low") "intake_map_000"] = .ok r ∧
      r.conflicts.length = 0 ∧ r.rejectedProposals = ["/system/impact_level"]) ∧
    ∃ r, reduceProposals none [proposalFor "/control_set/source" (.obj [("name", .str "NIST")]) "intake_map_000"] = .ok r ∧
      readAt ["control_set", "source", "name"] (.obj r.document) = .ok (.str "NIST") :=
  ⟨⟨_, rfl, rfl, rfl, rfl⟩, ⟨_, rfl, by decide, by decide⟩, ⟨_, rfl, rfl⟩⟩

/-- another value is a conflict, and the base stays -/
theorem reduce_keeps_mission : ∃ r validated, reduceMission "Pensions." = .ok r ∧
    KeepsBase fismaTargets missionDraft missionProvenance (sortedProposals validated) r ∧ r.conflicts.length = 1 := by
  obtain ⟨validated, _, hkeeps⟩ := @reduce_keeps acceptingSchemas "fisma_agency_security" missionDraft missionProvenance
    "Demo System" [.result ⟨"intake_map_000", true,
      [proposalFor "/system/mission_summary" (.str "Pensions.") "intake_map_000"]⟩] fismaTargets _ rfl rfl
  exact ⟨_, validated, rfl, hkeeps, by decide⟩

end AtoService.IntakeMerge
