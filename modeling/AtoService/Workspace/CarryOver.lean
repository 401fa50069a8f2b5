/-
What a migration carries over.

`CarriedOver` relates the content of the workspace to what a migration stores: texts, statements, evidence, the review
marker and the questions. `DescribesBaselines` says what the difference that it returns means.
`migrateWorkspaceProfile_carriedOver` proves both of every migration of every run, whether it changes the profile
version, the impact level, both or neither.
-/
import AtoService.Workspace.Safety

namespace AtoService.Workspace

open AtoService.Py

/-! ## Statements -/

/-- a control of both baselines, with another title or requirement -/
def RequirementChanged (old new : ResolvedProfile) (controlId : String) : Prop :=
  ∃ p ∈ old.controls, ∃ p' ∈ new.controls, p.controlId = controlId ∧ p'.controlId = controlId ∧
    controlSemantics p ≠ controlSemantics p'

/-- the difference names exactly what the two baselines differ in -/
structure DescribesBaselines (old new : ResolvedProfile) (diff : ProfileDiff) : Prop where
  added : ∀ id, id ∈ diff.addedControlIds ↔ id ∈ new.controlIds ∧ id ∉ old.controlIds
  removed : ∀ id, id ∈ diff.removedControlIds ↔ id ∈ old.controlIds ∧ id ∉ new.controlIds
  changed : ∀ id, id ∈ diff.changedControlIds ↔ RequirementChanged old new id

/-- a control that a migration makes reviewable: its own requirement changed, or the rules for every control did -/
def ChangedForReview (old new : ResolvedProfile) (controlId : String) : Prop :=
  RequirementChanged old new controlId ∨
    statementPolicySemantics old.implementationStatementPolicy ≠
      statementPolicySemantics new.implementationStatementPolicy ∨
    old.controlResponse ≠ new.controlResponse

/-- what `c` keeps of `base`, whose sections and controls are those of `old`, under `new` -/
structure CarriedOver (base c : RevisionContent) (old new : ResolvedProfile) : Prop where
  sections : ∀ s ∈ base.sections, s.key ∈ new.itemIds →
    ∃ s' ∈ c.sections, s'.key = s.key ∧ s'.content = s.content ∧ s'.evidence = s.evidence
  controls : ∀ x ∈ base.controls, x.controlId ∈ new.controlIds →
    ∃ x' ∈ c.controls, x'.controlId = x.controlId ∧ x'.implementationStatement = x.implementationStatement ∧
      x'.implementationStatus = x.implementationStatus ∧ x'.responsibility = x.responsibility ∧ x'.evidence = x.evidence
  marked : ∀ x ∈ base.controls, ∀ x' ∈ c.controls, x'.controlId = x.controlId → ChangedForReview old new x.controlId →
    x'.state = .partly ∧ x'.unresolvedReason = some (migratedReason x.unresolvedReason new.profileVersion)
  unmarked : ∀ x ∈ base.controls, ∀ x' ∈ c.controls, x'.controlId = x.controlId →
    ¬ChangedForReview old new x.controlId → x'.state = x.state ∧ x'.unresolvedReason = x.unresolvedReason
  fresh : ∀ x' ∈ c.controls, x'.controlId ∉ base.controls.map ControlContent.controlId →
    x'.state = .empty ∧ x'.unresolvedReason = none
  unique : (c.sections.map SectionContent.key).Nodup ∧ (c.controls.map ControlContent.controlId).Nodup
  questions : ∀ q ∈ c.questions, q.state = .opened →
    (q.targetType = .control → q.targetKey ∈ old.controlIds → q.targetKey ∈ new.controlIds) ∧
      (q.targetType = .sspSection → q.targetKey ∈ old.itemIds → q.targetKey ∈ new.itemIds)

/-! ## The difference -/

section

variable {ps : List ProfileRow} {oldRow newRow : ProfileRow} {oldLevel level : String} {old new : ResolvedProfile}
  {diff : ProfileDiff}

theorem ResolvedFrom.distinct_controls {b : ProfileBundle} {p : ResolvedProfile} (h : ResolvedFrom b level p)
    (hb : b.WellFormed) : KeyedList.Distinct ProfileControl.controlId p.controls :=
  (hb.baselines _ (controlIdsFor_mem h.controlIds)).1

/-- two resolutions of one bundle differ in their baselines only -/
theorem ResolvedFrom.not_changedForReview {b : ProfileBundle} (ho : ResolvedFrom b oldLevel old)
    (hn : ResolvedFrom b level new) (hb : b.WellFormed) (id : String) : ¬ChangedForReview old new id := by
  rintro (⟨p, hp, p', hp', hid, hid', hne⟩ | hne | hne)
  · obtain rfl : p = p' :=
      List.inj_on_of_nodup_map hb.catalog (ho.controls p hp) (hn.controls p' hp') (hid.trans hid'.symm)
    exact hne rfl
  · exact hne (by rw [ho.policy, hn.policy])
  · exact hne (by rw [ho.controlResponse, hn.controlResponse])

/-- one version of one profile is one row -/
theorem ProfilesOk.eq_of_version (h : ProfilesOk ps) (ho : oldRow ∈ ps) (hn : newRow ∈ ps)
    (hro : ResolvedFrom oldRow.bundle oldLevel old) (hrn : ResolvedFrom newRow.bundle level new)
    (hid : old.profileId = new.profileId) (hv : old.profileVersion = new.profileVersion) : oldRow = newRow := by
  refine List.inj_on_of_nodup_map h.versions ho hn ?_
  show (oldRow.profileKey, oldRow.version) = (newRow.profileKey, newRow.version)
  rw [(h.rows _ ho).2.1, (h.rows _ ho).2.2, (h.rows _ hn).2.1, (h.rows _ hn).2.2, ← hro.profileId, ← hro.profileVersion,
    ← hrn.profileId, ← hrn.profileVersion, hid, hv]

theorem mem_changedControls (ho : KeyedList.Distinct ProfileControl.controlId old.controls)
    (hn : KeyedList.Distinct ProfileControl.controlId new.controls) {id : String} :
    id ∈ changedKeys ProfileControl.controlId controlSemantics old.controls new.controls ↔
      RequirementChanged old new id := by
  simp only [mem_changedKeys ho hn, KeyedList.get?_eq_some ho, KeyedList.get?_eq_some hn]
  constructor
  · rintro ⟨p, p', ⟨hp, hid⟩, ⟨hp', hid'⟩, hne⟩
    exact ⟨p, hp, p', hp', hid, hid', hne⟩
  · rintro ⟨p, hp, p', hp', hid, hid', hne⟩
    exact ⟨p, p', ⟨hp, hid⟩, ⟨hp', hid'⟩, hne⟩

/-- what a difference says about the baselines and about the policy of the statements -/
def Describes (old new : ResolvedProfile) (diff : ProfileDiff) : Prop :=
  DescribesBaselines old new diff ∧ (diff.implementationStatementPolicyChanged = true ↔
    statementPolicySemantics old.implementationStatementPolicy ≠
      statementPolicySemantics new.implementationStatementPolicy)

theorem diffProfiles_describes (ho : KeyedList.Distinct ProfileControl.controlId old.controls)
    (hn : KeyedList.Distinct ProfileControl.controlId new.controls) (h : diffProfiles old new = .ok diff) :
    Describes old new diff := by
  unfold diffProfiles at h
  split_ifs at h
  · simp at h
  · simp at h
  · obtain rfl := Except.ok.inj h
    exact ⟨⟨fun _ => mem_sortedDifference, fun _ => mem_sortedDifference, fun _ => mem_changedControls ho hn⟩,
      decide_eq_true_iff⟩

/-- of one bundle, only the baselines are compared -/
theorem impactProfileDiff_describes {b : ProfileBundle} (ho : ResolvedFrom b oldLevel old)
    (hn : ResolvedFrom b level new) (hb : b.WellFormed) : Describes old new (impactProfileDiff old new) := by
  refine ⟨⟨fun _ => mem_sortedDifference, fun _ => mem_sortedDifference, fun id => ?_⟩, ?_⟩
  · exact iff_of_false List.not_mem_nil fun h => ho.not_changedForReview hn hb id (Or.inl h)
  · exact iff_of_false Bool.false_ne_true fun h => ho.not_changedForReview hn hb "" (Or.inr (Or.inl h))

/-- **The difference of a migration**, through every combination of a new version and a new level. -/
theorem migrationDiff_describes (h : ProfilesOk ps) (ho : oldRow ∈ ps) (hn : newRow ∈ ps)
    (hro : ResolvedFrom oldRow.bundle oldLevel old) (hrn : ResolvedFrom newRow.bundle level new)
    (hid : old.profileId = new.profileId) (hd : migrationDiff old new newRow = .ok diff) : Describes old new diff := by
  have hdo := hro.distinct_controls (h.rows _ ho).1
  have hdn := hrn.distinct_controls (h.rows _ hn).1
  unfold migrationDiff at hd
  split_ifs at hd with hv hl hl
  · obtain rfl := Except.ok.inj hd
    obtain rfl := h.eq_of_version ho hn hro hrn hid hv
    exact impactProfileDiff_describes hro hrn (h.rows _ ho).1
  · exact diffProfiles_describes hdo hdn hd
  all_goals
    simp only [bind_eq_ok, pure_eq_ok] at hd
    obtain ⟨target, htarget, source, hsource, rfl⟩ := hd
    refine ⟨⟨fun _ => mem_sortedDifference, fun _ => mem_sortedDifference, fun _ => mem_changedControls hdo hdn⟩, ?_⟩
    -- the policy is the target version's, whatever the level
    have htarget : KeyedList.Distinct ProfileControl.controlId target.controls ∧
        target.implementationStatementPolicy = new.implementationStatementPolicy := by
      first
      | obtain rfl := Except.ok.inj htarget
        exact ⟨hdn, rfl⟩
      | obtain ⟨-, hrt⟩ := resolveStoredProfile_spec htarget
        exact ⟨hrt.distinct_controls (h.rows _ hn).1, hrt.policy.trans hrn.policy.symm⟩
    rw [← htarget.2]
    exact (diffProfiles_describes hdo htarget.1 hsource).2

end

/-! ## The content -/

section

variable {host : Host} {base c : RevisionContent} {old new : ResolvedProfile} {newRow : ProfileRow} {level : String}
  {categorization : Option (List FactContent)} {diff : ProfileDiff}

theorem mem_changedControlIds (hd : Describes old new diff) {id : String}
    (hb : id ∈ base.controls.map ControlContent.controlId) (hn : id ∈ new.controlIds) :
    id ∈ changedControlIds base old new diff ↔ ChangedForReview old new id := by
  obtain ⟨x, hx, rfl⟩ := List.mem_map.1 hb
  unfold changedControlIds ChangedForReview
  rw [← hd.1.changed]
  split_ifs with hc
  · refine iff_of_true (List.mem_append_right _ (List.mem_filter.2 ⟨hb, by simpa using hn⟩)) (Or.inr ?_)
    exact hc.imp hd.2.1 id
  · rw [not_or] at hc
    refine ⟨Or.inl, fun h => h.resolve_right ?_⟩
    rintro (hp | hr)
    · exact hc.1 (hd.2.2 hp)
    · exact hc.2 hr

theorem migratedControl_fresh {xs : List ControlContent} {changed : List String} {p : ProfileControl}
    {x' : ControlContent} (h : migratedControl xs changed new p = .ok x')
    (hx : x'.controlId ∉ xs.map ControlContent.controlId) : x'.state = .empty ∧ x'.unresolvedReason = none := by
  have hid := (migratedControl_ok h).1
  unfold migratedControl at h
  cases hg : getControl p.controlId xs with
  | none =>
    simp only [hg, validated_eq_ok] at h
    rw [h.1]
    exact ⟨rfl, rfl⟩
  | some x =>
    refine absurd ?_ hx
    rw [hid, ← KeyedList.key_of_get? hg]
    exact List.mem_map_of_mem (KeyedList.mem_of_get? hg)

/-- no question is left open where the target profile has nothing -/
theorem migratedQuestion_opened {q : QuestionContent} (h : (migratedQuestion new q).state = .opened) :
    ((migratedQuestion new q).targetType = .control → (migratedQuestion new q).targetKey ∈ new.controlIds) ∧
      ((migratedQuestion new q).targetType = .sspSection → (migratedQuestion new q).targetKey ∈ new.itemIds) := by
  unfold migratedQuestion at h ⊢
  split_ifs at h ⊢ with hc
  · rw [not_and, not_or] at hc
    obtain ⟨hx, hs⟩ := hc h
    exact ⟨fun ht => by_contra fun hk => hx ⟨ht, hk⟩, fun ht => by_contra fun hk => hs ⟨ht, hk⟩⟩

/-- **What a migration makes of the content.** -/
theorem carriedOver_of_apply (hb : base.Unique) (hd : ∀ diff, migrationDiff old new newRow = .ok diff →
      Describes old new diff) (hitems : new.itemIds.Nodup) (hcontrols : new.controlIds.Nodup)
    (h : (Edit.migrate old new newRow level categorization).apply host base = .ok c) : CarriedOver base c old new := by
  obtain ⟨diff, hdiff, hm⟩ := migrated_of_apply hb h
  have hdesc := hd diff hdiff
  -- a control of `c` that `base` has, and whether it was marked
  have hkept : ∀ x ∈ base.controls, ∀ x' ∈ c.controls, x'.controlId = x.controlId → ∃ title,
      (¬ChangedForReview old new x.controlId ∧ x' = { x with title }) ∨
      (ChangedForReview old new x.controlId ∧ x' = { x with
        title
        state := .partly
        unresolvedReason := some (migratedReason x.unresolvedReason new.profileVersion) }) := by
    intro x hx x' hx' hid
    have hmem : x.controlId ∈ base.controls.map ControlContent.controlId := List.mem_map_of_mem hx
    have hnew : x.controlId ∈ new.controlIds := by
      rw [← hm.controlIds, ← hid]
      exact List.mem_map_of_mem hx'
    rcases hm.controls x' hx' with ⟨x₀, hx₀, hid₀, -, title, hcase⟩ | ⟨hno, -⟩
    · obtain rfl : x₀ = x := List.inj_on_of_nodup_map hb.controls hx₀ hx (hid₀.trans hid)
      rw [hid, mem_changedControlIds hdesc hmem hnew] at hcase
      exact ⟨title, hcase⟩
    · exact absurd (hid ▸ hmem) hno
  refine {
    sections := fun s hs hk => ?_
    controls := fun x hx hk => ?_
    marked := fun x hx x' hx' hid hc => ?_
    unmarked := fun x hx x' hx' hid hc => ?_
    fresh := fun x' hx' hno => ?_
    unique := ⟨hm.sectionKeys ▸ hitems, hm.controlIds ▸ hcontrols⟩
    questions := fun q hq ho => ?_ }
  · rw [← hm.sectionKeys] at hk
    obtain ⟨s', hs', hkey⟩ := List.mem_map.1 hk
    rcases hm.sections s' hs' with ⟨s₀, hs₀, hkey₀, ht, he, -⟩ | ⟨hno, -⟩
    · obtain rfl : s₀ = s := List.inj_on_of_nodup_map hb.sections hs₀ hs (hkey₀.trans hkey)
      exact ⟨s', hs', hkey, ht, he⟩
    · exact absurd (hkey ▸ List.mem_map_of_mem hs) hno
  · rw [← hm.controlIds] at hk
    obtain ⟨x', hx', hid⟩ := List.mem_map.1 hk
    obtain ⟨title, ⟨-, rfl⟩ | ⟨-, rfl⟩⟩ := hkept x hx x' hx' hid
    · exact ⟨_, hx', rfl, rfl, rfl, rfl, rfl⟩
    · exact ⟨_, hx', rfl, rfl, rfl, rfl, rfl⟩
  · obtain ⟨title, ⟨hn, -⟩ | ⟨-, rfl⟩⟩ := hkept x hx x' hx' hid
    · exact absurd hc hn
    · exact ⟨rfl, rfl⟩
  · obtain ⟨title, ⟨-, rfl⟩ | ⟨hy, -⟩⟩ := hkept x hx x' hx' hid
    · exact ⟨rfl, rfl⟩
    · exact absurd hy hc
  · simp only [Edit.apply, migrateContent, bind_eq_ok, ensure_eq_ok, pure_eq_ok, hb.controlDict] at h
    obtain ⟨_, -, -, -, _, -, controls, hxs, rfl⟩ := h
    obtain ⟨p, -, hp⟩ := exists_of_mem_mapM hxs hx'
    exact migratedControl_fresh hp hno
  · rw [hm.questions] at hq
    obtain ⟨q₀, -, rfl⟩ := List.mem_map.1 hq
    obtain ⟨hx, hs⟩ := migratedQuestion_opened ho
    exact ⟨fun ht _ => hx ht, fun ht _ => hs ht⟩

/-- a migration that changes nothing keeps everything -/
theorem carriedOver_refl (hb : base.Unique) (hsame : ∀ id, ¬ChangedForReview old new id)
    (hx : old.controlIds = new.controlIds) (hs : old.itemIds = new.itemIds) : CarriedOver base base old new where
  sections s hs _ := ⟨s, hs, rfl, rfl, rfl⟩
  controls x hx _ := ⟨x, hx, rfl, rfl, rfl, rfl, rfl⟩
  marked _ _ _ _ _ hc := absurd hc (hsame _)
  unmarked x hx x' hx' hid _ := by
    obtain rfl : x' = x := List.inj_on_of_nodup_map hb.controls hx' hx hid
    exact ⟨rfl, rfl⟩
  fresh x' hx' hno := absurd (List.mem_map_of_mem hx') hno
  unique := ⟨hb.sections, hb.controls⟩
  questions _ _ _ := ⟨fun _ hk => hx ▸ hk, fun _ hk => hs ▸ hk⟩

/-- what a revision reads back keeps what was stored in it -/
theorem CarriedOver.jsonb (h : CarriedOver base.jsonb c old new) : CarriedOver base.jsonb c.jsonb old new := by
  have hl : ∀ ls : List EvidenceLink,
      (ls.map EvidenceLink.jsonb).map EvidenceLink.jsonb = ls.map EvidenceLink.jsonb := by
    intro ls
    simp [EvidenceLink.jsonb, Json.jsonb_jsonb]
  refine {
    sections := fun s hs hk => ?_
    controls := fun x hx hk => ?_
    marked := fun x hx x' hx' => ?_
    unmarked := fun x hx x' hx' => ?_
    fresh := fun x' hx' => ?_
    unique := ?_
    questions := h.questions }
  · obtain ⟨s', hs', hkey, ht, he⟩ := h.sections s hs hk
    obtain ⟨s₀, -, rfl⟩ := List.mem_map.1 hs
    refine ⟨s'.jsonb, List.mem_map_of_mem hs', hkey, ht, ?_⟩
    show s'.evidence.map EvidenceLink.jsonb = s₀.evidence.map EvidenceLink.jsonb
    rw [he]
    exact hl s₀.evidence
  · obtain ⟨x', hx', hid, ht, hst, hr, he⟩ := h.controls x hx hk
    obtain ⟨x₀, -, rfl⟩ := List.mem_map.1 hx
    refine ⟨x'.jsonb, List.mem_map_of_mem hx', hid, ht, hst, hr, ?_⟩
    show x'.evidence.map EvidenceLink.jsonb = x₀.evidence.map EvidenceLink.jsonb
    rw [he]
    exact hl x₀.evidence
  · obtain ⟨y, hy, rfl⟩ := List.mem_map.1 hx'
    exact h.marked x hx y hy
  · obtain ⟨y, hy, rfl⟩ := List.mem_map.1 hx'
    exact h.unmarked x hx y hy
  · obtain ⟨y, hy, rfl⟩ := List.mem_map.1 hx'
    exact h.fresh y hy
  · show ((c.sections.map SectionContent.jsonb).map SectionContent.key).Nodup ∧
      ((c.controls.map ControlContent.jsonb).map ControlContent.controlId).Nodup
    rw [List.map_map, List.map_map]
    exact h.unique

end

/-! ## Every migration of every run -/

/-- the SELECTs of a session see the tables as they were at some moments of the run -/
def SeesRun (env : Env) (db : Db) (as : List Action) (views : Views) : Prop :=
  ∀ n, ∃ bs cs, as = bs ++ cs ∧ views n = (runFrom env db bs).db

theorem SeesRun.grows {env : Env} {db : Db} {as : List Action} {views : Views} (h : db.Initial)
    (hv : SeesRun env db as views) (n : Nat) : Grows (views n) (runFrom env db as).db := by
  obtain ⟨bs, cs, rfl, hn⟩ := hv n
  rw [hn, runFrom_append]
  exact run_grows (runFrom_inv env h bs) cs

theorem Saved.revision? {r : Request} {content : RevisionContent} {seen : RevisionState} {db db' : Db}
    (h : Saved r content seen db db') :
    db'.revision? r.revisionId = some (savedRow db r (some r.expectedRevisionId) content) := by
  rw [Db.revision?, h.revisions, List.find?_append, find?_demoted, h.fresh, Option.map_none, Option.none_or,
    List.find?_singleton]
  exact if_pos (decide_eq_true rfl)

/-- **Carry-over.** A migration in any state of any run: between the resolved profile of the workspace and the one asked
for, at any level, and with or without a confirmed categorization. -/
theorem migrateWorkspaceProfile_carriedOver (env : Env) {db : Db} (h : db.Initial) (as : List Action) {views : Views}
    (hv : SeesRun env db as views) {held : Option WorkspaceRow} {profileVersionId expected revisionId : Uuid}
    {level : String} {categorization : Option (List FactContent)} {actor : Principal} {saved : RevisionRow}
    {diff : ProfileDiff} {db' : Db}
    (hc : ∀ facts ∈ categorization, ∃ i, facts = buildConfirmedCategorizationFacts i)
    (hm : migrateWorkspaceProfile env.host views held profileVersionId level expected categorization actor revisionId
      (runFrom env db as).db = (.ok (saved, diff), db')) :
    ∃ w current base old new newRow stored c,
      (runFrom env db as).db.revision? expected = some current ∧ current.load = .ok base ∧
      Migrates w (runFrom env db as).db base profileVersionId level old new newRow ∧
      db'.revision? saved.revisionId = some stored ∧ stored.load = .ok c ∧
      CarriedOver base c old new ∧ DescribesBaselines old new diff := by
  have hdb := (runFrom_inv env h as).tables
  generalize hcur : (runFrom env db as).db = cur at hm hdb ⊢
  simp only [migrateWorkspaceProfile, Txn.bind_ok, Txn.lift_eq, Txn.require_ok, Txn.get_eq] at hm
  obtain ⟨current, _, ⟨hread, rfl⟩, w, _, hlock, _, _, ⟨hexp, rfl⟩, d, _, ⟨hd, rfl⟩, plan, _, ⟨hplan, rfl⟩, hm⟩ := hm
  obtain ⟨rfl, w₀, hw₀, rfl⟩ := lockWorkspace_ok hlock
  obtain rfl := Except.ok.inj hd
  have hread : (views 1).revision? expected = some current := (loadExactCurrentRevision_ok.1 hread.symm).2
  obtain ⟨hload, hmig⟩ := planMigration_ok hplan.symm
  obtain ⟨row, hrow, hsameLoad, -⟩ := (hcur ▸ hv.grows h 1).load hread
  have hbase : row.load = .ok plan.content := hsameLoad.trans hload
  obtain ⟨c₀, hc₀⟩ := hdb.stored row (List.mem_of_find?_eq_some hrow)
  have hstored : plan.content = c₀.jsonb := Except.ok.inj (hbase.symm.trans hc₀.load)
  have hvalid : plan.content.Valid := hstored ▸ RevisionContent.jsonb_valid.2 hc₀.valid
  obtain ⟨oldRow, hfound, hro⟩ := hmig.resolvedOld
  have hold : oldRow ∈ d.profiles := List.mem_of_find?_eq_some hfound
  have hnew : plan.newRow ∈ d.profiles := List.mem_of_find?_eq_some hmig.found.1
  have hro := (resolveStoredProfile_spec hro).2
  have hrn := (resolveStoredProfile_spec hmig.resolvedNew).2
  have hwf := (hdb.profiles.rows _ hnew).1
  split_ifs at hm with hsame
  · -- nothing to do: the workspace is there already
    obtain ⟨hres, rfl⟩ := Txn.pure_ok.1 hm
    obtain ⟨rfl, rfl⟩ := Prod.mk.inj (Except.ok.inj hres)
    have hid : saved.revisionId = expected := Db.revision?_id hread
    obtain rfl : oldRow = plan.newRow := by
      have hf := hmig.found.1
      rw [← hsame.2.1, hfound] at hf
      exact Option.some.inj hf
    have hcontrols : plan.old.controlIds = plan.new.controlIds := by
      have ho := hro.controlIds
      rw [hsame.2.2, hrn.controlIds] at ho
      exact (Except.ok.inj ho).symm
    refine ⟨_, row, plan.content, plan.old, plan.new, plan.newRow, row, plan.content, hrow, hbase, hmig, hid ▸ hrow,
      hbase, carriedOver_refl hvalid.unique (hro.not_changedForReview hrn hwf) hcontrols ?_,
      (impactProfileDiff_describes hro hrn hwf).1⟩
    rw [ResolvedProfile.itemIds, ResolvedProfile.itemIds, hro.items, hrn.items]
  · simp only [Txn.bind_ok, Txn.lift_eq, saveEditedRevision, Txn.pure_ok] at hm
    obtain ⟨diff, _, ⟨hdiff, rfl⟩, content, _, ⟨hcontent, rfl⟩, _, db₁, hset, saved, _, hsave, hres, rfl⟩ := hm
    obtain ⟨rfl, rfl⟩ := Prod.mk.inj (Except.ok.inj hres)
    have happ : (Edit.migrate plan.old plan.new plan.newRow level categorization).apply env.host plan.content =
        .ok content := by
      simp only [Edit.apply, bind_eq_ok]
      exact ⟨diff, hdiff.symm, hcontent.symm⟩
    obtain ⟨hq, -⟩ := setProfileVersion_eq hw₀ hset
    obtain ⟨cur₁, -, -, -, -, -, hid, hsaved, -⟩ := saved_of_saveRevision
      (r := ⟨.migrate profileVersionId level, actor, true, expected, revisionId, 0⟩) hq hsave
    have hdesc : ∀ diff, migrationDiff plan.old plan.new plan.newRow = .ok diff → Describes plan.old plan.new diff :=
      fun diff hdiff => migrationDiff_describes hdb.profiles hold hnew hro hrn hmig.sameProfile hdiff
    have hitems : plan.new.itemIds.Nodup := by
      rw [ResolvedProfile.itemIds, hrn.items]
      exact hwf.items
    have hcarried := carriedOver_of_apply hvalid.unique hdesc hitems (hrn.distinct_controls hwf) happ
    obtain ⟨diff', -, hmigrated⟩ := migrated_of_apply hvalid.unique happ
    have hcontent : content.Valid := hmigrated.valid hvalid hrn hwf hc hsaved.materialized
    refine ⟨_, row, plan.content, plan.old, plan.new, plan.newRow, _, content.jsonb, hrow, hbase, hmig,
      hid ▸ hsaved.revision?, (storedAs_savedRow hcontent).load, ?_, (hdesc _ hdiff.symm).1⟩
    rw [hstored] at hcarried ⊢
    exact hcarried.jsonb

namespace Small

def catalog (policy : String) : List ProfileControl :=
  [⟨"AC-1", "Policy", policy⟩, ⟨"AC-2", "Accounts", "Manage accounts."⟩, ⟨"AC-3", "Access", "Enforce access."⟩]

def firstBundle : ProfileBundle :=
  { bundle "1" with
    catalogControls := catalog "Write a policy."
    lowControlIds := ["AC-1", "AC-2"], moderateControlIds := ["AC-1", "AC-2"], highControlIds := ["AC-1", "AC-2"] }

/-- the next version asks for more in `AC-1`, and has `AC-3` in place of `AC-2` -/
def secondBundle : ProfileBundle :=
  { bundle "2" with
    catalogControls := catalog "Write a policy and review it."
    lowControlIds := ["AC-1", "AC-3"], moderateControlIds := ["AC-1", "AC-3"], highControlIds := ["AC-1", "AC-3"] }

def versions : Db where
  profiles := [⟨.ofNat 1, "agency", "1", .active, firstBundle⟩, ⟨.ofNat 2, "agency", "2", .inactive, secondBundle⟩]
  system := ⟨"System", none⟩

theorem versions_initial : versions.Initial where
  profiles := {
    ids := by decide
    versions := by decide
    rows := by
      have hfirst : firstBundle.WellFormed := {
        catalog := by decide
        baselines := by decide
        controlTitles := by decide
        items := by decide
        itemIds := by decide
        itemTitles := by decide }
      have hsecond : secondBundle.WellFormed := {
        catalog := by decide
        baselines := by decide
        controlTitles := by decide
        items := by decide
        itemIds := by decide
        itemTitles := by decide }
      intro p hp
      simp only [versions, List.mem_cons, List.not_mem_nil, or_false] at hp
      rcases hp with rfl | rfl
      · exact ⟨hfirst, rfl, rfl⟩
      · exact ⟨hsecond, rfl, rfl⟩ }
  workspace := rfl
  revisions := rfl
  artifacts := rfl
  patches := rfl
  approvals := rfl

/-- questions of the model about both controls -/
def asked : GenerationResult where
  sections := []
  controls := []
  questions := [⟨"q1", .control, "AC-1", "Who reviews the policy?", "isso"⟩,
    ⟨"q2", .control, "AC-2", "Who manages the accounts?", "isso"⟩]

/-- the confirmed categorization, an open question about each control, a statement and a section that the ISSO wrote, and
the second version of the profile active in place of the first -/
def reversioned : List Action :=
  categorized ++ whole (ask (.generate (.ok asked)) 102 103) ++
    whole (ask (.editControl "AC-1" "The policy is written." none none) 103 104) ++
    whole (ask (.editSection "system.data_types" "Mail") 104 105) ++ [.activateProfile (.ofNat 2)]

/-- the migration to the second version and another impact level -/
def migrated : Except Err (RevisionRow × ProfileDiff) × Db :=
  migrateWorkspaceProfile env.host (fun _ => (runFrom env versions reversioned).db) none (.ofNat 2) "moderate"
    (.ofNat 105) none isso (.ofNat 106) (runFrom env versions reversioned).db

theorem migrated_isOk : migrated.1.isOk = true := by
  decide +kernel

end Small

theorem migrateWorkspaceProfile_carriedOver_small : ∃ saved diff, Small.migrated.1 = .ok (saved, diff) ∧
    ∃ w current base old new newRow stored c,
      (runFrom Small.env Small.versions Small.reversioned).db.revision? (.ofNat 105) = some current ∧
      current.load = .ok base ∧
      Migrates w (runFrom Small.env Small.versions Small.reversioned).db base (.ofNat 2) "moderate" old new newRow ∧
      Small.migrated.2.revision? saved.revisionId = some stored ∧ stored.load = .ok c ∧
      CarriedOver base c old new ∧ DescribesBaselines old new diff := by
  have hall : ∀ res, Small.migrated = res → res.1.isOk = true → ∃ saved diff, res.1 = .ok (saved, diff) ∧
      ∃ w current base old new newRow stored c,
        (runFrom Small.env Small.versions Small.reversioned).db.revision? (.ofNat 105) = some current ∧
        current.load = .ok base ∧
        Migrates w (runFrom Small.env Small.versions Small.reversioned).db base (.ofNat 2) "moderate" old new newRow ∧
        res.2.revision? saved.revisionId = some stored ∧ stored.load = .ok c ∧
        CarriedOver base c old new ∧ DescribesBaselines old new diff := by
    rintro ⟨res, db'⟩ hm hres
    cases res with
    | error e => exact absurd hres Bool.false_ne_true
    | ok result =>
      unfold Small.migrated at hm
      exact ⟨result.1, result.2, rfl, migrateWorkspaceProfile_carriedOver Small.env Small.versions_initial
        Small.reversioned (fun _ => ⟨Small.reversioned, [], (List.append_nil _).symm, rfl⟩) (by simp) hm⟩
  exact hall _ rfl Small.migrated_isOk

end AtoService.Workspace
