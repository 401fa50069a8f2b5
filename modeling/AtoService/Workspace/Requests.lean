/-
Whole requests: `handle_effect` says in which of four ways a request leaves the tables.

A request is quiet, or saves one revision, or creates the workspace, or approves the current revision; an error response
commits what the operation wrote, so a quiet request may still have moved the profile of the workspace (`SameRevisions`).
What the database itself refuses is no error response of any route, and rolls back.
-/
import AtoService.Workspace.Effects

namespace AtoService.Workspace

/-! ## The first revision and the approval -/

/-- the tables after a request created the workspace with its first revision -/
structure Created (views : Views) (r : Request) (profileVersionId : Uuid) (level : Option String)
    (content : RevisionContent) (db db' : Db) : Prop where
  operation : r.operation = .create profileVersionId level
  resolved : ∃ row p, (views 1).profile? profileVersionId = some row ∧ row.status = .active ∧
    resolveStoredProfile row (workingImpactLevel level) = .ok p ∧ initialContent p (views 2).system level = .ok content
  absent : db.workspace = none
  fresh : db.revision? r.revisionId = none
  noneWorking : ∀ row ∈ db.revisions, row.status ≠ .working
  materialized : materializeRevision content = .ok ()
  evidence : ∀ id ∈ contentEvidenceIds content, id ∈ db.activeArtifactIds
  tables : db' = { db with
    workspace := some ⟨profileVersionId, some r.revisionId, .working⟩
    revisions := db.revisions ++ [savedRow db r none content] }

/-- the tables after a request approved the current revision -/
structure Approved (env : Env) (views : Views) (r : Request) (approvalSnapshotId : Uuid) (read : RevisionRow)
    (content : RevisionContent) (db db' : Db) : Prop where
  operation : r.operation = .approve approvalSnapshotId
  gate : approvalGate env.host env.fresh (views.after 1) r.expectedRevisionId = .ok read
  found : (views 1).revision? r.expectedRevisionId = some read
  readWorking : read.status = .working
  loaded : read.load = .ok content
  hash : revisionContentSha256 content = read.contentSha256
  workspace : ∃ w, db.workspace = some w ∧ w.status = .working ∧ w.currentRevisionId = some r.expectedRevisionId
  first : r.expectedRevisionId ∉ db.approvals.map ApprovalRow.revisionId
  tables : db' = { db.setRevisionStatus r.expectedRevisionId .approved with
    approvals := db.approvals ++ [⟨approvalSnapshotId, r.expectedRevisionId, revisionContentSha256 content,
      Py.strip r.principal.actorId, r.now⟩] }

section

variable {env : Env} {views : Views} {r : Request} {db db' : Db}

theorem discard_ok {α : Type} {x : Txn α} {u : Unit} :
    (discard x : Txn Unit) db = (.ok u, db') ↔ ∃ a, x db = (.ok a, db') := by
  simp only [txn_discard, Txn.bind_ok, Txn.pure_ok]
  constructor
  · rintro ⟨a, _, h, -, rfl⟩
    exact ⟨a, h⟩
  · rintro ⟨a, h⟩
    exact ⟨a, db', h, trivial, rfl⟩

theorem discard_error {α : Type} {x : Txn α} {e : Err} :
    (discard x : Txn Unit) db = (.error e, db') ↔ x db = (.error e, db') := by
  simp [txn_discard, Txn.bind_error]

theorem revision?_eq_none {id : Uuid} : db.revision? id = none ↔ id ∉ db.revisions.map RevisionRow.revisionId := by
  simp [Db.revision?, List.find?_eq_none]

theorem created_of_createInitializedWorkspace {profileVersionId : Uuid} {level : Option String}
    (hop : r.operation = .create profileVersionId level)
    (h : createInitializedWorkspace (views.after 1) profileVersionId level r.principal r.revisionId db = (.ok (), db')) :
    ∃ content, Created views r profileVersionId level content db db' := by
  simp only [createInitializedWorkspace, createWorkspace, Txn.bind_ok, Txn.lift_eq, Txn.require_ok, txn_discard, Txn.pure_ok,
    Txn.get_eq, Txn.modify_eq] at h
  obtain ⟨row, _, ⟨hrow, rfl⟩, _, _, ⟨hactive, rfl⟩, p, _, ⟨hp, rfl⟩, _, db₁, ⟨_, _, ⟨_, _, ⟨-, rfl⟩, d, _, ⟨hd, rfl⟩, _, _,
    ⟨-, rfl⟩, _, _, ⟨hnone, rfl⟩, _, _, ⟨-, rfl⟩, -, rfl⟩, -, rfl⟩, content, _, ⟨hcontent, rfl⟩, saved, _, hsave, -, rfl⟩ := h
  obtain rfl := Except.ok.inj hd
  have hfound : (views.after 1 0).profile? profileVersionId = some row := by
    cases hv : (views.after 1 0).profile? profileVersionId with
    | none => simp [hv] at hrow
    | some p =>
      rw [hv, Except.ok.injEq] at hrow
      rw [hrow]
  have hempty : d.workspace = none := by
    simp only [constraint] at hnone
    split_ifs at hnone with hn
    · simpa using hn
    · simp at hnone
  obtain ⟨w, current, hc, rfl, hr, hm, rfl⟩ := saveRevision_ok.1 hsave
  obtain ⟨stored, hstored, rfl⟩ := hc.stored
  obtain rfl := Option.some.inj hstored
  have hcur : current = none := by rw [hc.seen]; rfl
  subst hcur
  simp only [revisionRow, constraint, bind_eq_ok] at hr
  obtain ⟨_, _, _, _, _, hfresh, _, _, hwork⟩ := hr
  refine ⟨content, hop, ⟨row, p, hfound, hactive, hp.symm, hcontent.symm⟩, hempty, ?_, ?_, hm, hc.evidence, rfl⟩
  · split_ifs at hfresh with hf
    · exact Option.isNone_iff_eq_none.1 hf
    · simp at hfresh
  · split_ifs at hwork with hf
    · intro x hx hxs
      simp only [newRevision, decide_true, Bool.true_and, Bool.not_eq_true', List.any_eq_false, decide_eq_true_eq] at hf
      exact hf x hx hxs
    · simp at hwork

theorem reviewedRevision_ok {id : Uuid} {read : RevisionRow} :
    reviewedRevision db id = .ok read ↔ db.revision? id = some read := by
  unfold reviewedRevision
  cases db.revision? id <;> simp

theorem approvalGate_read {revisionId : Uuid} {read : RevisionRow}
    (h : approvalGate env.host env.fresh views revisionId = .ok read) : (views 0).revision? revisionId = some read := by
  simp only [approvalGate, bind_eq_ok, ensure_eq_ok, pure_eq_ok] at h
  obtain ⟨read', hread, _, _, _, _, _, _, _, _, _, _, _, _, _, _, _, _, rfl⟩ := h
  exact reviewedRevision_ok.1 hread

theorem approved_of_approveWorkspaceRevision {approvalSnapshotId : Uuid} {approval : ApprovalRow}
    (hop : r.operation = .approve approvalSnapshotId)
    (h : approveWorkspaceRevision env.host env.fresh (views.after 1) r.expectedRevisionId r.principal r.now
      approvalSnapshotId db = (.ok approval, db')) :
    ∃ read content, Approved env views r approvalSnapshotId read content db db' := by
  simp only [approveWorkspaceRevision, Txn.bind_ok, Txn.lift_eq] at h
  obtain ⟨read, _, ⟨hgate, rfl⟩, h⟩ := h
  have hread : (views 1).revision? r.expectedRevisionId = some read := approvalGate_read hgate.symm
  obtain ⟨w, revision, content, hw, hs, hc, hseen, hstatus, hload, hhash, rfl, hfirst, rfl⟩ := approveCurrentRevision_ok h
  have hsame : revision = read := by
    rw [Held.seen, Option.map_eq_some_iff] at hseen
    obtain ⟨x, -, hx⟩ := hseen
    rw [← hx]
    simp [Option.filter, Db.revision?_id hread]
  subst hsame
  exact ⟨revision, content, hop, hgate.symm, hread, hstatus, hload, hhash, ⟨w, hw, hs, hc⟩, hfirst, rfl⟩

end

/-! ## Requests -/

/-- the ways in which a request leaves the tables -/
inductive Effect (env : Env) (views : Views) (r : Request) (db db' : Db) : Prop where
  | quiet (h : SameRevisions db db')
  | saved {e : Edit} {base content : RevisionContent} {w : WorkspaceRow} {seen : RevisionState}
      (h : Saves env views r db db' e base content w seen)
  | created {profileVersionId : Uuid} {level : Option String} {content : RevisionContent}
      (h : Created views r profileVersionId level content db db')
  | approved {approvalSnapshotId : Uuid} {read : RevisionRow} {content : RevisionContent}
      (h : Approved env views r approvalSnapshotId read content db db')

section

variable {env : Env} {views : Views} {r : Request} {db db' : Db}

theorem sameRevisions_of_proposeAgentPatch {vs : Views} {expected patchId : Uuid} {execution : Except Err PatchResult}
    (h : proposeAgentPatch vs expected execution patchId db = (.ok (), db')) : SameRevisions db db' := by
  simp only [proposeAgentPatch, Txn.bind_ok, Txn.lift_eq, txn_discard, Txn.pure_ok, Txn.get_eq, Txn.modify_eq] at h
  obtain ⟨_, _, ⟨_, _, ⟨-, rfl⟩, -, rfl⟩, _, _, ⟨-, rfl⟩, _, _, ⟨_, _, ⟨-, rfl⟩, -, rfl⟩, _, _, ⟨_, _, ⟨-, rfl⟩, -, rfl⟩,
    _, _, ⟨-, rfl⟩, _, _, ⟨-, rfl⟩, _, _, ⟨-, rfl⟩, -, rfl⟩ := h
  exact sameRevisions_patches _ _

theorem sameRevisions_of_rejectProposedPatch {patchId : Uuid} (h : rejectProposedPatch patchId db = (.ok (), db')) :
    SameRevisions db db' := by
  simp only [rejectProposedPatch, Txn.bind_ok, Txn.require_ok, Txn.modify_eq] at h
  obtain ⟨_, _, hload, _, _, ⟨-, rfl⟩, -, rfl⟩ := h
  obtain rfl := (readOnly_loadPatchForUpdate _).eq hload
  exact sameRevisions_patches _ _

/-- an operation that succeeded -/
theorem effect_of_perform (hv : ∀ n, Grows (views n) db)
    (hstored : ∀ id row, db.revision? id = some row → ∃ c, row.load = .ok c)
    (h : perform env (views.after 1) r db = (.ok (), db')) : Effect env views r db db' := by
  unfold perform at h
  cases hop : r.operation with
  | create profileVersionId level =>
    simp only [hop] at h
    obtain ⟨_, hc⟩ := created_of_createInitializedWorkspace hop h
    exact .created hc
  | editSection sectionKey text =>
    simp only [hop] at h
    obtain ⟨_, h⟩ := discard_ok.1 h
    obtain ⟨_, _, _, _, hs⟩ := saves_editSection hop hv h
    exact .saved hs
  | editControl controlId statement status responsibility =>
    simp only [hop] at h
    obtain ⟨_, h⟩ := discard_ok.1 h
    obtain ⟨_, _, _, _, hs⟩ := saves_editControl hop hv h
    exact .saved hs
  | answer questionId text =>
    simp only [hop] at h
    obtain ⟨_, h⟩ := discard_ok.1 h
    obtain ⟨_, _, _, _, hs⟩ := saves_answer hop hv h
    exact .saved hs
  | generate execution =>
    simp only [hop] at h
    obtain ⟨_, h⟩ := discard_ok.1 h
    obtain ⟨_, _, _, _, _, -, hs⟩ := saves_generate hop hv h
    exact .saved hs
  | analyzeCategorization execution =>
    simp only [hop] at h
    obtain ⟨_, h⟩ := discard_ok.1 h
    obtain ⟨_, _, _, _, _, hs⟩ := saves_analyzeCategorization hop hv h
    exact .saved hs
  | proposePatch execution patchId =>
    simp only [hop] at h
    exact .quiet (sameRevisions_of_proposeAgentPatch h)
  | applyPatch patchId =>
    simp only [hop] at h
    obtain ⟨_, _, _, _, _, _, hs⟩ := saves_applyPatch hop hv h
    exact .saved hs
  | rejectPatch patchId =>
    simp only [hop] at h
    exact .quiet (sameRevisions_of_rejectProposedPatch h)
  | approve approvalSnapshotId =>
    simp only [hop] at h
    obtain ⟨_, h⟩ := discard_ok.1 h
    obtain ⟨_, _, ha⟩ := approved_of_approveWorkspaceRevision hop h
    exact .approved ha
  | restore revisionId =>
    simp only [hop] at h
    obtain ⟨_, h⟩ := discard_ok.1 h
    obtain ⟨_, _, _, _, hs⟩ := saves_restore hop hv hstored h
    exact .saved hs
  | migrate profileVersionId level =>
    simp only [hop] at h
    obtain ⟨_, h⟩ := discard_ok.1 h
    rcases saves_migrate hop hv h with rfl | ⟨_, _, _, _, _, _, _, hs⟩
    · exact .quiet (SameRevisions.refl _)
    · exact .saved hs
  | categorize form =>
    simp only [hop] at h
    obtain ⟨_, h⟩ := discard_ok.1 h
    obtain ⟨_, _, _, _, _, _, _, _, -, hs⟩ := saves_categorize hop hv h
    exact .saved hs
  | defineSystem input =>
    simp only [hop] at h
    obtain ⟨_, h⟩ := discard_ok.1 h
    obtain ⟨_, _, _, _, hs⟩ := saves_defineSystem hop hv h
    exact .saved hs
  | analyzeDiagram artifactId pageNumber execution =>
    simp only [hop] at h
    obtain ⟨_, h⟩ := discard_ok.1 h
    obtain ⟨_, _, _, _, _, _, hs⟩ := saves_analyzeDiagram hop hv h
    exact .saved hs
  | mapInformationTypes mappings =>
    simp only [hop] at h
    obtain ⟨_, h⟩ := discard_ok.1 h
    obtain ⟨_, _, _, _, hs⟩ := saves_mapInformationTypes hop hv h
    exact .saved hs
  | ingest file artifactId =>
    simp only [hop] at h
    rcases saves_ingest hop h with hq | ⟨_, _, _, _, _, hs⟩
    · exact .quiet hq
    · exact .saved hs
  | remove artifactId =>
    simp only [hop] at h
    obtain ⟨_, _, _, _, hs⟩ := saves_remove hop h
    exact .saved hs

/-! ## The first content -/

theorem mapM_validated {α β : Type} {firstError : β → Option String} {f : α → β} {xs : List α} {ys : List β}
    (h : xs.mapM (fun x => validated firstError (f x)) = .ok ys) : ys = xs.map f ∧ ∀ y ∈ ys, firstError y = none := by
  replace h := mapM_eq_ok.1 h
  induction h with
  | nil => exact ⟨rfl, by simp⟩
  | @cons x y xs ys hxy _ ih =>
    obtain ⟨rfl, hv⟩ := validated_eq_ok.1 hxy
    exact ⟨by rw [List.map_cons, ih.1], List.forall_mem_cons.2 ⟨hv, ih.2⟩⟩

/-- the facts of the first revision -/
def initialFacts (profile : ResolvedProfile) (system : SystemRow) (level : Option String) : List FactContent :=
  [.isso "profile_id" (.str profile.profileId), .isso "profile_version" (.str profile.profileVersion),
    .isso "system.name" (.str system.displayName),
    .isso (if level.isSome then "system.impact_level" else "system.provisional_impact_level")
      (.str (workingImpactLevel level))] ++
    match system.externalSystemId with
    | none | some "" => []
    | some s => [FactContent.isso "system.identifier" (.str s)]

theorem initialContent_ok {profile : ResolvedProfile} {system : SystemRow} {level : Option String} {c : RevisionContent}
    (h : initialContent profile system level = .ok c) : c.Valid ∧ c = {
      facts := initialFacts profile system level
      sections := profile.sspRequiredItems.map fun i =>
        { key := i.itemId, title := i.title, content := "", state := .empty }
      controls := profile.controls.map fun x => {
        controlId := x.controlId
        title := x.title
        implementationStatus := some "unknown"
        responsibility := some "unknown"
        state := .empty } } := by
  simp only [initialContent, bind_eq_ok] at h
  obtain ⟨facts, hf, sections, hs, controls, hx, h⟩ := h
  obtain ⟨rfl, hv⟩ := validated_eq_ok.1 h
  refine ⟨hv, ?_⟩
  rw [(mapM_validated (f := fun f => f) hf).1, (mapM_validated hs).1, (mapM_validated hx).1, List.map_id']
  rfl

theorem isso_of_mem_initialFacts {profile : ResolvedProfile} {system : SystemRow} {level : Option String} {f : FactContent}
    (h : f ∈ initialFacts profile system level) : f = .isso f.key f.value := by
  unfold initialFacts at h
  rcases List.mem_append.1 h with h | h
  · simp only [List.mem_cons, List.not_mem_nil, or_false] at h
    rcases h with rfl | rfl | rfl | rfl <;> rfl
  · split at h
    · simp at h
    · simp at h
    · rw [List.mem_singleton.1 h]
      rfl

theorem contentEvidenceIds_initial {profile : ResolvedProfile} {system : SystemRow} {level : Option String}
    {c : RevisionContent} (h : initialContent profile system level = .ok c) : contentEvidenceIds c = [] := by
  have hfacts : (initialFacts profile system level).flatMap FactContent.evidence = [] := by
    rw [List.flatMap_eq_nil_iff]
    intro f hf
    rw [isso_of_mem_initialFacts hf]
    rfl
  rw [(initialContent_ok h).2]
  simp [contentEvidenceIds, hfacts, List.flatMap_map]

/-! ## Refused requests -/

theorem raises_validatedMapM {α β : Type} {firstError : β → Option String} {f : α → β} {xs : List α} :
    Raises (· = .validation) (xs.mapM fun x => validated firstError (f x)) :=
  raises_mapM fun x _ => raises_validated firstError (f x)

theorem raises_initialContent (profile : ResolvedProfile) (system : SystemRow) (level : Option String) :
    Raises (· = .validation) (initialContent profile system level) := by
  refine raises_bind (raises_validatedMapM (f := fun f => f)) fun _ => raises_bind raises_validatedMapM fun _ =>
    raises_bind raises_validatedMapM fun _ => ?_
  intro e he
  unfold validated at he
  split at he
  · cases he
    rfl
  · cases he

theorem hasText_actorId (p : Principal) : Py.hasText p.actorId = true :=
  Py.hasText_of_ne (by rw [p.stripped]; exact p.nonempty)

theorem error_readOnly_bind {α β : Type} {x : Txn α} {f : α → Txn β} {e : Err} (hx : Txn.ReadOnly x)
    (h : (x >>= f) db = (.error e, db')) : db' = db ∨ ∃ a, x db = (.ok a, db) ∧ f a db = (.error e, db') := by
  rcases Txn.bind_error.1 h with h | ⟨a, db₁, h₁, h₂⟩
  · exact Or.inl (hx.eq h)
  · obtain rfl := hx.eq h₁
    exact Or.inr ⟨a, h₁, h₂⟩

/-- a save of content without evidence over no revision is refused by the database only -/
theorem saveRevision_first_error {content : RevisionContent} {actor : Principal} {newId : Uuid} {e : Err} {p : Uuid}
    (hw : db.workspace = some ⟨p, none, .working⟩) (hc : contentEvidenceIds content = [])
    (h : saveRevision {} content actor.actorId none newId db = (.error e, db')) : isDatabaseError e.cls := by
  have hlock : lockForSave {} content actor.actorId none db = (.ok (⟨p, none, .working⟩, none), db) :=
    lockForSave_ok.2 ⟨rfl, {
      author := hasText_actorId actor
      stored := ⟨_, hw, rfl⟩
      working := rfl
      parent := rfl
      seen := rfl
      found := by simp
      notSuperseded := by simp
      evidence := by simp [hc] }⟩
  rcases saveRevision_error_cases h with ⟨h', -⟩ | h'
  · rw [hlock] at h'
    simp at h'
  · exact h'

/-- what a refused creation leaves: nothing, unless an error was raised that its route does not catch -/
theorem createInitializedWorkspace_error {vs : Views} {profileVersionId : Uuid} {level : Option String} {actor : Principal}
    {newId : Uuid} {e : Err}
    (h : createInitializedWorkspace vs profileVersionId level actor newId db = (.error e, db')) :
    db' = db ∨ isDatabaseError e.cls ∨ e.cls = .validation := by
  rcases error_readOnly_bind (Txn.readOnly_lift _) h with h | ⟨row, -, h⟩
  · exact Or.inl h
  rcases error_readOnly_bind (Txn.readOnly_require _ _ _) h with h | ⟨_, -, h⟩
  · exact Or.inl h
  rcases error_readOnly_bind (Txn.readOnly_lift _) h with h | ⟨profile, -, h⟩
  · exact Or.inl h
  rcases Txn.bind_error.1 h with h | ⟨_, db₁, hcreate, h⟩
  · rcases error_readOnly_bind (Txn.readOnly_require _ _ _) (discard_error.1 h) with h | ⟨_, -, h⟩
    · exact Or.inl h
    rcases error_readOnly_bind Txn.readOnly_get h with h | ⟨_, -, h⟩
    · exact Or.inl h
    rcases error_readOnly_bind (Txn.readOnly_require _ _ _) h with h | ⟨_, -, h⟩
    · exact Or.inl h
    rcases error_readOnly_bind (Txn.readOnly_lift _) h with h | ⟨_, -, h⟩
    · exact Or.inl h
    · simp [Txn.bind_error] at h
  · rcases Txn.bind_error.1 h with h | ⟨content, db₂, hlift, hsave⟩
    · exact Or.inr (Or.inr (raises_initialContent _ _ _ e (Txn.lift_eq.1 h).1.symm))
    · obtain ⟨hcontent, rfl⟩ := Txn.lift_eq.1 hlift
      refine Or.inr (Or.inl (saveRevision_first_error (p := profileVersionId) ?_
        (contentEvidenceIds_initial hcontent.symm) (discard_error.1 hsave)))
      obtain ⟨_, hcreate⟩ := discard_ok.1 hcreate
      simp only [createWorkspace, Txn.bind_ok, Txn.pure_ok, Txn.modify_eq] at hcreate
      obtain ⟨_, _, -, _, _, -, _, _, -, _, _, -, _, _, ⟨-, rfl⟩, -, rfl⟩ := hcreate
      rfl

/-- what the database refuses once the status of the revision is set -/
theorem errs_insertApproval {R : Db → Db → Prop} (revisionId approvalSnapshotId : Uuid) (approval : ApprovalRow) :
    Errs R (do
      Txn.modify fun db => db.setRevisionStatus revisionId .approved
      let db ← Txn.get
      Txn.lift (constraint (decide (approvalSnapshotId ∉ db.approvals.map ApprovalRow.approvalSnapshotId))
        "ssp_approval_snapshots_pkey")
      Txn.lift (constraint (decide (revisionId ∉ db.approvals.map ApprovalRow.revisionId))
        "ssp_approval_snapshots_revision_id_key")
      Txn.modify fun db => { db with approvals := db.approvals ++ [approval] }
      return approval) := by
  intro db e db' h
  have hlift : ∀ {holds : Bool} {name : String} {d d' : Db}, Txn.lift (constraint holds name) d = (.error e, d') →
      isDatabaseError e.cls := fun hl => raises_constraint _ _ e (Txn.lift_eq.1 hl).1.symm
  rcases Txn.bind_error.1 h with h | ⟨_, _, -, h⟩
  · simp at h
  rcases Txn.bind_error.1 h with h | ⟨_, _, -, h⟩
  · simp at h
  rcases Txn.bind_error.1 h with h | ⟨_, _, -, h⟩
  · exact Or.inr (hlift h)
  rcases Txn.bind_error.1 h with h | ⟨_, _, -, h⟩
  · exact Or.inr (hlift h)
  · simp [Txn.bind_error] at h

theorem errs_approveCurrentRevision {R : Db → Db → Prop} (hr : ∀ db, R db db) (held : Held) (revisionId : Uuid)
    (approvedBy : String) (now : Nat) (approvalSnapshotId : Uuid) :
    Errs R (approveCurrentRevision held revisionId approvedBy now approvalSnapshotId) := by
  refine errs_require_bind hr fun _ => errs_readOnly_bind hr (readOnly_loadWorkspaceForUpdate _) fun _ =>
    errs_require_bind hr fun _ => errs_require_bind hr fun _ =>
      errs_readOnly_bind hr (readOnly_lockRevision _ _) fun row => ?_
  cases row with
  | none => exact errs_lift hr _
  | some revision =>
    exact errs_require_bind hr fun _ => errs_lift_bind hr fun _ => errs_require_bind hr fun _ => errs_insertApproval _ _ _

/-- an operation that raised an error which its route may turn into a response -/
theorem sameRevisions_of_perform_error {vs : Views} {e : Err} (h : perform env vs r db = (.error e, db')) :
    SameRevisions db db' ∨ isDatabaseError e.cls ∨ r.operation.catches e.cls = false := by
  have hr := SameRevisions.refl
  have ht : ∀ u v w, SameRevisions u v → SameRevisions v w → SameRevisions u w := fun _ _ _ => SameRevisions.trans
  have hset : ∀ db id, SameRevisions db (Db.repoint db id) := sameRevisions_repoint
  have hpatch : ∀ db : Db, ∀ patches, SameRevisions db { db with patches } := sameRevisions_patches
  have hart : ∀ db a, SameRevisions db (Db.setRemovedAt db a none) := fun db a =>
    sameRevisions_artifacts (activeArtifactIds_kept db a)
  have hadd : ∀ (db : Db) a, SameRevisions db { db with artifacts := db.artifacts ++ [a] } := fun db a => by
    refine sameRevisions_artifacts fun id hid => ?_
    obtain ⟨x, hx, rfl⟩ := List.mem_map.1 hid
    obtain ⟨hm, hrm⟩ := List.mem_filter.1 hx
    exact List.mem_map_of_mem (List.mem_filter.2 ⟨List.mem_append_left _ hm, hrm⟩)
  have hcases : ∀ {x : Txn Unit}, Errs SameRevisions x → x db = (.error e, db') →
      SameRevisions db db' ∨ isDatabaseError e.cls ∨ r.operation.catches e.cls = false := fun hx h =>
    (hx _ _ _ h).imp id Or.inl
  unfold perform at h
  cases hop : r.operation with
  | create profileVersionId level =>
    simp only [hop] at h
    rcases createInitializedWorkspace_error h with rfl | h | h
    · exact Or.inl (hr _)
    · exact Or.inr (Or.inl h)
    · refine Or.inr (Or.inr ?_)
      rw [h]
      rfl
  | editSection sectionKey text =>
    simp only [hop] at h hcases
    exact hcases (errs_discard (errs_saveSectionEdit hr _ _ _ _ _ _ _ _)) h
  | editControl controlId statement status responsibility =>
    simp only [hop] at h hcases
    exact hcases (errs_discard (errs_saveControlEdit hr _ _ _ _ _ _ _ _)) h
  | answer questionId text =>
    simp only [hop] at h hcases
    exact hcases (errs_discard (errs_saveQuestionAnswer hr _ _ _ _ _ _)) h
  | generate execution =>
    simp only [hop] at h hcases
    exact hcases (errs_discard (errs_generateWorkspaceDraft hr _ _ _ _ _ _)) h
  | analyzeCategorization execution =>
    simp only [hop] at h hcases
    exact hcases (errs_discard (errs_analyzeWorkspaceCategorization hr _ _ _ _ _ _)) h
  | proposePatch execution patchId =>
    simp only [hop] at h hcases
    exact hcases (errs_proposeAgentPatch hr _ _ _ _) h
  | applyPatch patchId =>
    simp only [hop] at h hcases
    exact hcases (errs_applyProposedPatch hr hpatch _ _ _ _ _ _ _) h
  | rejectPatch patchId =>
    simp only [hop] at h hcases
    exact hcases (errs_rejectProposedPatch hr _) h
  | approve approvalSnapshotId =>
    simp only [hop] at h hcases
    exact hcases (errs_discard (errs_lift_bind hr fun _ => errs_approveCurrentRevision hr _ _ _ _ _)) h
  | restore revisionId =>
    simp only [hop] at h hcases
    exact hcases (errs_discard (errs_restoreWorkspaceRevision hr ht hset _ _ _ _ _)) h
  | migrate profileVersionId level =>
    simp only [hop] at h hcases
    exact hcases (errs_discard (errs_migrateWorkspaceProfile hr ht hset _ _ _ _ _ _ _ _ _)) h
  | categorize form =>
    simp only [hop] at h hcases
    exact hcases (errs_discard (errs_saveSystemCategorization hr ht hset _ _ _ _ _ _)) h
  | defineSystem input =>
    simp only [hop] at h hcases
    exact hcases (errs_discard (errs_saveSystemDefinition hr _ _ _ _ _)) h
  | analyzeDiagram artifactId pageNumber execution =>
    simp only [hop] at h hcases
    exact hcases (errs_discard (errs_analyzeWorkspaceDiagram hr _ _ _ _ _ _ _)) h
  | mapInformationTypes mappings =>
    simp only [hop] at h hcases
    exact hcases (errs_discard (errs_saveInformationTypes hr _ _ _ _ _)) h
  | ingest file artifactId =>
    simp only [hop] at h hcases
    exact hcases (errs_ingestWorkspaceEvidence hr ht hart hadd _ _ _ _ _ _ _ _) h
  | remove artifactId =>
    simp only [hop] at h hcases
    exact hcases (errs_removeWorkspaceEvidence hr _ _ _ _ _) h

/-- no route answers for the database -/
theorem catches_databaseError {o : Operation} {cls : ErrClass} (h : isDatabaseError cls) : o.catches cls = false := by
  rcases h with rfl | rfl <;> cases o <;> rfl

theorem readOnly_authorize (view : Db) : Txn.ReadOnly (Txn.lift (authorize view r)) := Txn.readOnly_lift _

theorem readOnly_envelope {answers : Bool} : Txn.ReadOnly (if answers then do
    let db ← Txn.get
    discard (Txn.lift (loadWorkspaceEnvelope env.host env.fresh fun _ => db))
  else pure () : Txn Unit) := by
  cases answers with
  | false => exact Txn.readOnly_pure _
  | true =>
    exact Txn.readOnly_bind Txn.readOnly_get fun _ =>
      Txn.readOnly_bind (Txn.readOnly_lift _) fun _ => Txn.readOnly_pure _

/-- **What one request does to the tables**, whatever it answers. -/
theorem handle_effect {res : Response} (hv : ∀ n, Grows (views n) db)
    (hstored : ∀ id row, db.revision? id = some row → ∃ c, row.load = .ok c)
    (h : handle env views r db = (res, db')) : Effect env views r db db' := by
  unfold handle at h
  rcases hroute : route env views r db with ⟨e | u, db₁⟩
  · simp only [hroute] at h
    split_ifs at h with hcatch
    · obtain ⟨-, rfl⟩ := Prod.mk.inj h
      rcases error_readOnly_bind (readOnly_authorize _) hroute with rfl | ⟨_, -, hbody⟩
      · exact .quiet (SameRevisions.refl _)
      rcases Txn.bind_error.1 hbody with herr | ⟨_, db₂, hok, henv⟩
      · rcases sameRevisions_of_perform_error herr with hq | hdb | hno
        · exact .quiet hq
        · rw [catches_databaseError hdb] at hcatch
          simp at hcatch
        · rw [hno] at hcatch
          simp at hcatch
      · obtain rfl := readOnly_envelope.eq henv
        exact effect_of_perform hv hstored hok
    · obtain ⟨-, rfl⟩ := Prod.mk.inj h
      exact .quiet (SameRevisions.refl _)
  · simp only [hroute] at h
    obtain ⟨-, rfl⟩ := Prod.mk.inj h
    obtain ⟨_, db₂, hauth, hbody⟩ := Txn.bind_ok.1 hroute
    obtain rfl := (readOnly_authorize _).eq hauth
    obtain ⟨_, db₃, hok, henv⟩ := Txn.bind_ok.1 hbody
    obtain rfl := readOnly_envelope.eq henv
    exact effect_of_perform hv hstored hok

end

end AtoService.Workspace
