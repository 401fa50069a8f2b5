/-
Decisions of export approvals, along every interleaving of requests.

- `Sound`, `writesOf_sound`: what a request may write, given the rows that it holds, also when it is refused.
- `Fresh`: the rows that a request writes or relies on are in the tables as it read them.
- `Inv`, `Follows`, `inv_step`: what holds of every state, and between a state and the next, when commits are fresh.
- `approvals_decided_once`: decisions stay and are made once, drafts move forward, and an export has its approval.
Witness `approval_decided_twice`: an approval and a rejection that read the same pending approval both succeed.
-/
import AtoService.Export.Approvals

namespace AtoService.Export

open AtoService.Results
open AtoService.Rows (written written_held)

/-! ## What a request may write -/

/-- the moves of an export draft -/
def Move : DraftStatus → DraftStatus → Prop
  | .draft, .pendingApproval => True
  | .pendingApproval, .approved => True
  | .approved, .exported => True
  | status, .rejected => status = .pendingApproval
  | status, .expired => status = .pendingApproval ∨ status = .approved
  | status, .superseded => supersedeable status = true
  | _, _ => False

/-- a rejected, expired, superseded or exported draft does not move -/
def Final (status : DraftStatus) : Prop :=
  status = .rejected ∨ status = .expired ∨ status = .superseded ∨ status = .exported

theorem Final.not_move {status status' : DraftStatus} (h : Final status) : ¬Move status status' := by
  rcases h with rfl | rfl | rfl | rfl <;> cases status' <;> simp [Move, supersedeable]

theorem Final.stays {status status' : DraftStatus} (h : Final status) (hmoves : Relation.ReflTransGen Move status status') :
    status' = status := by
  rcases Relation.ReflTransGen.cases_head hmoves with heq | ⟨_, hmove, -⟩
  · exact heq.symm
  · exact absurd hmove h.not_move

theorem move_superseded {status : DraftStatus} (h : supersedeable status = true) : Move status .superseded := by
  cases status <;> exact h

theorem move_expired {status : DraftStatus} (h : status = .pendingApproval ∨ status = .approved) : Move status .expired := by
  rcases h with rfl | rfl
  · exact Or.inl rfl
  · exact Or.inr rfl

structure Sound (p : Plan) : Prop where
  moves : ∀ w ∈ p.statuses, Move w.1.status w.2
  decision : ∀ w ∈ p.decision, w.1.decision = .pending ∧ w.2.decision ≠ .pending
  newDraft : ∀ d ∈ p.newDraft, d.status = .draft
  newApproval : ∀ a ∈ p.newApproval, a.decision = .pending
  newExport : ∀ e ∈ p.newExport, e.1.approvalId = e.2.approvalId ∧ e.2.decision = .approved ∧
    e.1.payloadManifestSha256 = e.2.payloadManifestSha256 ∧ (e.1.exportId, e.1.payloadManifestSha256) ∈ p.computed
  computed : ∀ x ∈ p.computed, ∃ e ∈ p.newExport, x = (e.1.exportId, e.1.payloadManifestSha256)

/-- a refusal gives drafts only statuses that they may move to -/
def RefusesSoundly {α : Type} (x : Except Refusal α) : Prop :=
  ∀ e, x = .error e → ∀ w ∈ e.statuses, Move w.1.status w.2

section Refusals

variable {α β : Type}

theorem RefusesSoundly.of_ok (a : α) : RefusesSoundly (.ok a : Except Refusal α) := by
  rintro e ⟨⟩

theorem RefusesSoundly.bind {x : Except Refusal α} {f : α → Except Refusal β} (hx : RefusesSoundly x)
    (hf : ∀ a, x = .ok a → RefusesSoundly (f a)) : RefusesSoundly (x >>= f) := by
  intro e h
  rcases bind_eq_error.1 h with herror | ⟨a, hok, herror⟩
  · exact hx e herror
  · exact hf a hok e herror

theorem RefusesSoundly.ensure {p : Prop} [Decidable p] {e : Refusal} (h : ¬p → ∀ w ∈ e.statuses, Move w.1.status w.2) :
    RefusesSoundly (Results.ensure p e) := by
  intro e' he
  obtain ⟨hp, rfl⟩ := ensure_eq_error.1 he
  exact h hp

/-- an error that is raised before anything is written -/
theorem RefusesSoundly.ensure_refused {p : Prop} [Decidable p] (failure : ExportFailure) :
    RefusesSoundly (Results.ensure p (refused failure)) := by
  refine .ensure fun _ w hw => ?_
  simp [refused] at hw

theorem RefusesSoundly.orRaise (x : Option α) (failure : ExportFailure) :
    RefusesSoundly (Results.orRaise x (refused failure)) := by
  cases x with
  | none =>
    rintro e ⟨⟩ w hw
    exact absurd hw List.not_mem_nil
  | some a => exact .of_ok a

theorem RefusesSoundly.passes (context : Option ExportFailure) : RefusesSoundly (Export.passes context) := by
  cases context with
  | none => exact .of_ok ()
  | some e =>
    rintro e' ⟨⟩ w hw
    exact absurd hw List.not_mem_nil

theorem assertApprovalPendingAndFresh_refuses (approval : Approval) (draft : ExportDraft) (approvalExpiry now : Int) :
    RefusesSoundly (assertApprovalPendingAndFresh approval draft approvalExpiry now) := by
  refine .bind (.ensure_refused _) fun _ _ => .bind (.ensure_refused _) fun _ hstatus => .ensure fun _ w hw => ?_
  rw [List.mem_singleton.1 hw]
  exact move_expired (Or.inl (ensure_eq_ok.1 hstatus))

theorem verifyApprovalPayloadBinding_refuses (approval : Approval) (draft : ExportDraft) (currentPayload : String) :
    RefusesSoundly (verifyApprovalPayloadBinding approval draft currentPayload) := by
  refine .ensure fun _ w hw => ?_
  dsimp only at hw
  split_ifs at hw with hstatus
  · rw [List.mem_singleton.1 hw]
    exact move_superseded hstatus
  · exact absurd hw List.not_mem_nil

theorem bindingIfComputed_refuses (approval : Approval) (draft : ExportDraft) (currentPayload : Option String) :
    RefusesSoundly (bindingIfComputed approval draft currentPayload) := by
  cases currentPayload with
  | none => exact .of_ok ()
  | some currentPayload => exact verifyApprovalPayloadBinding_refuses approval draft currentPayload

theorem submitExportDraft_refuses (held : Held) (r : SubmitRequest) : RefusesSoundly (submitExportDraft held r) := by
  refine .bind (.orRaise _ _) fun draft _ => .bind (.passes _) fun _ _ => .bind ?_ fun _ _ =>
    .bind (.ensure_refused _) fun _ _ => .of_ok _
  intro e he
  obtain ⟨_, -, rfl⟩ := mapError_eq_error.1 he
  exact fun w hw => absurd hw List.not_mem_nil

theorem decideExport_refuses (held : Held) (r : DecideRequest) : RefusesSoundly (decideExport held r) :=
  .bind (.ensure_refused _) fun _ _ => .bind (.orRaise _ _) fun approval _ => .bind (.orRaise _ _) fun draft _ =>
    .bind (.passes _) fun _ _ => .bind (.ensure_refused _) fun _ _ =>
      .bind (assertApprovalPendingAndFresh_refuses approval draft _ _) fun _ _ =>
        .bind (bindingIfComputed_refuses approval draft _) fun _ _ => .of_ok _

theorem deliverExportDownload_refuses (held : Held) (r : DownloadRequest) :
    RefusesSoundly (deliverExportDownload held r) := by
  unfold deliverExportDownload
  split
  · exact .bind (.passes _) fun _ _ => .of_ok _
  · exact .bind (.orRaise _ _) fun approval _ => .bind (.ensure_refused _) fun _ _ => .bind (.ensure_refused _) fun _ _ =>
      .bind (.orRaise _ _) fun draft _ => .bind (.ensure_refused _) fun _ _ => .bind (.ensure_refused _) fun _ _ =>
        .bind (.ensure_refused _) fun _ _ => .bind (.ensure_refused _) fun _ _ => .bind (.passes _) fun _ _ =>
          .bind (verifyApprovalPayloadBinding_refuses approval draft _) fun _ _ =>
            .bind (.ensure_refused _) fun _ _ => .of_ok _

theorem plan_refuses (held : Held) (request : Request) : RefusesSoundly (plan held request) := by
  cases request with
  | create r => exact .bind (.passes _) fun _ _ => .of_ok _
  | submit r => exact submitExportDraft_refuses held r
  | decide r => exact decideExport_refuses held r
  | download r => exact deliverExportDownload_refuses held r
  | expire now approvalExpiry => exact .of_ok _

end Refusals

theorem createExportDraft_sound {held : Held} {r : CreateRequest} {p : Plan} (h : createExportDraft held r = .ok p) :
    Sound p := by
  simp only [createExportDraft, bind_eq_ok, pure_eq_ok] at h
  obtain ⟨_, -, rfl⟩ := h
  refine ⟨fun w hw => ?_, by simp, by simp, by simp, by simp, by simp⟩
  obtain ⟨d, hd, rfl⟩ := List.mem_map.1 hw
  have hstatus := (List.mem_filter.1 hd).2
  rw [Bool.and_eq_true] at hstatus
  exact move_superseded hstatus.1

theorem submitExportDraft_sound {held : Held} {r : SubmitRequest} {p : Plan} (h : submitExportDraft held r = .ok p) :
    Sound p := by
  simp only [submitExportDraft, bind_eq_ok, orRaise_eq_ok, ensure_eq_ok, pure_eq_ok] at h
  obtain ⟨draft, -, _, -, _, -, _, hstatus, rfl⟩ := h
  refine ⟨fun w hw => ?_, by simp, by simp, by simp, by simp, by simp⟩
  rw [List.mem_singleton.1 hw, hstatus]
  exact trivial

theorem decideExport_sound {held : Held} {r : DecideRequest} {p : Plan} (h : decideExport held r = .ok p) : Sound p := by
  simp only [decideExport, assertApprovalPendingAndFresh, bind_eq_ok, orRaise_eq_ok, ensure_eq_ok, pure_eq_ok] at h
  obtain ⟨_, -, approval, -, draft, -, _, -, _, -, _, ⟨_, hpending, _, hstatus, -⟩, _, -, rfl⟩ := h
  refine ⟨fun w hw => ?_, ?_, by simp, by simp, by simp, by simp⟩
  · rw [List.mem_singleton.1 hw, hstatus]
    by_cases happrove : r.approve = true <;> simp [happrove, Move]
  · intro w hw
    obtain rfl := Option.some.inj hw
    refine ⟨hpending, ?_⟩
    by_cases happrove : r.approve = true <;> simp [decidedRow, happrove]

theorem deliverExportDownload_sound {held : Held} {r : DownloadRequest} {p : Plan}
    (h : deliverExportDownload held r = .ok p) : Sound p := by
  unfold deliverExportDownload at h
  split at h
  · simp only [bind_eq_ok, pure_eq_ok] at h
    obtain ⟨_, -, rfl⟩ := h
    exact ⟨by simp, by simp, by simp, by simp, by simp, by simp⟩
  · simp only [verifyApprovalPayloadBinding, bind_eq_ok, orRaise_eq_ok, ensure_eq_ok, pure_eq_ok] at h
    obtain ⟨approval, -, _, happroved, _, -, draft, -, _, -, _, -, _, hstatus, _, hpayload, _, -, _, hcurrent, _,
      hassembled, rfl⟩ := h
    refine ⟨fun w hw => ?_, by simp, by simp, by simp, ?_, ?_⟩
    · rw [List.mem_singleton.1 hw, hstatus]
      exact trivial
    · intro e he
      obtain rfl := Option.some.inj he
      exact ⟨rfl, happroved, hpayload, by simp [hcurrent, hassembled, hpayload]⟩
    · intro x hx
      refine ⟨_, rfl, ?_⟩
      simp only [List.mem_cons, List.not_mem_nil, or_false] at hx
      rcases hx with rfl | rfl
      · rw [hcurrent, hpayload]
      · rw [hassembled]

theorem mem_joined {db : Db} {decision : Decision} {status : DraftStatus} {x : Approval × ExportDraft}
    (h : x ∈ joined db decision status) : x.1.decision = decision ∧ x.2.status = status := by
  obtain ⟨a, -, h⟩ := List.mem_flatMap.1 h
  obtain ⟨d, hd, rfl⟩ := List.mem_map.1 h
  have hd := of_decide_eq_true (List.mem_filter.1 hd).2
  exact hd.2

/-- the pairs that the expiry holds came from its queries -/
structure HeldPairs (held : Held) : Prop where
  pending : ∀ x ∈ held.pending, x.2.status = .pendingApproval
  approved : ∀ x ∈ held.approved, x.2.status = .approved

theorem processApprovalExpiry_sound {held : Held} (hheld : HeldPairs held) {now approvalExpiry : Int} {p : Plan}
    (h : processApprovalExpiry held now approvalExpiry = .ok p) : Sound p := by
  obtain rfl := Except.ok.inj h
  refine ⟨fun w hw => ?_, by simp, by simp, by simp, by simp, by simp⟩
  obtain ⟨x, hx, rfl⟩ := List.mem_map.1 hw
  rcases List.mem_append.1 hx with hx | hx
  · exact move_expired (Or.inl (hheld.pending x (List.mem_filter.1 hx).1))
  · exact move_expired (Or.inr (hheld.approved x (List.mem_filter.1 hx).1))

theorem plan_sound {held : Held} (hheld : HeldPairs held) {r : Request} {p : Plan} (h : plan held r = .ok p) : Sound p := by
  cases r with
  | create r => exact createExportDraft_sound h
  | submit r => exact submitExportDraft_sound h
  | decide r => exact decideExport_sound h
  | download r => exact deliverExportDownload_sound h
  | expire now approvalExpiry => exact processApprovalExpiry_sound hheld h

/-- what a request has written when it ends is sound, also when it is refused -/
theorem writesOf_sound {held : Held} (hheld : HeldPairs held) (request : Request) : Sound (writesOf held request) := by
  unfold writesOf
  cases hplan : plan held request with
  | ok p => exact plan_sound hheld hplan
  | error e => exact ⟨plan_refuses held request e hplan, by simp, by simp, by simp, by simp, by simp⟩

/-! ## Commits of rows that are as they were read -/

/-- the rows that a request writes or relies on are in the tables as it read them -/
structure Fresh (db : Db) (p : Plan) : Prop where
  statuses : ∀ w ∈ p.statuses, w.1 ∈ db.drafts
  decision : ∀ w ∈ p.decision, w.1 ∈ db.approvals
  newExport : ∀ e ∈ p.newExport, e.2 ∈ db.approvals

/-- a request that is about to commit, refused or not, finds its rows as it read them -/
def FreshCommit (s : System) : Action → Prop
  | .commit i => ∀ t, s.transaction? i = some t → t.queried = queriesOf t.request →
      Fresh s.db (writesOf t.held t.request)
  | _ => True

/-- what holds of the tables and the record -/
structure Inv (s : System) : Prop where
  draftIds : (s.db.drafts.map ExportDraft.exportDraftId).Nodup
  approvalIds : (s.db.approvals.map Approval.approvalId).Nodup
  decided : ∀ k ∈ s.decided, ∃ a ∈ s.db.approvals, a.approvalId = k ∧ a.decision ≠ .pending
  once : s.decided.Nodup
  exports : ∀ e ∈ s.db.exports, ∃ a ∈ s.db.approvals, a.approvalId = e.approvalId ∧ a.decision = .approved ∧
    a.payloadManifestSha256 = e.payloadManifestSha256 ∧ (e.exportId, e.payloadManifestSha256) ∈ s.recomputed
  recomputed : ∀ x ∈ s.recomputed, ∃ e ∈ s.db.exports, x = (e.exportId, e.payloadManifestSha256)
  held : ∀ t, some t ∈ s.transactions → HeldPairs t.held

/-- a later state of the tables: decided approvals are as they were, and drafts have moved forward -/
structure Follows (db db' : Db) : Prop where
  approvals : ∀ a ∈ db.approvals, a.decision ≠ .pending → a ∈ db'.approvals
  drafts : ∀ d ∈ db.drafts, ∃ d' ∈ db'.drafts, d'.exportDraftId = d.exportDraftId ∧
    Relation.ReflTransGen Move d.status d'.status

theorem Follows.refl (db : Db) : Follows db db := ⟨fun _ ha _ => ha, fun d hd => ⟨d, hd, rfl, .refl⟩⟩

theorem Follows.trans {db db' db'' : Db} (h : Follows db db') (h' : Follows db' db'') : Follows db db'' := by
  refine ⟨fun a ha hdecided => h'.approvals a (h.approvals a ha hdecided) hdecided, fun d hd => ?_⟩
  obtain ⟨d', hd', hid, hmoves⟩ := h.drafts d hd
  obtain ⟨d'', hd'', hid', hmoves'⟩ := h'.drafts d' hd'
  exact ⟨d'', hd'', hid'.trans hid, hmoves.trans hmoves'⟩

/-! ## One step -/

section

variable {s : System} {p : Plan}

/-- a draft after its status was written -/
theorem writeStatus_follows (hinv : Inv s) (hsound : Sound p) (hfresh : Fresh s.db p) {d : ExportDraft}
    (hd : d ∈ s.db.drafts) : (writeStatus p.statuses d).exportDraftId = d.exportDraftId ∧
      Relation.ReflTransGen Move d.status (writeStatus p.statuses d).status := by
  unfold writeStatus
  cases hfind : p.statuses.find? fun w => w.1.exportDraftId = d.exportDraftId with
  | none => exact ⟨rfl, .refl⟩
  | some w =>
    obtain ⟨held, status⟩ := w
    have hmem := List.mem_of_find?_eq_some hfind
    have hid : held.exportDraftId = d.exportDraftId := by simpa using List.find?_some hfind
    have hsame : held = d := Rows.eq_of_mem hinv.draftIds (hfresh.statuses _ hmem) hd hid
    subst hsame
    refine ⟨rfl, ?_⟩
    dsimp only
    rw [written_held]
    exact .single (hsound.moves _ hmem)

/-- an approval after a decision was written: as it was, unless it is the pending one that was read -/
theorem writeDecision_cases (hinv : Inv s) (hsound : Sound p) (hfresh : Fresh s.db p) {a : Approval}
    (ha : a ∈ s.db.approvals) : writeDecision p.decision a = a ∨
      ∃ w ∈ p.decision, w.1 = a ∧ a.decision = .pending ∧ (writeDecision p.decision a).approvalId = a.approvalId ∧
        (writeDecision p.decision a).decision ≠ .pending := by
  cases hdecision : p.decision with
  | none => exact Or.inl rfl
  | some w =>
    obtain ⟨held, new⟩ := w
    by_cases hid : a.approvalId = held.approvalId
    · right
      obtain ⟨hpending, hdecided⟩ := hsound.decision (held, new) hdecision
      have hsame : a = held := Rows.eq_of_mem hinv.approvalIds ha (hfresh.decision (held, new) hdecision) hid
      subst hsame
      refine ⟨_, rfl, rfl, hpending, ?_, ?_⟩
      · rw [writeDecision, if_pos rfl]
      · rw [writeDecision, if_pos rfl]
        dsimp only
        rw [written_held]
        exact hdecided
    · left
      rw [writeDecision, if_neg hid]

theorem writeDecision_id (decision : Option (Approval × Approval)) (a : Approval) :
    (writeDecision decision a).approvalId = a.approvalId := by
  unfold writeDecision
  split
  · rfl
  · split_ifs <;> rfl

theorem writeStatus_id (statuses : List (ExportDraft × DraftStatus)) (d : ExportDraft) :
    (writeStatus statuses d).exportDraftId = d.exportDraftId := by
  unfold writeStatus
  split <;> rfl

/-- a decided approval is not written -/
theorem writeDecision_decided (hinv : Inv s) (hsound : Sound p) (hfresh : Fresh s.db p) {a : Approval}
    (ha : a ∈ s.db.approvals) (hdecided : a.decision ≠ .pending) : writeDecision p.decision a = a := by
  rcases writeDecision_cases hinv hsound hfresh ha with h | ⟨w, -, -, hpending, -⟩
  · exact h
  · exact absurd hpending hdecided

theorem applyPlan_eq_ok {db db' : Db} (h : applyPlan db p = .ok db') : Inserts db p ∧
    db'.drafts = db.drafts.map (writeStatus p.statuses) ++ p.newDraft.toList ∧
    db'.approvals = db.approvals.map (writeDecision p.decision) ++ p.newApproval.toList ∧
    db'.exports = db.exports ++ (p.newExport.map Prod.fst).toList := by
  simp only [applyPlan, bind_eq_ok, ensure_eq_ok, pure_eq_ok] at h
  obtain ⟨_, hinserts, rfl⟩ := h
  exact ⟨hinserts, rfl, rfl, rfl⟩

theorem applyPlan_follows (hinv : Inv s) (hsound : Sound p) (hfresh : Fresh s.db p) {db' : Db}
    (h : applyPlan s.db p = .ok db') : Follows s.db db' := by
  obtain ⟨-, hdrafts, happrovals, -⟩ := applyPlan_eq_ok h
  refine ⟨fun a ha hdecided => ?_, fun d hd => ?_⟩
  · rw [happrovals, ← writeDecision_decided hinv hsound hfresh ha hdecided]
    exact List.mem_append_left _ (List.mem_map_of_mem ha)
  · refine ⟨writeStatus p.statuses d, ?_, writeStatus_follows hinv hsound hfresh hd⟩
    rw [hdrafts]
    exact List.mem_append_left _ (List.mem_map_of_mem hd)

theorem nodup_append_option {α : Type} {xs : List α} {y : Option α} (h : xs.Nodup) (hy : ∀ a ∈ y, a ∉ xs) :
    (xs ++ y.toList).Nodup := by
  cases y with
  | none => simpa using h
  | some a => exact List.nodup_append.2 ⟨h, List.nodup_singleton a, fun b hb c hc heq =>
      hy a rfl (List.mem_singleton.1 hc ▸ heq ▸ hb)⟩

theorem inv_finish (hinv : Inv s) (hsound : Sound p) (hfresh : Fresh s.db p) : Inv (finish s p) := by
  unfold finish
  cases h : applyPlan s.db p with
  | error e => exact hinv
  | ok db' =>
    obtain ⟨hinserts, hdrafts, happrovals, hexports⟩ := applyPlan_eq_ok h
    have hkept : ∀ a ∈ s.db.approvals, a.decision ≠ .pending → a ∈ db'.approvals :=
      (applyPlan_follows hinv hsound hfresh h).approvals
    refine ⟨?_, ?_, ?_, ?_, ?_, ?_, hinv.held⟩
    · dsimp only
      rw [hdrafts, List.map_append, List.map_map, ← Option.toList_map,
        show ExportDraft.exportDraftId ∘ writeStatus p.statuses = ExportDraft.exportDraftId from
          funext (writeStatus_id p.statuses)]
      refine nodup_append_option hinv.draftIds fun k hk => ?_
      obtain ⟨d, hd, rfl⟩ := Option.map_eq_some_iff.1 hk
      exact hinserts.draft d hd
    · dsimp only
      rw [happrovals, List.map_append, List.map_map, ← Option.toList_map,
        show Approval.approvalId ∘ writeDecision p.decision = Approval.approvalId from
          funext (writeDecision_id p.decision)]
      refine nodup_append_option hinv.approvalIds fun k hk => ?_
      obtain ⟨a, ha, rfl⟩ := Option.map_eq_some_iff.1 hk
      exact (hinserts.approval a ha).1
    · intro k hk
      rcases List.mem_append.1 hk with hk | hk
      · obtain ⟨a, ha, hid, hdecided⟩ := hinv.decided k hk
        exact ⟨a, hkept a ha hdecided, hid, hdecided⟩
      · obtain ⟨w, hw, rfl⟩ := Option.map_eq_some_iff.1 (Option.mem_toList.1 hk)
        have hmem := hfresh.decision w hw
        rcases writeDecision_cases hinv hsound hfresh hmem with heq | ⟨w', -, -, -, hid, hdecided⟩
        · -- the row that was read is pending, and the row written is not
          exfalso
          have hwritten : (writeDecision p.decision w.1).decision = w.2.decision := by
            rw [show p.decision = some w from hw, writeDecision, if_pos rfl]
            exact written_held w.1.decision w.2.decision
          rw [heq, (hsound.decision w hw).1] at hwritten
          exact (hsound.decision w hw).2 hwritten.symm
        · refine ⟨writeDecision p.decision w.1, ?_, hid, hdecided⟩
          rw [happrovals]
          exact List.mem_append_left _ (List.mem_map_of_mem hmem)
    · refine nodup_append_option hinv.once fun k hk hdone => ?_
      obtain ⟨w, hw, rfl⟩ := Option.map_eq_some_iff.1 hk
      obtain ⟨a, ha, hid, hdecided⟩ := hinv.decided _ hdone
      rw [Rows.eq_of_mem hinv.approvalIds ha (hfresh.decision w hw) hid] at hdecided
      exact hdecided (hsound.decision w hw).1
    · intro e he
      dsimp only at he ⊢
      rw [hexports] at he
      rcases List.mem_append.1 he with he | he
      · obtain ⟨a, ha, hid, happroved, hpayload, hmatched⟩ := hinv.exports e he
        exact ⟨a, hkept a ha (by rw [happroved]; exact Decision.noConfusion), hid, happroved, hpayload,
          List.mem_append_left _ hmatched⟩
      · obtain ⟨x, hx, rfl⟩ := Option.map_eq_some_iff.1 (Option.mem_toList.1 he)
        obtain ⟨hid, happroved, hpayload, hmatched⟩ := hsound.newExport x hx
        exact ⟨x.2, hkept x.2 (hfresh.newExport x hx) (by rw [happroved]; exact Decision.noConfusion), hid.symm,
          happroved, hpayload.symm, List.mem_append_right _ hmatched⟩
    · intro x hx
      dsimp only at hx ⊢
      rw [hexports]
      rcases List.mem_append.1 hx with hx | hx
      · obtain ⟨e, he, hmatched⟩ := hinv.recomputed x hx
        exact ⟨e, List.mem_append_left _ he, hmatched⟩
      · obtain ⟨e, he, hmatched⟩ := hsound.computed x hx
        exact ⟨e.1, List.mem_append_right _ (Option.mem_toList.2 (Option.map_eq_some_iff.2 ⟨e, he, rfl⟩)), hmatched⟩

theorem follows_finish (hinv : Inv s) (hsound : Sound p) (hfresh : Fresh s.db p) : Follows s.db (finish s p).db := by
  unfold finish
  cases h : applyPlan s.db p with
  | error e => exact Follows.refl s.db
  | ok db' => exact applyPlan_follows hinv hsound hfresh h

end

theorem heldPairs_runQuery {db : Db} {request : Request} {held : Held} (h : HeldPairs held) (query : Query) :
    HeldPairs (runQuery db request held query) := by
  cases query with
  | pending => exact ⟨fun x hx => (mem_joined hx).2, h.approved⟩
  | approved => exact ⟨h.pending, fun x hx => (mem_joined hx).2⟩
  | _ => exact ⟨h.pending, h.approved⟩

theorem inv_setTransaction {s : System} (h : Inv s) (i : Nat) {t : Option Transaction}
    (ht : ∀ t', t = some t' → HeldPairs t'.held) : Inv (s.setTransaction i t) :=
  { h with
    held := by
      intro t' ht'
      rcases List.mem_or_eq_of_mem_set ht' with hmem | heq
      · exact h.held t' hmem
      · exact ht t' heq.symm }

theorem held_of_transaction {s : System} (h : Inv s) {i : Nat} {t : Transaction} (ht : s.transaction? i = some t) :
    HeldPairs t.held := by
  exact h.held t (List.mem_of_getElem? (Option.join_eq_some_iff.1 ht))

theorem inv_step {s : System} (h : Inv s) (a : Action) (hfresh : FreshCommit s a) :
    Inv (step s a) ∧ Follows s.db (step s a).db := by
  cases a with
  | start request =>
    refine ⟨{ h with held := ?_ }, Follows.refl s.db⟩
    intro t ht
    rcases List.mem_append.1 ht with ht | ht
    · exact h.held t ht
    · obtain rfl := Option.some.inj (List.mem_singleton.1 ht)
      exact ⟨by simp, by simp⟩
  | read i query =>
    simp only [step]
    cases ht : s.transaction? i with
    | none => exact ⟨h, Follows.refl s.db⟩
    | some t =>
      refine ⟨inv_setTransaction h i fun t' heq => ?_, Follows.refl s.db⟩
      obtain rfl := Option.some.inj heq
      exact heldPairs_runQuery (held_of_transaction h ht) query
  | commit i =>
    simp only [step]
    cases ht : s.transaction? i with
    | none => exact ⟨h, Follows.refl s.db⟩
    | some t =>
      dsimp only
      have hended : Inv (s.setTransaction i none) := inv_setTransaction h i (by simp)
      split_ifs with hqueried
      · exact ⟨h, Follows.refl s.db⟩
      · have hsound := writesOf_sound (held_of_transaction h ht) t.request
        have hrows := hfresh t ht (not_not.1 hqueried)
        exact ⟨inv_finish hended hsound hrows, follows_finish hended hsound hrows⟩

/-! ## Runs of interleaved requests -/

/-- what the record says of the tables -/
structure DecidedOnce (s : System) : Prop where
  once : s.decided.Nodup
  exports : ∀ e ∈ s.db.exports, ∃ a ∈ s.db.approvals, a.approvalId = e.approvalId ∧ a.decision = .approved ∧
    a.payloadManifestSha256 = e.payloadManifestSha256 ∧ (e.exportId, a.payloadManifestSha256) ∈ s.recomputed
  matched : ∀ x ∈ s.recomputed, ∃ e ∈ s.db.exports, x = (e.exportId, e.payloadManifestSha256)

theorem inv_init : Inv {} := by
  refine ⟨List.nodup_nil, List.nodup_nil, ?_, List.nodup_nil, ?_, ?_, ?_⟩ <;> intro _ h <;> exact absurd h List.not_mem_nil

theorem follows_run {s : System} (h : Inv s) {ops : List Action} (hfresh : Runs.Along step FreshCommit s ops) :
    Follows s.db (Runs.run step s ops).db := by
  induction ops generalizing s with
  | nil => exact Follows.refl s.db
  | cons a ops ih =>
    obtain ⟨hinv, hstep⟩ := inv_step h a hfresh.1
    exact hstep.trans (ih hinv hfresh.2)

/-- **Approvals are decided once when commits are fresh.** In every interleaving in which each request that commits, refused ones included, finds
the rows that it writes or relies on as it read them: an approval is decided at most once, every export has an approved
approval whose digest its download computed again, a decided approval stays as it is, and every draft moves forward and
stays where it is final. -/
theorem approvals_decided_once (ops later : List Action)
    (hfresh : Runs.Along step FreshCommit {} (ops ++ later)) :
    DecidedOnce (Runs.run step {} ops) ∧
    Follows (Runs.run step {} ops).db (Runs.run step {} (ops ++ later)).db ∧
    ∀ d ∈ (Runs.run step {} ops).db.drafts, Final d.status →
      ∃ d' ∈ (Runs.run step {} (ops ++ later)).db.drafts, d'.exportDraftId = d.exportDraftId ∧ d'.status = d.status := by
  obtain ⟨hops, hlater⟩ := Runs.along_append.1 hfresh
  have hinv : Inv (Runs.run step {} ops) :=
    Runs.run_inv_along (P := Inv) (fun s a h hG => (inv_step h a hG).1) inv_init hops
  have hfollows : Follows (Runs.run step {} ops).db (Runs.run step {} (ops ++ later)).db := by
    rw [Runs.run_append]
    exact follows_run hinv hlater
  refine ⟨⟨hinv.once, fun e he => ?_, hinv.recomputed⟩, hfollows, fun d hd hfinal => ?_⟩
  · obtain ⟨a, ha, hid, happroved, hpayload, hmatched⟩ := hinv.exports e he
    exact ⟨a, ha, hid, happroved, hpayload, hpayload ▸ hmatched⟩
  · obtain ⟨d', hd', hid, hmoves⟩ := hfollows.drafts d hd
    exact ⟨d', hd', hid, hfinal.stays hmoves⟩

namespace Samples

def payload : String := "9f86d081884c7d659a2feaa0c55ad015a3bf4f1b2b0b822cd15d6c15b0f00a08"

def createRequest : Request := .create ⟨1, none, payload, 10, "reviewer", 0⟩

def submitRequest : Request := .submit ⟨10, none, some "\"v1\"", 20, "reviewer", 1, 604800⟩

def approveRequest : Request := .decide ⟨20, true, none, none, "approver", 2, 604800, false, some payload⟩

def rejectRequest : Request := .decide ⟨20, false, some "not ready", none, "custodian", 3, 604800, false, some payload⟩

/-- an export draft is created and submitted -/
def submitted : List Action :=
  [.start createRequest, .read 0 .drafts, .commit 0, .start submitRequest, .read 1 .draft, .commit 1]

/-- the approval is approved -/
def approved : List Action := [.start approveRequest, .read 2 .approval, .read 2 .draft, .commit 2]

def createAgainRequest : Request := .create ⟨1, none, payload, 11, "reviewer", 3⟩

def submitAgainRequest : Request := .submit ⟨11, none, some "\"v1\"", 21, "reviewer", 4, 604800⟩

/-- an approval that comes after the deadline -/
def lateRequest : Request := .decide ⟨21, true, none, none, "approver", 700000, 604800, false, some payload⟩

/-- a second draft is submitted, and its approval is refused as it is late -/
def late : List Action :=
  [.start createAgainRequest, .read 3 .drafts, .commit 3, .start submitAgainRequest, .read 4 .draft, .commit 4,
    .start lateRequest, .read 5 .approval, .read 5 .draft, .commit 5]

/-- two requests read the pending approval, and both decide it -/
def overtaken : List Action :=
  [.start approveRequest, .start rejectRequest, .read 2 .approval, .read 2 .draft, .read 3 .approval, .read 3 .draft,
    .commit 2, .commit 3]

end Samples

open Samples in
/-- one draft is approved, and a later one expires when a request is refused -/
theorem approvals_decided_once_small :
    (DecidedOnce (Runs.run step {} submitted) ∧
      Follows (Runs.run step {} submitted).db (Runs.run step {} (submitted ++ (approved ++ late))).db ∧
      ∀ d ∈ (Runs.run step {} submitted).db.drafts, Final d.status →
        ∃ d' ∈ (Runs.run step {} (submitted ++ (approved ++ late))).db.drafts, d'.exportDraftId = d.exportDraftId ∧
          d'.status = d.status) ∧
    (Runs.run step {} (submitted ++ (approved ++ late))).db.drafts.map ExportDraft.status = [.approved, .expired] := by
  refine ⟨approvals_decided_once submitted (approved ++ late) ?_, by decide⟩
  simp only [submitted, approved, late, List.cons_append, List.nil_append, Runs.Along, FreshCommit, true_and, and_true]
  refine ⟨?_, ?_, ?_, ?_, ?_, ?_⟩
  all_goals
    intro t ht _
    obtain rfl : _ = t := Option.some.inj ht
    exact ⟨by decide, by decide, by decide⟩

open Samples in
/-- **One approval is decided twice.** -/
theorem approval_decided_twice :
    ¬DecidedOnce (Runs.run step {} (submitted ++ overtaken)) ∧
    ¬Follows (Runs.run step {} (submitted ++ overtaken.take 7)).db (Runs.run step {} (submitted ++ overtaken)).db := by
  constructor
  · intro h
    have htwice : (Runs.run step {} (submitted ++ overtaken)).decided = [20, 20] := by decide
    have honce := h.once
    rw [htwice] at honce
    exact absurd honce (by decide)
  · intro h
    have hkept : ∀ a ∈ (Runs.run step {} (submitted ++ overtaken.take 7)).db.approvals, a.decision ≠ .pending →
        a ∈ (Runs.run step {} (submitted ++ overtaken)).db.approvals := h.approvals
    exact absurd hkept (by decide)

end AtoService.Export
