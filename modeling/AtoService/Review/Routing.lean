/-
POA&M candidates and evidence requests of a review revision, over every run of updates of its dispositions.

`Log` is the tables with a record: the row and the decision of every update that succeeded. An item is added for a row
the first time that its decision calls for one, and stays.

- `Routed`, `routingInv_update`: the rows with an item are those for which an update has called for it, once each.
- `routing_follows_decisions`: in every run of a new revision; a row that is confirmed as a weakness has its candidate.
Witness `candidate_outlives_decision`: a row that was confirmed as a weakness and then accepted keeps its candidate.
-/
import AtoService.Lib.Runs
import AtoService.Review.Revisions

namespace AtoService.Review

open AtoService.Results
open AtoService.Rows (written written_held)

structure Log where
  db : Db
  decided : List (Uuid × Decision) := []
deriving DecidableEq, Repr

/-- a call of `update_disposition`, in a transaction on the tables as they are -/
def Log.update (s : Log) (r : UpdateRequest) : Log :=
  match updateDisposition s.db ⟨s.db.revision, s.db.dispositions⟩ r with
  | .error _ => s
  | .ok (response, db) => ⟨db, s.decided ++ [(r.matrixRowId, response.disposition.decision)]⟩

def itemRows (items : List RoutedItem) : List Uuid := items.map RoutedItem.matrixRowId

/-! ## One update -/

/-- the rows with an item after one is called for -/
theorem itemRows_routeItem (items : List RoutedItem) (new : RoutedItem) :
    itemRows (routeItem items new).2 =
      if new.matrixRowId ∈ itemRows items then itemRows items else itemRows items ++ [new.matrixRowId] := by
  unfold routeItem
  cases hfind : items.find? fun item => item.matrixRowId = new.matrixRowId with
  | some item =>
    have hkey : item.matrixRowId = new.matrixRowId := by simpa using List.find?_some hfind
    rw [if_pos (hkey ▸ List.mem_map_of_mem (List.mem_of_find?_eq_some hfind))]
  | none =>
    have hnot : new.matrixRowId ∉ itemRows items := by
      intro hmem
      obtain ⟨item, hitem, hkey⟩ := List.mem_map.1 hmem
      simpa [hkey] using List.find?_eq_none.1 hfind item hitem
    rw [if_neg hnot, itemRows, List.map_append, List.map_singleton]
    rfl

theorem mem_itemRows_routeItem {items : List RoutedItem} {new : RoutedItem} {k : Uuid} :
    k ∈ itemRows (routeItem items new).2 ↔ k ∈ itemRows items ∨ k = new.matrixRowId := by
  rw [itemRows_routeItem]
  split_ifs with hmem
  · constructor
    · exact Or.inl
    · rintro (hk | rfl)
      · exact hk
      · exact hmem
  · rw [List.mem_append, List.mem_singleton]

theorem nodup_itemRows_routeItem {items : List RoutedItem} (h : (itemRows items).Nodup) (new : RoutedItem) :
    (itemRows (routeItem items new).2).Nodup := by
  rw [itemRows_routeItem]
  split_ifs with hmem
  · exact h
  · exact List.nodup_append.2 ⟨h, List.nodup_singleton _, fun k hk k' hk' heq =>
      hmem (List.mem_singleton.1 hk' ▸ heq ▸ hk)⟩

/-- the item that a decision calls for is added to its table, and the other tables stay -/
structure Routes (db : Db) (r : UpdateRequest) (decision : Decision) (item : RoutedItem) (db' : Db) : Prop where
  row : item.matrixRowId = r.matrixRowId
  poam : db'.poamCandidates =
    if decision = .weaknessConfirmed then (routeItem db.poamCandidates item).2 else db.poamCandidates
  evidence : db'.evidenceRequests =
    if decision = .evidenceRequested then (routeItem db.evidenceRequests item).2 else db.evidenceRequests
  dispositions : db'.dispositions = db.dispositions

theorem routeDispositionSideEffects_routes (db : Db) (r : UpdateRequest) (d : Disposition) (row : MatrixRow) :
    ∃ item, Routes db r d.decision item (routeDispositionSideEffects db r d row).2.2 := by
  let item : RoutedItem :=
    { itemId := r.drawn, reviewRevisionId := db.revision.reviewRevisionId, dispositionId := d.dispositionId
      matrixRowId := r.matrixRowId, runId := db.revision.runId, assessmentItemId := row.assessmentItemId
      assessmentItemType := row.assessmentItemType, systemStatus := row.systemStatus, summary := row.findingSummary
      decision := d.decision, createdBy := r.actorId, createdAt := r.now }
  refine ⟨item, ⟨rfl, ?_, ?_, ?_⟩⟩ <;> cases hdecision : d.decision <;>
    simp [routeDispositionSideEffects, hdecision, item]

/-- an update that succeeds decides the disposition of its row and routes the decision -/
theorem updateDisposition_decides {db db' : Db} {r : UpdateRequest} {response : DispositionResponse}
    (h : updateDisposition db ⟨db.revision, db.dispositions⟩ r = .ok (response, db')) :
    ∃ d ∈ db.dispositions, d.matrixRowId = r.matrixRowId ∧ ∃ decided item,
      decided.decision = response.disposition.decision ∧
      decided.matrixRowId = r.matrixRowId ∧
      Routes { db with dispositions := db.dispositions.map fun stored =>
        if stored.dispositionId = d.dispositionId then writeDisposition d decided stored else stored }
        r response.disposition.decision item db' := by
  simp only [updateDisposition, bind_eq_ok, ensure_eq_ok, pure_eq_ok, orRaise_eq_ok, Prod.mk.injEq] at h
  obtain ⟨_, -, _, -, _, -, decision, -, d, hd, row, -, _, -, _, -, etag, -, rfl, rfl⟩ := h
  have hrow : d.matrixRowId = r.matrixRowId := by simpa using List.find?_some hd
  obtain ⟨item, hroutes⟩ := routeDispositionSideEffects_routes
    { db with
      revision := writeRevision db.revision { db.revision with version := db.revision.version + 1 } db.revision
      dispositions := db.dispositions.map fun stored =>
        if stored.dispositionId = d.dispositionId then writeDisposition d (decided r decision d) stored else stored }
    r (decided r decision d) row
  exact ⟨d, List.mem_of_find?_eq_some hd, hrow, decided r decision d, item, rfl, hrow,
    ⟨hroutes.row, hroutes.poam, hroutes.evidence, hroutes.dispositions⟩⟩

/-! ## Runs of updates -/

/-- the items follow the decisions of the record -/
structure Routed (s : Log) : Prop where
  poam : ∀ k, k ∈ itemRows s.db.poamCandidates ↔ (k, Decision.weaknessConfirmed) ∈ s.decided
  evidence : ∀ k, k ∈ itemRows s.db.evidenceRequests ↔ (k, Decision.evidenceRequested) ∈ s.decided
  poamOnce : (itemRows s.db.poamCandidates).Nodup
  evidenceOnce : (itemRows s.db.evidenceRequests).Nodup
  /-- a decision that stands was made by an update -/
  current : ∀ d ∈ s.db.dispositions, d.decision ≠ .pending → (d.matrixRowId, d.decision) ∈ s.decided

structure RoutingInv (s : Log) : Prop where
  routed : Routed s
  ids : (s.db.dispositions.map Disposition.dispositionId).Nodup

/-- the rows with an item of one kind after a decision -/
theorem mem_routed {items : List RoutedItem} {item : RoutedItem} {log : List (Uuid × Decision)} {kind decision : Decision}
    (h : ∀ k, k ∈ itemRows items ↔ (k, kind) ∈ log) (k : Uuid) :
    k ∈ itemRows (if decision = kind then (routeItem items item).2 else items) ↔
      (k, kind) ∈ log ++ [(item.matrixRowId, decision)] := by
  rw [List.mem_append, List.mem_singleton, Prod.mk.injEq]
  split_ifs with hkind
  · rw [mem_itemRows_routeItem, h k, hkind]
    simp
  · rw [h k]
    constructor
    · exact Or.inl
    · rintro (hk | ⟨-, heq⟩)
      · exact hk
      · exact absurd heq.symm hkind

theorem nodup_routed {items : List RoutedItem} (h : (itemRows items).Nodup) (item : RoutedItem) (kind decision : Decision) :
    (itemRows (if decision = kind then (routeItem items item).2 else items)).Nodup := by
  split_ifs
  · exact nodup_itemRows_routeItem h item
  · exact h

theorem routingInv_update {s : Log} (h : RoutingInv s) (r : UpdateRequest) : RoutingInv (s.update r) := by
  unfold Log.update
  cases hupdate : updateDisposition s.db ⟨s.db.revision, s.db.dispositions⟩ r with
  | error e => exact h
  | ok result =>
    obtain ⟨response, db'⟩ := result
    obtain ⟨d, hd, hrow, new, item, hnew, hnewRow, hroutes⟩ := updateDisposition_decides hupdate
    have hpoam := @mem_routed _ item _ _ response.disposition.decision h.routed.poam
    have hevidence := @mem_routed _ item _ _ response.disposition.decision h.routed.evidence
    rw [hroutes.row] at hpoam hevidence
    refine ⟨⟨?_, ?_, ?_, ?_, ?_⟩, ?_⟩
    · simpa only [hroutes.poam] using hpoam
    · simpa only [hroutes.evidence] using hevidence
    · simpa only [hroutes.poam] using nodup_routed h.routed.poamOnce item _ _
    · simpa only [hroutes.evidence] using nodup_routed h.routed.evidenceOnce item _ _
    · intro d' hd' hresolved
      rw [hroutes.dispositions] at hd'
      obtain ⟨stored, hstored, rfl⟩ := List.mem_map.1 hd'
      dsimp only at hresolved ⊢
      split_ifs at hresolved ⊢ with hid
      · -- the disposition that was read is the one that is written
        rw [Rows.eq_of_mem h.ids hstored hd hid] at hresolved ⊢
        simp only [writeDisposition, written_held] at hresolved ⊢
        rw [hnew, hrow]
        exact List.mem_append_right _ (List.mem_singleton_self _)
      · exact List.mem_append_left _ (h.routed.current stored hstored hresolved)
    · rw [hroutes.dispositions, List.map_map]
      have hkeep : ∀ stored ∈ s.db.dispositions, (Disposition.dispositionId ∘ fun stored =>
          if stored.dispositionId = d.dispositionId then writeDisposition d new stored else stored) stored =
          stored.dispositionId := by
        intro stored _
        rw [Function.comp_apply]
        split_ifs <;> rfl
      rw [List.map_congr_left hkeep]
      exact h.ids

theorem routingInv_create (reviewRevisionId runId : Uuid) {rows : List (MatrixRow × Uuid)} (hids : (rows.map Prod.snd).Nodup)
    (actorId : String) (now : Instant) : RoutingInv ⟨createReviewRevision reviewRevisionId runId rows actorId now, []⟩ where
  routed :=
    { poam := fun _ => ⟨fun h => absurd h List.not_mem_nil, fun h => absurd h List.not_mem_nil⟩
      evidence := fun _ => ⟨fun h => absurd h List.not_mem_nil, fun h => absurd h List.not_mem_nil⟩
      poamOnce := List.nodup_nil
      evidenceOnce := List.nodup_nil
      current := by
        intro d hd hresolved
        obtain ⟨row, -, rfl⟩ := List.mem_map.1 hd
        exact absurd rfl hresolved }
  ids := by
    have hmap : (createReviewRevision reviewRevisionId runId rows actorId now).dispositions.map Disposition.dispositionId =
        rows.map Prod.snd := by
      simp only [createReviewRevision, List.map_map]
      rfl
    rw [hmap]
    exact hids

/-- **Routing follows the decisions that were made.** After any run of updates of a new revision, the rows with a POA&M
candidate are those that some update confirmed as a weakness, the rows with an evidence request those for which some
update requested evidence, each has one, and every row whose decision stands has its item. -/
theorem routing_follows_decisions (reviewRevisionId runId : Uuid) (rows : List (MatrixRow × Uuid))
    (hids : (rows.map Prod.snd).Nodup) (actorId : String) (now : Instant) (rs : List UpdateRequest) :
    Routed (Runs.run Log.update ⟨createReviewRevision reviewRevisionId runId rows actorId now, []⟩ rs) ∧
    ∀ d ∈ (Runs.run Log.update ⟨createReviewRevision reviewRevisionId runId rows actorId now, []⟩ rs).db.dispositions,
      (d.decision = .weaknessConfirmed → d.matrixRowId ∈ itemRows
        (Runs.run Log.update ⟨createReviewRevision reviewRevisionId runId rows actorId now, []⟩ rs).db.poamCandidates) ∧
      (d.decision = .evidenceRequested → d.matrixRowId ∈ itemRows
        (Runs.run Log.update ⟨createReviewRevision reviewRevisionId runId rows actorId now, []⟩ rs).db.evidenceRequests) := by
  have hinv : RoutingInv (Runs.run Log.update ⟨createReviewRevision reviewRevisionId runId rows actorId now, []⟩ rs) :=
    Runs.run_inv (P := RoutingInv) (fun s r h => routingInv_update h r) (routingInv_create reviewRevisionId runId hids actorId now) rs
  refine ⟨hinv.routed, fun d hd => ⟨fun hdecision => ?_, fun hdecision => ?_⟩⟩
  · have hmade := hinv.routed.current d hd (by rw [hdecision]; exact Decision.noConfusion)
    rw [hdecision] at hmade
    exact (hinv.routed.poam d.matrixRowId).2 hmade
  · have hmade := hinv.routed.current d hd (by rw [hdecision]; exact Decision.noConfusion)
    rw [hdecision] at hmade
    exact (hinv.routed.evidence d.matrixRowId).2 hmade

namespace Samples

/-- a run with one row that is partly supported -/
def partlySupported : List (MatrixRow × Uuid) := [(⟨3, "AC-2", .nistControl, .partialSupport, "Accounts are managed."⟩, 4)]

/-- the row is confirmed as a weakness, and then accepted -/
def changeOfMind : List UpdateRequest :=
  [⟨3, "weakness_confirmed", none, none, some "\"v1\"", "reviewer", true, 1, 5⟩,
    ⟨3, "accepted", none, none, some "\"v2\"", "reviewer", true, 2, 6⟩]

end Samples

open Samples in
theorem routing_follows_decisions_small :
    Routed (Runs.run Log.update ⟨createReviewRevision 1 2 partlySupported "reviewer" 0, []⟩ changeOfMind) ∧
    ∀ d ∈ (Runs.run Log.update ⟨createReviewRevision 1 2 partlySupported "reviewer" 0, []⟩ changeOfMind).db.dispositions,
      (d.decision = .weaknessConfirmed → d.matrixRowId ∈ itemRows
        (Runs.run Log.update ⟨createReviewRevision 1 2 partlySupported "reviewer" 0, []⟩ changeOfMind).db.poamCandidates) ∧
      (d.decision = .evidenceRequested → d.matrixRowId ∈ itemRows
        (Runs.run Log.update ⟨createReviewRevision 1 2 partlySupported "reviewer" 0, []⟩ changeOfMind).db.evidenceRequests) :=
  routing_follows_decisions 1 2 partlySupported (by decide) "reviewer" 0 changeOfMind

open Samples in
/-- **A candidate outlives its decision.** -/
theorem candidate_outlives_decision :
    ¬∀ k, k ∈ itemRows (Runs.run Log.update ⟨createReviewRevision 1 2 partlySupported "reviewer" 0, []⟩
        changeOfMind).db.poamCandidates ↔
      ∃ d ∈ (Runs.run Log.update ⟨createReviewRevision 1 2 partlySupported "reviewer" 0, []⟩ changeOfMind).db.dispositions,
        d.matrixRowId = k ∧ d.decision = .weaknessConfirmed := by
  intro h
  have hcandidate : 3 ∈ itemRows (Runs.run Log.update ⟨createReviewRevision 1 2 partlySupported "reviewer" 0, []⟩
      changeOfMind).db.poamCandidates := by decide
  have hnone : ¬∃ d ∈ (Runs.run Log.update ⟨createReviewRevision 1 2 partlySupported "reviewer" 0, []⟩
      changeOfMind).db.dispositions, d.matrixRowId = 3 ∧ d.decision = .weaknessConfirmed := by decide
  exact hnone ((h 3).1 hcandidate)

end AtoService.Review
