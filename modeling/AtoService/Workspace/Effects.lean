/-
What one request does to the tables.

`Grows v db` says that `v` is an earlier state of the tables than `db`: rows of revisions, approvals and profile
versions are never lost, and a revision changes in its status only. A request whose unlocked SELECTs saw earlier states
leaves the tables in one of four ways: quiet, with one revision saved, with a workspace created, or
with the current revision approved. `Asks` ties the saved content to what the request asked for.
-/
import AtoService.Workspace.Content
import AtoService.Workspace.Routes

namespace AtoService.Workspace

/-! ## Earlier states -/

/-- `db` is a later state of the tables than `v` -/
structure Grows (v db : Db) : Prop where
  system : db.system = v.system
  profiles : ∀ id p, v.profile? id = some p → ∃ p', db.profile? id = some p' ∧ { p' with status := p.status } = p
  workspace : v.workspace.isSome → db.workspace.isSome
  revisions : ∀ id row, v.revision? id = some row →
    ∃ row', db.revision? id = some row' ∧ { row' with status := row.status } = row ∧
      (row.status = .superseded → row'.status = .superseded)
  approvals : ∀ a ∈ v.approvals, a ∈ db.approvals

namespace Grows

theorem refl (db : Db) : Grows db db :=
  ⟨rfl, fun _ p h => ⟨p, h, rfl⟩, id, fun _ row h => ⟨row, h, rfl, id⟩, fun _ h => h⟩

theorem trans {u v db : Db} (h : Grows u v) (h' : Grows v db) : Grows u db where
  system := h'.system.trans h.system
  profiles id p hp := by
    obtain ⟨p₁, h₁, e₁⟩ := h.profiles id p hp
    obtain ⟨p₂, h₂, e₂⟩ := h'.profiles id p₁ h₁
    exact ⟨p₂, h₂, by rw [← e₁, ← e₂]⟩
  workspace hw := h'.workspace (h.workspace hw)
  revisions id row hr := by
    obtain ⟨r₁, h₁, e₁, s₁⟩ := h.revisions id row hr
    obtain ⟨r₂, h₂, e₂, s₂⟩ := h'.revisions id r₁ h₁
    exact ⟨r₂, h₂, by rw [← e₁, ← e₂], fun hs => s₂ (s₁ hs)⟩
  approvals a ha := h'.approvals a (h.approvals a ha)

/-- the content of a revision read earlier -/
theorem load {v db : Db} (h : Grows v db) {id : Uuid} {row : RevisionRow} (hr : v.revision? id = some row) :
    ∃ row', db.revision? id = some row' ∧ row'.load = row.load ∧ row'.version = row.version := by
  obtain ⟨row', hr', he, -⟩ := h.revisions id row hr
  exact ⟨row', hr', by rw [← he]; rfl, by rw [← he]⟩

end Grows

theorem Db.revision?_id {db : Db} {id : Uuid} {row : RevisionRow} (h : db.revision? id = some row) :
    row.revisionId = id := by simpa using List.find?_some h

theorem loadExactCurrentRevision_ok {views : Views} {id : Uuid} {row : RevisionRow} :
    loadExactCurrentRevision views id = .ok row ↔
      (views 0).currentRevisionId = some id ∧ (views 1).revision? id = some row := by
  simp only [loadExactCurrentRevision, bind_eq_ok, ensure_eq_ok, exists_const]
  refine and_congr_right fun _ => ?_
  cases (views 1).revision? id <;> simp

/-! ## A saved revision -/

/-- the row of the revision that a request saves -/
def savedRow (db : Db) (r : Request) (expected : Option Uuid) (content : RevisionContent) : RevisionRow where
  revisionId := r.revisionId
  parentRevisionId := expected
  version := db.maxVersion + 1
  status := .working
  contentSha256 := revisionContentSha256 content
  content := content.dump.jsonb
  createdBy := Py.strip r.principal.actorId

/-- the revisions after the one at `expected` was superseded, when the session saw it working -/
def demoted (db : Db) (seen : RevisionState) (expected : Uuid) : List RevisionRow :=
  if seen = .working then (db.setRevisionStatus expected .superseded).revisions else db.revisions

/-- the tables after a request saved `content` over the revision it expected -/
structure Saved (r : Request) (content : RevisionContent) (seen : RevisionState) (db db' : Db) : Prop where
  profiles : db'.profiles = db.profiles
  system : db'.system = db.system
  approvals : db'.approvals = db.approvals
  workspace : ∃ w p, db.workspace = some w ∧ db'.workspace = some ⟨p, some r.revisionId, w.status⟩
  revisions : db'.revisions =
    demoted db seen r.expectedRevisionId ++ [savedRow db r (some r.expectedRevisionId) content]
  fresh : db.revision? r.revisionId = none
  expected : ∃ row, db.revision? r.expectedRevisionId = some row
  oneWorking : ∀ row ∈ demoted db seen r.expectedRevisionId, row.status ≠ .working
  seenOpen : seen ≠ .superseded
  materialized : materializeRevision content = .ok ()

/-- two states of the tables that differ in the profile of the workspace, in patches and in artifacts only, where no
artifact was removed in between -/
structure SameRevisions (db db' : Db) : Prop where
  profiles : db'.profiles = db.profiles
  system : db'.system = db.system
  approvals : db'.approvals = db.approvals
  revisions : db'.revisions = db.revisions
  workspace : db'.workspace.map (fun w => (w.currentRevisionId, w.status)) =
    db.workspace.map fun w => (w.currentRevisionId, w.status)
  active : ∀ id ∈ db.activeArtifactIds, id ∈ db'.activeArtifactIds

namespace SameRevisions

theorem refl (db : Db) : SameRevisions db db := ⟨rfl, rfl, rfl, rfl, rfl, fun _ h => h⟩

theorem trans {u v db : Db} (h : SameRevisions u v) (h' : SameRevisions v db) : SameRevisions u db :=
  ⟨h'.profiles.trans h.profiles, h'.system.trans h.system, h'.approvals.trans h.approvals,
    h'.revisions.trans h.revisions, h'.workspace.trans h.workspace, fun id hid => h'.active id (h.active id hid)⟩

variable {db db' : Db}

theorem revision? (h : SameRevisions db db') (id : Uuid) : db'.revision? id = db.revision? id := by
  rw [Db.revision?, h.revisions, Db.revision?]

end SameRevisions

/-- the row that a session sees of the revision it expects -/
theorem Held.seen_id {held : Held} {db : Db} {id : Uuid} {row : RevisionRow} (h : held.seen db id = some row) :
    row.revisionId = id ∧ ∃ stored, db.revision? id = some stored := by
  rw [Held.seen, Option.map_eq_some_iff] at h
  obtain ⟨stored, hs, rfl⟩ := h
  refine ⟨?_, stored, hs⟩
  cases hf : held.revision.filter fun h => h.revisionId = id with
  | none => exact Db.revision?_id hs
  | some row =>
    obtain ⟨-, hp⟩ := Option.filter_eq_some_iff.1 hf
    exact of_decide_eq_true hp

theorem supersede_some (row : RevisionRow) (db : Db) :
    supersede (some row) db = if row.status = .working then db.setRevisionStatus row.revisionId .superseded else db := rfl

/-- what a save does, for a session that took the lock on `db₁` -/
theorem saved_of_saveRevision {held : Held} {content : RevisionContent} {r : Request} {db db₁ db₂ : Db} {row : RevisionRow}
    (hq : SameRevisions db db₁)
    (h : saveRevision held content r.principal.actorId (some r.expectedRevisionId) r.revisionId db₁ = (.ok row, db₂)) :
    ∃ cur w, held.seen db₁ r.expectedRevisionId = some cur ∧ db₁.workspace = some w ∧
      (held.workspace.getD w).status = .working ∧ (held.workspace.getD w).currentRevisionId = some r.expectedRevisionId ∧
      row.revisionId = r.revisionId ∧ Saved r content cur.status db db₂ ∧ db₂.artifacts = db₁.artifacts ∧
      db₂.patches = db₁.patches ∧
      db₂.workspace = some { w with currentRevisionId := some r.revisionId } ∧
      ∀ id ∈ contentEvidenceIds content, id ∈ db₂.activeArtifactIds := by
  obtain ⟨w, current, hc, rfl, hrow, hm, rfl⟩ := saveRevision_ok.1 h
  obtain ⟨stored, hstored, rfl⟩ := hc.stored
  obtain ⟨cur, rfl⟩ := Option.isSome_iff_exists.1 (hc.found rfl)
  have hseen : held.seen db₁ r.expectedRevisionId = some cur := hc.seen.symm
  obtain ⟨hid, old, hold⟩ := Held.seen_id hseen
  have hsup : supersede (some cur) db₁ =
      { db₁ with revisions := demoted db₁ cur.status r.expectedRevisionId } := by
    rw [supersede_some, demoted, ← hid]
    split_ifs <;> rfl
  have hdem : demoted db₁ cur.status r.expectedRevisionId = demoted db cur.status r.expectedRevisionId := by
    simp only [demoted, Db.setRevisionStatus, hq.revisions]
  simp only [revisionRow, constraint, bind_eq_ok] at hrow
  obtain ⟨_, _, _, _, _, hfresh, _, _, hwork⟩ := hrow
  rw [hsup] at hfresh hwork
  have hmax : db₁.maxVersion = db.maxVersion := by rw [Db.maxVersion, hq.revisions, Db.maxVersion]
  refine ⟨cur, stored, hseen, hstored, hc.working, hc.parent, rfl, ?_, ?_, ?_, ?_, ?_⟩
  · refine {
      profiles := by simp only [Db.inserted, hsup, hq.profiles]
      system := by simp only [Db.inserted, hsup, hq.system]
      approvals := by simp only [Db.inserted, hsup, hq.approvals]
      workspace := ?_
      revisions := ?_
      fresh := ?_
      expected := ⟨old, by rw [← hq.revision?, hold]⟩
      oneWorking := ?_
      seenOpen := hc.notSuperseded cur rfl
      materialized := hm }
    · have hw := hq.workspace
      rw [hstored] at hw
      cases hdb : db.workspace with
      | none => rw [hdb] at hw; simp at hw
      | some w =>
        rw [hdb] at hw
        simp only [Option.map_some, Option.some.injEq, Prod.mk.injEq] at hw
        exact ⟨w, stored.profileVersionId, rfl, by simp [Db.inserted, hsup, hstored, newRevision, hw.2]⟩
    · simp only [Db.inserted, hsup, hdem, savedRow, newRevision, hmax]
      rw [hc.parent]
    · split_ifs at hfresh with hf
      · rw [Option.isNone_iff_eq_none, Db.revision?, List.find?_eq_none] at hf
        rw [Db.revision?, List.find?_eq_none]
        intro x hx hxid
        have hmem : ∃ y ∈ demoted db₁ cur.status r.expectedRevisionId, y.revisionId = x.revisionId := by
          rw [hdem, demoted]
          split_ifs
          · exact ⟨_, List.mem_map_of_mem hx, by split_ifs <;> rfl⟩
          · exact ⟨x, hx, rfl⟩
        obtain ⟨y, hy, hyx⟩ := hmem
        exact hf y hy (by simpa [newRevision, hyx] using hxid)
      · simp at hfresh
    · rw [← hdem]
      split_ifs at hwork with hf
      · intro x hx hxs
        simp only [newRevision, decide_true, Bool.true_and, Bool.not_eq_true', List.any_eq_false, decide_eq_true_eq] at hf
        exact hf x hx hxs
      · simp at hwork
  · simp only [Db.inserted, hsup]
  · simp only [Db.inserted, hsup]
  · simp only [Db.inserted, hsup, hstored, Option.map_some, newRevision]
  · intro id hid'
    have := hc.evidence id hid'
    simpa only [Db.activeArtifactIds, Db.inserted, hsup] using this

/-! ## What a request asks for -/

/-- the SELECT at which a request first read the row of the revision that it still holds when it saves -/
def Request.heldAt (r : Request) : Option Nat :=
  match r.operation with
  | .editSection .. | .editControl .. | .answer .. | .defineSystem _ | .mapInformationTypes _ | .applyPatch _
  | .migrate .. => some 2
  | .analyzeDiagram .. => some 5
  | .categorize _ => some 6
  | .restore revisionId => if revisionId = r.expectedRevisionId then some 3 else none
  | _ => none

/-- the status of the expected revision as the save sees it -/
def Request.seenStatus (r : Request) (views : Views) (db : Db) : Option RevisionState :=
  ((r.heldAt.elim db views).revision? r.expectedRevisionId).map RevisionRow.status

/-- what a migration of `base` compares: the profile that the workspace points at, and an active version of the same
profile -/
structure Migrates (w : WorkspaceRow) (db : Db) (base : RevisionContent) (profileVersionId : Uuid) (level : String)
    (old new : ResolvedProfile) (newRow : ProfileRow) : Prop where
  resolvedOld : ∃ row, db.profile? w.profileVersionId = some row ∧ resolveStoredProfile row (impactLevel base) = .ok old
  found : db.profile? profileVersionId = some newRow ∧ newRow.status = .active
  resolvedNew : resolveStoredProfile newRow level = .ok new
  sameProfile : old.profileId = new.profileId

/-- the edit of `base` that a request asks for; `w` is the row of the workspace that it works with -/
def Asks (env : Env) (views : Views) (r : Request) (db : Db) (w : WorkspaceRow) (base : RevisionContent) (e : Edit) :
    Prop :=
  match r.operation with
  | .editSection key text => e = .editSection key text
  | .editControl controlId statement status responsibility => e = .editControl controlId statement status responsibility
  | .answer questionId text => e = .answer questionId text
  | .generate execution => ∃ g, execution = .ok g ∧ e = .generation g
  | .analyzeCategorization execution => ∃ g, execution = .ok (some g) ∧ e = .proposal g
  | .applyPatch patchId => ∃ p row, db.patch? patchId = some p ∧ p.status = .proposed ∧
      p.baseRevisionId = r.expectedRevisionId ∧ db.revision? r.expectedRevisionId = some row ∧
      e = .patch p.operations row.version
  | .restore revisionId => ∃ row target, db.revision? revisionId = some row ∧ row.load = .ok target ∧ e = .restore target
  | .migrate profileVersionId level => ∃ old new newRow, Migrates w db base profileVersionId level old new newRow ∧
      e = .migrate old new newRow level none
  | .categorize form => ∃ old new newRow i, form.check (views.after 1) = .ok i ∧
      Migrates w db base w.profileVersionId form.overall old new newRow ∧
      e = .migrate old new newRow form.overall (some (buildConfirmedCategorizationFacts i))
  | .defineSystem input => e = .definition input
  | .analyzeDiagram .. => ∃ input metadata, e = .diagram input metadata
  | .mapInformationTypes mappings => e = .informationTypes mappings
  | .ingest .. => ∃ artifactId, ∃ segments : List ExtractedSegment, ∃ facts,
      segments.mapM (ExtractedSegment.fact artifactId) = .ok facts ∧ e = .ingest facts
  | .remove artifactId => e = .remove artifactId ∧ artifactId ∈ db.activeArtifactIds
  | .create .. | .proposePatch .. | .rejectPatch _ | .approve _ => False

/-- the row of the workspace that a request works with: the one it locked, but for the confirmation of a
categorization, which holds on to the one it read first -/
def WorksWith (views : Views) (r : Request) (db : Db) (w : WorkspaceRow) : Prop :=
  match r.operation with
  | .categorize _ => (views 4).workspace = some w
  | _ => db.workspace = some w

/-- where the workspace points after a request has saved `content` -/
def PointsTo (views : Views) (r : Request) (content : RevisionContent) (before after : Uuid) : Prop :=
  match r.operation with
  | .migrate profileVersionId _ => after = profileVersionId
  | .restore _ => ∃ p, profileByKey (views 4) (factValue content "profile_id") (factValue content "profile_version") =
      .ok (some p) ∧ after = p.profileVersionId
  | _ => after = before

/-- the artifacts that are not removed, before and after a request that saved -/
def ArtifactsAfter (r : Request) (db db' : Db) : Prop :=
  match r.operation with
  | .remove artifactId => db'.activeArtifactIds = db.activeArtifactIds.filter (· ≠ artifactId)
  | _ => ∀ id ∈ db.activeArtifactIds, id ∈ db'.activeArtifactIds

/-- the saved content is the edit that the request asked for, of the revision that it expected -/
structure Saves (env : Env) (views : Views) (r : Request) (db db' : Db) (e : Edit) (base content : RevisionContent)
    (w : WorkspaceRow) (seen : RevisionState) : Prop where
  worksWith : WorksWith views r db w
  current : w.currentRevisionId = some r.expectedRevisionId
  working : w.status = .working
  loaded : ∃ row, db.revision? r.expectedRevisionId = some row ∧ row.load = .ok base
  asks : Asks env views r db w base e
  applied : e.apply env.host base = .ok content
  seenAs : r.seenStatus views db = some seen
  saved : Saved r content seen db db'
  evidence : ∀ id ∈ contentEvidenceIds content, id ∈ db'.activeArtifactIds
  pointsTo : ∃ w₀ w₁, db.workspace = some w₀ ∧ db'.workspace = some w₁ ∧
    PointsTo views r content w₀.profileVersionId w₁.profileVersionId
  artifacts : ArtifactsAfter r db db'

/-! ## Errors -/

section

variable {α β : Type} {R : Db → Db → Prop}

/-- whatever the transaction does, the tables are related by `R` -/
def Keeps (R : Db → Db → Prop) (x : Txn α) : Prop := ∀ db res db', x db = (res, db') → R db db'

/-- when the transaction raises, the tables are related by `R`, unless the database itself refused a row -/
def Errs (R : Db → Db → Prop) (x : Txn α) : Prop :=
  ∀ db e db', x db = (.error e, db') → R db db' ∨ isDatabaseError e.cls

theorem keeps_readOnly (hr : ∀ db, R db db) {x : Txn α} (hx : Txn.ReadOnly x) : Keeps R x := by
  intro db res db' h
  rw [hx.eq h]
  exact hr db

theorem errs_of_keeps {x : Txn α} (hx : Keeps R x) : Errs R x := fun _ _ _ h => Or.inl (hx _ _ _ h)

theorem errs_bind (ht : ∀ u v w, R u v → R v w → R u w) {x : Txn α} {f : α → Txn β} (hx : Keeps R x)
    (hf : ∀ a, Errs R (f a)) : Errs R (x >>= f) := by
  intro db e db' h
  rcases Txn.bind_error.1 h with h | ⟨a, db₁, h₁, h₂⟩
  · exact Or.inl (hx _ _ _ h)
  · exact (hf a _ _ _ h₂).imp (ht _ _ _ (hx _ _ _ h₁)) id

/-- what follows a save raises nothing -/
theorem errs_then {x : Txn α} {f : α → Txn β} (hx : Errs R x) (hf : ∀ a db, ∃ b db', f a db = (.ok b, db')) :
    Errs R (x >>= f) := by
  intro db e db' h
  rcases Txn.bind_error.1 h with h | ⟨a, db₁, -, h₂⟩
  · exact hx _ _ _ h
  · obtain ⟨b, db₂, hb⟩ := hf a db₁
    rw [hb] at h₂
    simp at h₂

theorem errs_saveRevision (hr : ∀ db, R db db) (held : Held) (content : RevisionContent) (createdBy : String)
    (expected : Option Uuid) (revisionId : Uuid) : Errs R (saveRevision held content createdBy expected revisionId) := by
  intro db e db' h
  refine (saveRevision_error h).imp (fun he => ?_) id
  rw [he]
  exact hr db

theorem txn_discard (x : Txn α) : (discard x : Txn Unit) = x >>= fun _ => pure () := rfl

theorem errs_discard {x : Txn α} (hx : Errs R x) : Errs R (discard x : Txn Unit) :=
  errs_then hx fun _ db => ⟨(), db, rfl⟩

end

/-! ## The saving operations -/

section

variable {env : Env} {views : Views} {r : Request} {db db' : Db} {row : RevisionRow}

variable (views) in
/-- a request that read the revision it expects, made its edit, brought the tables to `db₁` and saved there -/
theorem saves_of_saveRevision {held : Held} {e : Edit} {base content : RevisionContent} {v db₁ : Db}
    {read : RevisionRow} (hq : SameRevisions db db₁) (hv : Grows v db)
    (hread : v.revision? r.expectedRevisionId = some read) (hload : read.load = .ok base)
    (hseen : ∀ cur, held.seen db r.expectedRevisionId = some cur → r.seenStatus views db = some cur.status)
    (hw : ∀ w₁, db₁.workspace = some w₁ → ∃ w, WorksWith views r db w ∧ Asks env views r db w base e ∧
      w.currentRevisionId = (held.workspace.getD w₁).currentRevisionId ∧ w.status = (held.workspace.getD w₁).status)
    (happ : e.apply env.host base = .ok content)
    (hp : ∀ w₀ w₁, db.workspace = some w₀ → db₁.workspace = some w₁ →
      PointsTo views r content w₀.profileVersionId w₁.profileVersionId)
    (ha : ∀ db', db'.artifacts = db₁.artifacts → ArtifactsAfter r db db')
    (h : saveRevision held content r.principal.actorId (some r.expectedRevisionId) r.revisionId db₁ = (.ok row, db')) :
    ∃ w seen, Saves env views r db db' e base content w seen := by
  obtain ⟨cur, w₁, hcur, hwk, hworking, hcurrent, -, hs, hart, -, hwk', hev⟩ := saved_of_saveRevision hq h
  obtain ⟨row', hrow', hload', -⟩ := hv.load hread
  obtain ⟨w, hworks, hasks, hc, hst⟩ := hw w₁ hwk
  obtain ⟨w₀, -, hw₀, -⟩ := hs.workspace
  have hcur' : held.seen db r.expectedRevisionId = some cur := by
    rw [← hcur, Held.seen, Held.seen, hq.revision?]
  exact ⟨w, cur.status, {
    worksWith := hworks
    current := hc.trans hcurrent
    working := hst.trans hworking
    loaded := ⟨row', hrow', hload'.trans hload⟩
    asks := hasks
    applied := happ
    seenAs := hseen cur hcur'
    saved := hs
    evidence := hev
    pointsTo := ⟨w₀, _, hw₀, hwk', hp w₀ w₁ hw₀ hwk⟩
    artifacts := ha db' hart }⟩

/-- the status that a save sees of a revision that the session read and holds -/
theorem seenStatus_held {n : Nat} {read : RevisionRow} (hn : r.heldAt = some n)
    (hread : (views n).revision? r.expectedRevisionId = some read) {cur : RevisionRow}
    (h : Held.seen { revision := some read } db r.expectedRevisionId = some cur) :
    r.seenStatus views db = some cur.status := by
  have hid := Db.revision?_id hread
  rw [Held.seen, Option.map_eq_some_iff] at h
  obtain ⟨stored, -, rfl⟩ := h
  rw [Request.seenStatus, hn, Option.elim_some, hread, Option.map_some]
  simp [Option.filter, hid]

theorem seenStatus_free (hn : r.heldAt = none) {cur : RevisionRow}
    (h : Held.seen {} db r.expectedRevisionId = some cur) : r.seenStatus views db = some cur.status := by
  rw [Held.seen, Option.map_eq_some_iff] at h
  obtain ⟨stored, hs, rfl⟩ := h
  rw [Request.seenStatus, hn, Option.elim_none, hs]
  rfl

theorem activeArtifactIds_congr {db db' : Db} (h : db'.artifacts = db.artifacts) :
    ∀ id ∈ db.activeArtifactIds, id ∈ db'.activeArtifactIds := by
  intro id hid
  rwa [Db.activeArtifactIds, h]

/-- a request that still holds the row it read, and touches nothing but the revisions -/
structure Simple (r : Request) : Prop where
  held : r.heldAt = some 2
  worksWith : ∀ views db w, WorksWith views r db w = (db.workspace = some w)
  pointsTo : ∀ views content before after, PointsTo views r content before after = (after = before)
  artifacts : ∀ db db', ArtifactsAfter r db db' = ∀ id ∈ db.activeArtifactIds, id ∈ db'.activeArtifactIds

theorem saves_of_simple (hr : Simple r) {e : Edit} {base content : RevisionContent} {read : RevisionRow}
    (hv : ∀ n, Grows (views n) db) (hread : loadExactCurrentRevision (views.after 1) r.expectedRevisionId = .ok read)
    (hload : read.load = .ok base) (hasks : ∀ w, Asks env views r db w base e)
    (happ : e.apply env.host base = .ok content)
    (h : saveRevision { revision := some read } content r.principal.actorId (some r.expectedRevisionId) r.revisionId db =
      (.ok row, db')) :
    ∃ base content w seen, Saves env views r db db' e base content w seen := by
  have hread : (views 2).revision? r.expectedRevisionId = some read := (loadExactCurrentRevision_ok.1 hread).2
  obtain ⟨w, seen, hs⟩ := saves_of_saveRevision views (SameRevisions.refl db) (hv 2) hread hload
    (fun cur => seenStatus_held hr.held hread) (fun w hw => ⟨w, by rwa [hr.worksWith], hasks w, rfl, rfl⟩) happ
    (fun w₀ w₁ h₀ h₁ => by rw [hr.pointsTo, Option.some.inj (h₀.symm.trans h₁)])
    (fun db' ha => by rw [hr.artifacts]; exact activeArtifactIds_congr ha) h
  exact ⟨base, content, w, seen, hs⟩

theorem saves_editSection {key text : String} (hop : r.operation = .editSection key text)
    (hv : ∀ n, Grows (views n) db)
    (h : saveSectionEdit env.host env.fresh (views.after 1) r.expectedRevisionId key text r.principal r.revisionId db =
      (.ok row, db')) :
    ∃ base content w seen, Saves env views r db db' (.editSection key text) base content w seen := by
  simp only [saveSectionEdit, Txn.bind_ok, Txn.lift_eq, Txn.require_ok, saveEditedRevision] at h
  obtain ⟨read, _, ⟨hread, rfl⟩, profile, _, ⟨-, rfl⟩, _, _, ⟨-, rfl⟩, _, _, ⟨-, rfl⟩, base, _, ⟨hload, rfl⟩, content, _,
    ⟨happ, rfl⟩, h⟩ := h
  have hr : Simple r := by constructor <;> simp only [Request.heldAt, WorksWith, PointsTo, ArtifactsAfter, hop, implies_true]
  exact saves_of_simple hr hv hread.symm hload.symm (fun w => by rw [Asks, hop]) happ.symm h

theorem saves_editControl {controlId statement : String} {status responsibility : Option String}
    (hop : r.operation = .editControl controlId statement status responsibility) (hv : ∀ n, Grows (views n) db)
    (h : saveControlEdit (views.after 1) r.expectedRevisionId controlId statement status responsibility r.principal
      r.revisionId db = (.ok row, db')) :
    ∃ base content w seen,
      Saves env views r db db' (.editControl controlId statement status responsibility) base content w seen := by
  simp only [saveControlEdit, Txn.bind_ok, Txn.lift_eq, saveEditedRevision] at h
  obtain ⟨read, _, ⟨hread, rfl⟩, profile, _, ⟨-, rfl⟩, _, _, ⟨-, rfl⟩, _, _, ⟨-, rfl⟩, base, _, ⟨hload, rfl⟩, content, _,
    ⟨happ, rfl⟩, h⟩ := h
  have hr : Simple r := by constructor <;> simp only [Request.heldAt, WorksWith, PointsTo, ArtifactsAfter, hop, implies_true]
  exact saves_of_simple hr hv hread.symm hload.symm (fun w => by rw [Asks, hop]) happ.symm h

theorem saves_answer {questionId : Uuid} {text : String} (hop : r.operation = .answer questionId text)
    (hv : ∀ n, Grows (views n) db)
    (h : saveQuestionAnswer (views.after 1) r.expectedRevisionId questionId text r.principal r.revisionId db =
      (.ok row, db')) :
    ∃ base content w seen, Saves env views r db db' (.answer questionId text) base content w seen := by
  simp only [saveQuestionAnswer, Txn.bind_ok, Txn.lift_eq, saveEditedRevision] at h
  obtain ⟨read, _, ⟨hread, rfl⟩, base, _, ⟨hload, rfl⟩, content, _, ⟨happ, rfl⟩, h⟩ := h
  have hr : Simple r := by constructor <;> simp only [Request.heldAt, WorksWith, PointsTo, ArtifactsAfter, hop, implies_true]
  exact saves_of_simple hr hv hread.symm hload.symm (fun w => by rw [Asks, hop]) happ.symm h

theorem saves_defineSystem {input : SystemDefinitionInput} (hop : r.operation = .defineSystem input)
    (hv : ∀ n, Grows (views n) db)
    (h : saveSystemDefinition (views.after 1) r.expectedRevisionId input r.principal r.revisionId db = (.ok row, db')) :
    ∃ base content w seen, Saves env views r db db' (.definition input) base content w seen := by
  simp only [saveSystemDefinition, Txn.bind_ok, Txn.lift_eq, saveEditedRevision] at h
  obtain ⟨read, _, ⟨hread, rfl⟩, base, _, ⟨hload, rfl⟩, _, _, ⟨-, rfl⟩, content, _, ⟨happ, rfl⟩, h⟩ := h
  have hr : Simple r := by constructor <;> simp only [Request.heldAt, WorksWith, PointsTo, ArtifactsAfter, hop, implies_true]
  exact saves_of_simple hr hv hread.symm hload.symm (fun w => by rw [Asks, hop]) happ.symm h

theorem saves_mapInformationTypes {mappings : List InformationTypeMapping}
    (hop : r.operation = .mapInformationTypes mappings) (hv : ∀ n, Grows (views n) db)
    (h : saveInformationTypes (views.after 1) r.expectedRevisionId mappings r.principal r.revisionId db =
      (.ok row, db')) :
    ∃ base content w seen, Saves env views r db db' (.informationTypes mappings) base content w seen := by
  simp only [saveInformationTypes, Txn.bind_ok, Txn.lift_eq, saveEditedRevision] at h
  obtain ⟨read, _, ⟨hread, rfl⟩, base, _, ⟨hload, rfl⟩, _, _, ⟨-, rfl⟩, content, _, ⟨happ, rfl⟩, h⟩ := h
  have hr : Simple r := by constructor <;> simp only [Request.heldAt, WorksWith, PointsTo, ArtifactsAfter, hop, implies_true]
  exact saves_of_simple hr hv hread.symm hload.symm (fun w => by rw [Asks, hop]) happ.symm h

theorem generationContext_ok {content : RevisionContent} {id : Uuid} (h : generationContext views id = .ok content) :
    ∃ read, (views 0).currentRevisionId = some id ∧ (views 1).revision? id = some read ∧ read.load = .ok content := by
  simp only [generationContext, bind_eq_ok, pure_eq_ok] at h
  obtain ⟨read, hread, _, _, content, hload, _, _, rfl⟩ := h
  obtain ⟨hc, hr⟩ := loadExactCurrentRevision_ok.1 hread
  exact ⟨read, hc, hr, hload⟩

/-- a request that holds no row when it saves, and touches nothing but the revisions -/
structure Free (r : Request) : Prop where
  held : r.heldAt = none
  worksWith : ∀ views db w, WorksWith views r db w = (db.workspace = some w)
  pointsTo : ∀ views content before after, PointsTo views r content before after = (after = before)
  artifacts : ∀ db db', ArtifactsAfter r db db' = ∀ id ∈ db.activeArtifactIds, id ∈ db'.activeArtifactIds

theorem saves_of_free (hr : Free r) {e : Edit} {base content : RevisionContent} {v : Db} {read : RevisionRow}
    (hv : Grows v db) (hread : v.revision? r.expectedRevisionId = some read) (hload : read.load = .ok base)
    (hasks : ∀ w, Asks env views r db w base e) (happ : e.apply env.host base = .ok content)
    (h : saveRevision {} content r.principal.actorId (some r.expectedRevisionId) r.revisionId db = (.ok row, db')) :
    ∃ base content w seen, Saves env views r db db' e base content w seen := by
  obtain ⟨w, seen, hs⟩ := saves_of_saveRevision views (SameRevisions.refl db) hv hread hload
    (fun cur => seenStatus_free hr.held) (fun w hw => ⟨w, by rwa [hr.worksWith], hasks w, rfl, rfl⟩) happ
    (fun w₀ w₁ h₀ h₁ => by rw [hr.pointsTo, Option.some.inj (h₀.symm.trans h₁)])
    (fun db' ha => by rw [hr.artifacts]; exact activeArtifactIds_congr ha) h
  exact ⟨base, content, w, seen, hs⟩

theorem saves_generate {execution : Except Err GenerationResult} (hop : r.operation = .generate execution)
    (hv : ∀ n, Grows (views n) db)
    (h : generateWorkspaceDraft env.host (views.after 1) r.expectedRevisionId execution r.principal r.revisionId db =
      (.ok row, db')) :
    ∃ g base content w seen, execution = .ok g ∧ Saves env views r db db' (.generation g) base content w seen := by
  simp only [generateWorkspaceDraft, Txn.bind_ok, Txn.lift_eq, saveEditedRevision, txn_discard, Txn.pure_ok] at h
  obtain ⟨base, _, ⟨hbase, rfl⟩, g, _, ⟨hg, rfl⟩, content, _, ⟨happ, rfl⟩, _, _, ⟨_, _, ⟨_, rfl⟩, _, rfl⟩, h⟩ := h
  obtain ⟨read, -, hread, hload⟩ := generationContext_ok hbase.symm
  have hr : Free r := by constructor <;> simp only [Request.heldAt, WorksWith, PointsTo, ArtifactsAfter, hop, implies_true]
  have happ : (Edit.generation g).apply env.host base = .ok content := happ.symm
  obtain ⟨base, content, w, seen, hs⟩ := saves_of_free hr (hv 2) hread hload
    (fun w => by rw [Asks, hop]; exact ⟨g, hg.symm, rfl⟩) happ h
  exact ⟨g, base, content, w, seen, hg.symm, hs⟩

theorem saves_analyzeCategorization {execution : Except Err (Option GeneratedCategorization)}
    (hop : r.operation = .analyzeCategorization execution) (hv : ∀ n, Grows (views n) db)
    (h : analyzeWorkspaceCategorization env.host (views.after 1) r.expectedRevisionId execution r.principal r.revisionId
      db = (.ok row, db')) :
    ∃ g base content w seen, Saves env views r db db' (.proposal g) base content w seen := by
  simp only [analyzeWorkspaceCategorization, Txn.bind_ok, Txn.lift_eq, Txn.require_ok, saveEditedRevision] at h
  obtain ⟨base, _, ⟨hbase, rfl⟩, _, _, ⟨-, rfl⟩, o, _, ⟨ho, rfl⟩, h⟩ := h
  cases o with
  | none => simp at h
  | some g =>
    simp only [Txn.bind_ok, Txn.lift_eq, txn_discard, Txn.pure_ok] at h
    obtain ⟨content, _, ⟨happ, rfl⟩, _, _, ⟨_, _, ⟨_, rfl⟩, _, rfl⟩, h⟩ := h
    obtain ⟨read, -, hread, hload⟩ := generationContext_ok hbase.symm
    have hr : Free r := by constructor <;> simp only [Request.heldAt, WorksWith, PointsTo, ArtifactsAfter, hop, implies_true]
    have happ : (Edit.proposal g).apply env.host base = .ok content := happ.symm
    obtain ⟨base, content, w, seen, hs⟩ := saves_of_free hr (hv 2) hread hload
      (fun w => by rw [Asks, hop]; exact ⟨g, ho.symm, rfl⟩) happ h
    exact ⟨g, base, content, w, seen, hs⟩

/-- tables that differ in patches only -/
theorem Saves.withPatches {e : Edit} {base content : RevisionContent} {w : WorkspaceRow} {seen : RevisionState}
    (h : Saves env views r db db' e base content w seen) (patches : List PatchRow) :
    Saves env views r db { db' with patches } e base content w seen where
  worksWith := h.worksWith
  current := h.current
  working := h.working
  loaded := h.loaded
  asks := h.asks
  applied := h.applied
  seenAs := h.seenAs
  saved := ⟨h.saved.profiles, h.saved.system, h.saved.approvals, h.saved.workspace, h.saved.revisions, h.saved.fresh,
    h.saved.expected, h.saved.oneWorking, h.saved.seenOpen, h.saved.materialized⟩
  evidence := h.evidence
  pointsTo := h.pointsTo
  artifacts := by
    have ha := h.artifacts
    unfold ArtifactsAfter at ha ⊢
    split at ha <;> exact ha

theorem saves_applyPatch {patchId : Uuid} (hop : r.operation = .applyPatch patchId) (hv : ∀ n, Grows (views n) db)
    (h : applyProposedPatch env.host env.fresh (views.after 1) patchId r.expectedRevisionId r.principal r.revisionId db =
      (.ok (), db')) :
    ∃ p v base content w seen, Saves env views r db db' (.patch p v) base content w seen := by
  simp only [applyProposedPatch, loadPatchForUpdate, Txn.bind_ok, Txn.get_eq, Txn.require_ok] at h
  obtain ⟨patch, _, ⟨d, _, ⟨hd, rfl⟩, hp⟩, _, _, ⟨hs, rfl⟩, h⟩ := h
  obtain rfl := Except.ok.inj hd
  cases hfind : d.patch? patchId with
  | none => simp [hfind] at hp
  | some p =>
    simp only [hfind, Txn.pure_ok, Except.ok.injEq] at hp
    obtain ⟨rfl, rfl⟩ := hp
    by_cases hbase : patch.baseRevisionId = r.expectedRevisionId
    · rw [if_neg (not_not.2 hbase)] at h
      simp only [Txn.bind_ok, Txn.lift_eq, saveEditedRevision, Txn.modify_eq] at h
      obtain ⟨read, _, ⟨hread, rfl⟩, base, _, ⟨hload, rfl⟩, _, _, ⟨-, rfl⟩, _, _, ⟨-, rfl⟩, content, _, ⟨happ, rfl⟩, saved,
        db₂, h, -, rfl⟩ := h
      have hr : Simple r := by
        constructor <;> simp only [Request.heldAt, WorksWith, PointsTo, ArtifactsAfter, hop, implies_true]
      have happ : (Edit.patch patch.operations read.version).apply env.host base = .ok content := happ.symm
      obtain ⟨row', hrow', -, hver⟩ := (hv 2).load (loadExactCurrentRevision_ok.1 hread.symm).2
      obtain ⟨base, content, w, seen, hsaves⟩ := saves_of_simple hr hv hread.symm hload.symm
        (fun w => by rw [Asks, hop]; exact ⟨patch, row', hfind, hs, hbase, hrow', by rw [hver]⟩) happ h
      exact ⟨_, _, base, content, w, seen, hsaves.withPatches _⟩
    · rw [if_pos hbase] at h
      simp [Txn.bind_ok] at h

theorem saves_analyzeDiagram {artifactId : Uuid} {pageNumber : Nat} {execution : Except Err DiagramAnalysisResult}
    (hop : r.operation = .analyzeDiagram artifactId pageNumber execution) (hv : ∀ n, Grows (views n) db)
    (h : analyzeWorkspaceDiagram (views.after 1) r.expectedRevisionId artifactId pageNumber execution r.principal
      r.revisionId db = (.ok row, db')) :
    ∃ input metadata base content w seen, Saves env views r db db' (.diagram input metadata) base content w seen := by
  simp only [analyzeWorkspaceDiagram, Txn.bind_ok, Txn.lift_eq, Txn.require_ok] at h
  obtain ⟨_, _, ⟨-, rfl⟩, read, _, ⟨hread, rfl⟩, base, _, ⟨hload, rfl⟩, h⟩ := h
  cases ha : diagramArtifact (views.after 1 2) artifactId with
  | none => simp [ha] at h
  | some artifact =>
    simp only [ha, Txn.bind_ok, Txn.lift_eq, Txn.require_ok, saveEditedRevision] at h
    obtain ⟨_, _, ⟨-, rfl⟩, locator, _, ⟨-, rfl⟩, analysis, _, ⟨-, rfl⟩, held, _, ⟨hheld, rfl⟩, _, _, ⟨-, rfl⟩, content, _,
      ⟨happ, rfl⟩, h⟩ := h
    have hread : (views 2).revision? r.expectedRevisionId = some read := (loadExactCurrentRevision_ok.1 hread.symm).2
    have hheld : (views 5).revision? r.expectedRevisionId = some held := (loadExactCurrentRevision_ok.1 hheld.symm).2
    have happ : (Edit.diagram _ _).apply env.host base = .ok content := happ.symm
    obtain ⟨w, seen, hs⟩ := saves_of_saveRevision views (SameRevisions.refl _) (hv 2) hread hload.symm
      (fun cur => seenStatus_held (by simp only [Request.heldAt, hop]) hheld)
      (fun w hw => ⟨w, by simpa only [WorksWith, hop] using hw, by rw [Asks, hop]; exact ⟨_, _, rfl⟩, rfl, rfl⟩) happ
      (fun w₀ w₁ h₀ h₁ => by rw [PointsTo, hop, Option.some.inj (h₀.symm.trans h₁)])
      (fun db' ha => by rw [ArtifactsAfter, hop]; exact activeArtifactIds_congr ha) h
    exact ⟨_, _, base, content, w, seen, hs⟩

/-! ## The profile of a workspace -/

def Db.repoint (db : Db) (profileVersionId : Uuid) : Db :=
  { db with workspace := db.workspace.map fun w => { w with profileVersionId } }

theorem sameRevisions_repoint (db : Db) (id : Uuid) : SameRevisions db (db.repoint id) where
  profiles := rfl
  system := rfl
  approvals := rfl
  revisions := rfl
  workspace := by simp [Db.repoint, Function.comp_def]
  active := fun _ h => h

/-- pointing a locked workspace at a profile version -/
theorem setProfileVersion_eq {w w₀ : WorkspaceRow} {id : Uuid} {res : Except Err Unit} {db db' : Db}
    (hw : db.workspace = some w₀) (h : setProfileVersion w id db = (res, db')) :
    SameRevisions db db' ∧ db'.artifacts = db.artifacts ∧ db'.patches = db.patches ∧
      ∃ w₁, db'.workspace = some w₁ ∧ w₁.currentRevisionId = w₀.currentRevisionId ∧ w₁.status = w₀.status ∧
        ((w.profileVersionId = id ∧ w₁ = w₀) ∨ (w.profileVersionId ≠ id ∧ w₁.profileVersionId = id)) := by
  unfold setProfileVersion at h
  split_ifs at h with he
  · obtain ⟨-, rfl⟩ := Txn.pure_ok.1 h
    exact ⟨SameRevisions.refl _, rfl, rfl, w₀, hw, rfl, rfl, Or.inl ⟨he, rfl⟩⟩
  · obtain ⟨-, rfl⟩ := Txn.modify_eq.1 h
    refine ⟨sameRevisions_repoint db id, rfl, rfl, { w₀ with profileVersionId := id }, ?_, rfl, rfl, Or.inr ⟨he, rfl⟩⟩
    show db.workspace.map _ = _
    rw [hw, Option.map_some]

theorem lockWorkspace_ok {held : Option WorkspaceRow} {w : WorkspaceRow} {db db' : Db}
    (h : lockWorkspace held db = (.ok w, db')) : db' = db ∧ ∃ w₀, db.workspace = some w₀ ∧ w = held.getD w₀ := by
  simp only [lockWorkspace, Txn.bind_ok, Txn.get_eq, Txn.lift_eq, Txn.pure_ok] at h
  obtain ⟨d, _, ⟨hd, rfl⟩, w₀, _, ⟨hw, rfl⟩, hr, rfl⟩ := h
  obtain rfl := Except.ok.inj hd
  refine ⟨rfl, w₀, ?_, Except.ok.inj hr⟩
  cases hdw : d.workspace with
  | none => simp [hdw, scalarOne] at hw
  | some w₁ =>
    rw [hdw, scalarOne, Except.ok.injEq] at hw
    rw [hw]

theorem saves_restore {revisionId : Uuid} (hop : r.operation = .restore revisionId) (hv : ∀ n, Grows (views n) db)
    (hstored : ∀ id row, db.revision? id = some row → ∃ c, row.load = .ok c)
    (h : restoreWorkspaceRevision (views.after 1) revisionId r.expectedRevisionId r.principal r.revisionId db =
      (.ok row, db')) :
    ∃ base content w seen, Saves env views r db db' (.restore content) base content w seen := by
  simp only [restoreWorkspaceRevision, Txn.bind_ok, txn_discard, Txn.lift_eq, Txn.pure_ok] at h
  obtain ⟨_, _, ⟨read, _, ⟨hread, rfl⟩, -, rfl⟩, h⟩ := h
  have hread : (views 2).revision? r.expectedRevisionId = some read := (loadExactCurrentRevision_ok.1 hread.symm).2
  cases htarget : (views.after 1 2).revision? revisionId with
  | none => simp [htarget] at h
  | some target =>
    simp only [htarget, Txn.bind_ok, Txn.lift_eq] at h
    obtain ⟨content, _, ⟨hload, rfl⟩, o, _, ⟨hprofile, rfl⟩, h⟩ := h
    cases o with
    | none => simp at h
    | some p =>
      simp only [Txn.bind_ok, saveEditedRevision] at h
      obtain ⟨w₀, _, hlock, _, db₁, hset, h⟩ := h
      obtain ⟨rfl, w₀', hw₀, rfl⟩ := lockWorkspace_ok hlock
      obtain ⟨hq, hart, -, w₁, hw₁, hc, hst, hpid⟩ := setProfileVersion_eq hw₀ hset
      obtain ⟨row', hrow', hsame, -⟩ := (hv 2).revisions _ _ hread
      obtain ⟨base, hbase⟩ := hstored _ _ hrow'
      have hreadLoad : read.load = .ok base := by rw [← hbase, ← hsame]; rfl
      have happ : (Edit.restore content).apply env.host base = .ok content := rfl
      obtain ⟨row'', hrow'', hload'', -⟩ := (hv 3).load htarget
      obtain ⟨w, seen, hs⟩ := saves_of_saveRevision views hq (hv 2) hread hreadLoad
        (fun cur hcur => by
          by_cases hid : revisionId = r.expectedRevisionId
          · subst hid
            exact seenStatus_held (n := 3) (by simp only [Request.heldAt, hop, if_true]) htarget hcur
          · refine seenStatus_free (by simp only [Request.heldAt, hop, if_neg hid]) ?_
            rw [← hcur, Held.seen, Held.seen]
            simp [Option.filter, Db.revision?_id htarget, hid])
        (fun w hw => ⟨w₀, by simpa only [WorksWith, hop] using hw₀,
          by rw [Asks, hop]; exact ⟨row'', content, hrow'', hload''.trans hload.symm, rfl⟩,
          by rw [hw₁] at hw; rw [← Option.some.inj hw]; exact hc.symm,
          by rw [hw₁] at hw; rw [← Option.some.inj hw]; exact hst.symm⟩) happ
        (fun w w' hw hw' => by
          rw [PointsTo, hop]
          refine ⟨p, hprofile.symm, ?_⟩
          rw [← Option.some.inj (hw₁.symm.trans hw')]
          rcases hpid with ⟨he, rfl⟩ | ⟨-, he⟩
          · exact he
          · exact he)
        (fun db' ha => by rw [ArtifactsAfter, hop]; exact activeArtifactIds_congr (ha.trans hart)) h
      exact ⟨base, content, w, seen, hs⟩

theorem planMigration_ok {current : RevisionRow} {w : WorkspaceRow} {id : Uuid} {level : String} {plan : MigrationPlan}
    (h : planMigration current w id level db = .ok plan) :
    current.load = .ok plan.content ∧ Migrates w db plan.content id level plan.old plan.new plan.newRow := by
  simp only [planMigration, bind_eq_ok, ensure_eq_ok, pure_eq_ok] at h
  obtain ⟨oldRow, hold, newRow, hnew, content, hload, old, hro, new, hrn, _, hsame, rfl⟩ := h
  refine ⟨hload, ⟨⟨oldRow, ?_, hro⟩, ?_, hrn, hsame⟩⟩
  · cases hp : db.profile? w.profileVersionId with
    | none => simp [hp, scalarOne] at hold
    | some p =>
      rw [hp, scalarOne, Except.ok.injEq] at hold
      rw [hold]
  · unfold activeProfile at hnew
    cases hp : (db.profile? id).filter fun p => p.status = .active with
    | none => simp [hp] at hnew
    | some p =>
      simp only [hp, Except.ok.injEq] at hnew
      subst hnew
      obtain ⟨hf, hs⟩ := Option.filter_eq_some_iff.1 hp
      exact ⟨hf, of_decide_eq_true hs⟩

variable (views) in
/-- a migration that is not the one the workspace is already at -/
theorem saves_migrateWorkspaceProfile {held : Option WorkspaceRow} {vs : Views} {id : Uuid} {level : String}
    {categorization : Option (List FactContent)} {result : RevisionRow × ProfileDiff} (hv : Grows (vs 1) db)
    (hseen : ∀ cur read, (vs 1).revision? r.expectedRevisionId = some read →
      Held.seen { revision := some read } db r.expectedRevisionId = some cur → r.seenStatus views db = some cur.status)
    (hw : ∀ w₀, db.workspace = some w₀ → WorksWith views r db (held.getD w₀))
    (hasks : ∀ w base old new newRow, Migrates w db base id level old new newRow → WorksWith views r db w →
      Asks env views r db w base (.migrate old new newRow level categorization))
    (hp : ∀ content w₀ w₁, db.workspace = some w₀ →
      ((held.getD w₀).profileVersionId = id ∧ w₁ = w₀ ∨
        (held.getD w₀).profileVersionId ≠ id ∧ w₁.profileVersionId = id) →
      PointsTo views r content w₀.profileVersionId w₁.profileVersionId)
    (ha : ∀ db', db'.artifacts = db.artifacts → ArtifactsAfter r db db')
    (h : migrateWorkspaceProfile env.host vs held id level r.expectedRevisionId categorization r.principal r.revisionId
      db = (.ok result, db')) :
    (categorization = none ∧ db' = db) ∨ ∃ old new newRow base content w seen,
      Saves env views r db db' (.migrate old new newRow level categorization) base content w seen := by
  simp only [migrateWorkspaceProfile, Txn.bind_ok, Txn.lift_eq, Txn.require_ok, Txn.get_eq] at h
  obtain ⟨current, _, ⟨hcur, rfl⟩, w, _, hlock, _, _, ⟨hexp, rfl⟩, d, _, ⟨hd, rfl⟩, plan, _, ⟨hplan, rfl⟩, h⟩ := h
  obtain ⟨rfl, w₀, hw₀, rfl⟩ := lockWorkspace_ok hlock
  obtain rfl := Except.ok.inj hd
  have hread : (vs 1).revision? r.expectedRevisionId = some current := (loadExactCurrentRevision_ok.1 hcur.symm).2
  obtain ⟨hload, hmig⟩ := planMigration_ok hplan.symm
  split_ifs at h with hsame
  · left
    cases hc : categorization with
    | some facts => simp [hc] at hsame
    | none => exact ⟨rfl, (Txn.pure_ok.1 h).2⟩
  · right
    simp only [Txn.bind_ok, Txn.lift_eq, saveEditedRevision, Txn.pure_ok] at h
    obtain ⟨diff, _, ⟨hdiff, rfl⟩, content, _, ⟨hcontent, rfl⟩, _, db₁, hset, saved, _, hsave, -, rfl⟩ := h
    obtain ⟨hq, hart, -, w₁, hw₁, hcur₁, hst₁, hpid⟩ := setProfileVersion_eq hw₀ hset
    have happ : (Edit.migrate plan.old plan.new plan.newRow level categorization).apply env.host plan.content =
        .ok content := by
      simp only [Edit.apply, bind_eq_ok]
      exact ⟨diff, hdiff.symm, hcontent.symm⟩
    have hworks := hw w₀ hw₀
    obtain ⟨w, seen, hs⟩ := saves_of_saveRevision views hq hv hread hload
      (fun cur hc => hseen cur current hread (by rw [← hc]; rfl))
      (fun w hw => ⟨held.getD w₀, hworks, hasks _ _ _ _ _ hmig hworks, by
        rw [hw₁] at hw
        obtain rfl := Option.some.inj hw
        cases held with
        | none => exact hcur₁.symm
        | some _ => rfl, by
        rw [hw₁] at hw
        obtain rfl := Option.some.inj hw
        cases held with
        | none => exact hst₁.symm
        | some _ => rfl⟩) happ
      (fun w w' hw hw' => by
        obtain rfl := Option.some.inj (hw₀.symm.trans hw)
        obtain rfl := Option.some.inj (hw₁.symm.trans hw')
        exact hp _ _ _ hw₀ hpid)
      (fun db' h' => ha db' (h'.trans hart)) hsave
    exact ⟨_, _, _, _, _, w, seen, hs⟩

theorem saves_migrate {profileVersionId : Uuid} {level : String} {result : RevisionRow × ProfileDiff}
    (hop : r.operation = .migrate profileVersionId level) (hv : ∀ n, Grows (views n) db)
    (h : migrateWorkspaceProfile env.host (views.after 1) none profileVersionId level r.expectedRevisionId none
      r.principal r.revisionId db = (.ok result, db')) :
    db' = db ∨ ∃ old new newRow base content w seen,
      Saves env views r db db' (.migrate old new newRow level none) base content w seen := by
  refine (saves_migrateWorkspaceProfile views (hv 2) (fun cur read hread hc => ?_) (fun w₀ hw₀ => ?_)
    (fun w base old new newRow hm _ => ?_) (fun content w₀ w₁ hw₀ hpid => ?_) (fun db' ha => ?_) h).imp And.right id
  · exact seenStatus_held (n := 2) (by simp only [Request.heldAt, hop]) hread hc
  · simp only [WorksWith, hop]
    exact hw₀
  · rw [Asks, hop]
    exact ⟨old, new, newRow, hm, rfl⟩
  · rw [PointsTo, hop]
    rcases hpid with ⟨he, rfl⟩ | ⟨-, he⟩
    · exact he
    · exact he
  · rw [ArtifactsAfter, hop]
    exact activeArtifactIds_congr ha

theorem saves_categorize {form : CategorizationForm} {result : RevisionRow × ProfileDiff}
    (hop : r.operation = .categorize form) (hv : ∀ n, Grows (views n) db)
    (h : saveSystemCategorization env.host (views.after 1) r.expectedRevisionId form r.principal r.revisionId db =
      (.ok result, db')) :
    ∃ old new newRow i base content w seen, form.check (views.after 1) = .ok i ∧
      Saves env views r db db' (.migrate old new newRow form.overall (some (buildConfirmedCategorizationFacts i))) base
        content w seen := by
  simp only [saveSystemCategorization, Txn.bind_ok, Txn.lift_eq] at h
  obtain ⟨i, _, ⟨hi, rfl⟩, w, _, ⟨hw, rfl⟩, h⟩ := h
  have hw : (views 4).workspace = some w := by
    change Except.ok w = scalarOne (views 4).workspace at hw
    cases hvw : (views 4).workspace with
    | none => simp [hvw, scalarOne] at hw
    | some w' =>
      rw [hvw, scalarOne, Except.ok.injEq] at hw
      rw [hw]
  refine Or.elim (saves_migrateWorkspaceProfile views (hv 6) (fun cur read hread hc => ?_) (fun w₀ _ => ?_)
    (fun w' base old new newRow hm hw' => ?_) (fun content w₀ w₁ _ hpid => ?_) (fun db' ha => ?_) h)
    (fun hn => ?_) (fun hs => ?_)
  · exact seenStatus_held (n := 6) (by simp only [Request.heldAt, hop]) hread hc
  · simp only [WorksWith, hop]
    exact hw
  · simp only [WorksWith, hop] at hw'
    obtain rfl := Option.some.inj (hw.symm.trans hw')
    rw [Asks, hop]
    exact ⟨old, new, newRow, i, hi.symm, hm, rfl⟩
  · rw [PointsTo, hop]
    rcases hpid with ⟨-, rfl⟩ | ⟨hne, -⟩
    · rfl
    · exact absurd rfl hne
  · rw [ArtifactsAfter, hop]
    exact activeArtifactIds_congr ha
  · simp at hn
  · obtain ⟨old, new, newRow, base, content, w, seen, hs⟩ := hs
    exact ⟨old, new, newRow, i, base, content, w, seen, hi.symm, hs⟩

/-! ## Evidence -/

theorem activeArtifactIds_remove (db : Db) (artifactId : Uuid) (now : Nat) :
    (db.setRemovedAt artifactId (some now)).activeArtifactIds = db.activeArtifactIds.filter (· ≠ artifactId) := by
  simp only [Db.activeArtifactIds, Db.setRemovedAt]
  induction db.artifacts with
  | nil => rfl
  | cons a as ih =>
    by_cases hid : a.evidenceArtifactId = artifactId <;> cases hr : a.removedAt <;>
      simp only [List.map_cons, List.filter_cons, hid, hr, ih, if_true, if_false, Option.isNone_some, Option.isNone_none,
        ne_eq, not_true_eq_false, not_false_eq_true, decide_true, decide_false, Bool.false_eq_true]

theorem activeArtifactIds_kept (db : Db) (artifactId : Uuid) :
    ∀ id ∈ db.activeArtifactIds, id ∈ (db.setRemovedAt artifactId none).activeArtifactIds := by
  intro id hid
  obtain ⟨a, ha, rfl⟩ := List.mem_map.1 hid
  obtain ⟨hm, hr⟩ := List.mem_filter.1 ha
  refine List.mem_map.2 ⟨if a.evidenceArtifactId = artifactId then { a with removedAt := none } else a,
    List.mem_filter.2 ⟨List.mem_map_of_mem hm, ?_⟩, ?_⟩
  · split_ifs
    · rfl
    · exact hr
  · split_ifs <;> rfl

/-- tables that differ in artifacts only, where none was removed -/
theorem sameRevisions_artifacts {artifacts : List ArtifactRow}
    (h : ∀ id ∈ db.activeArtifactIds, id ∈ ({ db with artifacts } : Db).activeArtifactIds) :
    SameRevisions db { db with artifacts } := ⟨rfl, rfl, rfl, rfl, rfl, h⟩

theorem sameRevisions_patches (db : Db) (patches : List PatchRow) : SameRevisions db { db with patches } :=
  ⟨rfl, rfl, rfl, rfl, rfl, fun _ h => h⟩

theorem lockCurrentRevision_ok {id : Uuid} {read : RevisionRow} (h : lockCurrentRevision id db = (.ok read, db')) :
    db' = db ∧ db.currentRevisionId = some id ∧ db.revision? id = some read := by
  simp only [lockCurrentRevision, Txn.bind_ok, Txn.get_eq, Txn.require_ok] at h
  obtain ⟨d, _, ⟨hd, rfl⟩, _, _, ⟨-, rfl⟩, _, _, ⟨hc, rfl⟩, h⟩ := h
  obtain rfl := Except.ok.inj hd
  cases hr : d.revision? id with
  | none => simp [hr] at h
  | some read =>
    simp only [hr, Txn.pure_ok, Except.ok.injEq] at h
    exact ⟨h.2, hc, by rw [← h.1]⟩

/-- facts filed into the current revision, when there are any; `db₁` is the tables with the artifact -/
theorem saves_extractedFacts {file : UploadedFile} {artifactId owner : Uuid} {segments : List ExtractedSegment}
    {facts : List FactContent} {db₁ : Db} {read : RevisionRow} (hop : r.operation = .ingest file artifactId)
    (hq : SameRevisions db db₁) (hw : db₁.workspace = db.workspace) (hread : db.revision? r.expectedRevisionId = some read)
    (hfacts : segments.mapM (ExtractedSegment.fact owner) = .ok facts)
    (h : saveExtractedFacts read facts r.principal r.revisionId db₁ = (.ok (), db')) :
    db' = db₁ ∨ ∃ facts base content w seen, Saves env views r db db' (.ingest facts) base content w seen := by
  unfold saveExtractedFacts at h
  split_ifs at h
  · exact Or.inl (Txn.pure_ok.1 h).2
  · right
    simp only [Txn.bind_ok, Txn.lift_eq, txn_discard, Txn.pure_ok] at h
    obtain ⟨base, _, ⟨hload, rfl⟩, saved, _, hsave, -, rfl⟩ := h
    have hid := Db.revision?_id hread
    rw [hid] at hsave
    obtain ⟨w, seen, hs⟩ := saves_of_saveRevision views (e := .ingest facts) hq (Grows.refl db) hread hload.symm
      (fun cur => seenStatus_free (by simp only [Request.heldAt, hop]))
      (fun w₁ hw₁ => ⟨w₁, by simp only [WorksWith, hop]; rw [← hw, hw₁],
        by rw [Asks, hop]; exact ⟨owner, segments, facts, hfacts, rfl⟩, rfl, rfl⟩) rfl
      (fun w₀ w₁ h₀ h₁ => by
        rw [hw, h₀] at h₁
        rw [PointsTo, hop, Option.some.inj h₁])
      (fun db' ha => by
        rw [ArtifactsAfter, hop]
        exact fun id hid => activeArtifactIds_congr ha id (hq.active id hid)) hsave
    exact ⟨facts, base, _, w, seen, hs⟩

theorem saves_ingest {file : UploadedFile} {artifactId : Uuid} (hop : r.operation = .ingest file artifactId)
    (h : ingestWorkspaceEvidence env.host env.maxSingleFileBytes (views.after 1) r.expectedRevisionId file artifactId
      r.principal r.revisionId db = (.ok (), db')) :
    SameRevisions db db' ∨ ∃ facts base content w seen, Saves env views r db db' (.ingest facts) base content w seen := by
  simp only [ingestWorkspaceEvidence, Txn.bind_ok, Txn.lift_eq, Txn.get_eq] at h
  obtain ⟨_, _, ⟨-, rfl⟩, _, _, ⟨-, rfl⟩, extraction, _, ⟨-, rfl⟩, facts, _, ⟨hfacts, rfl⟩, read, _, hlock, d, _,
    ⟨hd, rfl⟩, h⟩ := h
  obtain ⟨rfl, -, hread⟩ := lockCurrentRevision_ok hlock
  obtain rfl := Except.ok.inj hd
  cases hdup : d.artifacts.find? fun a => a.sha256 = file.sha256 with
  | some duplicate =>
    simp only [hdup, restoreDuplicate] at h
    split_ifs at h
    · exact Or.inl ((Txn.pure_ok.1 h).2 ▸ SameRevisions.refl _)
    · simp only [Txn.bind_ok, Txn.modify_eq, Txn.lift_eq] at h
      obtain ⟨_, _, ⟨-, rfl⟩, facts, _, ⟨hf, rfl⟩, h⟩ := h
      have hq := sameRevisions_artifacts (activeArtifactIds_kept d duplicate.evidenceArtifactId)
      refine (saves_extractedFacts hop hq rfl hread hf.symm h).imp (fun he => ?_) id
      rw [he]
      exact hq
  | none =>
    have hq : SameRevisions d { d with artifacts := d.artifacts ++ [file.artifact env.host artifactId extraction] } := by
      refine sameRevisions_artifacts fun id hid => ?_
      obtain ⟨a, ha, rfl⟩ := List.mem_map.1 hid
      obtain ⟨hm, hr⟩ := List.mem_filter.1 ha
      exact List.mem_map_of_mem (List.mem_filter.2 ⟨List.mem_append_left _ hm, hr⟩)
    simp only [hdup, Txn.bind_ok, Txn.modify_eq, Txn.lift_eq, txn_discard, Txn.pure_ok] at h
    obtain ⟨_, _, ⟨-, rfl⟩, _, _, ⟨-, rfl⟩, _, _, ⟨_, _, ⟨-, rfl⟩, -, rfl⟩, h⟩ := h
    refine (saves_extractedFacts hop hq rfl hread hfacts.symm h).imp (fun he => ?_) id
    rw [he]
    exact hq

theorem mem_withoutArtifact {a : Uuid} {links : List EvidenceLink} {l : EvidenceLink} (h : l ∈ withoutArtifact a links) :
    l ∈ links ∧ l.artifactId ≠ a := by simpa [withoutArtifact] using h

/-- no link to the removed artifact stays -/
theorem contentEvidenceIds_remove {base : RevisionContent} {a id : Uuid}
    (h : id ∈ contentEvidenceIds (removeArtifact base a)) : id ≠ a := by
  simp only [contentEvidenceIds, removeArtifact, List.mem_map, List.mem_append, List.mem_flatMap, List.mem_filterMap] at h
  obtain ⟨l, (⟨f, ⟨f₀, -, hf⟩, hl⟩ | ⟨s, ⟨s₀, -, rfl⟩, hl⟩) | ⟨x, ⟨x₀, -, rfl⟩, hl⟩, rfl⟩ := h
  · obtain ⟨rfl, -⟩ := retainedFact_some hf
    exact (mem_withoutArtifact hl).2
  · exact (mem_withoutArtifact hl).2
  · exact (mem_withoutArtifact hl).2

theorem saves_remove {artifactId : Uuid} (hop : r.operation = .remove artifactId)
    (h : removeWorkspaceEvidence artifactId r.expectedRevisionId r.principal r.now r.revisionId db = (.ok (), db')) :
    ∃ base content w seen, Saves env views r db db' (.remove artifactId) base content w seen := by
  simp only [removeWorkspaceEvidence, Txn.bind_ok, Txn.lift_eq, Txn.get_eq, Txn.require_ok, txn_discard, Txn.pure_ok,
    Txn.modify_eq] at h
  obtain ⟨read, _, hlock, base, _, ⟨hload, rfl⟩, d, _, ⟨hd, rfl⟩, _, _, ⟨-, rfl⟩, _, _, ⟨hactive, rfl⟩, _, db₂,
    ⟨saved, _, hsave, -, rfl⟩, -, rfl⟩ := h
  obtain ⟨rfl, -, hread⟩ := lockCurrentRevision_ok hlock
  obtain rfl := Except.ok.inj hd
  obtain ⟨cur, w, hcur, hw, hworking, hcurrent, -, hs, hart, -, hw', hev⟩ := saved_of_saveRevision (SameRevisions.refl d) hsave
  refine ⟨base, removeArtifact base artifactId, w, cur.status, {
    worksWith := by simpa only [WorksWith, hop] using hw
    current := hcurrent
    working := hworking
    loaded := ⟨read, hread, hload.symm⟩
    asks := by rw [Asks, hop]; exact ⟨rfl, hactive⟩
    applied := rfl
    seenAs := seenStatus_free (by simp only [Request.heldAt, hop]) hcur
    saved := ⟨hs.profiles, hs.system, hs.approvals, hs.workspace, hs.revisions, hs.fresh, hs.expected, hs.oneWorking,
      hs.seenOpen, hs.materialized⟩
    evidence := fun id hid => ?_
    pointsTo := ⟨w, _, hw, hw', by rw [PointsTo, hop]⟩
    artifacts := ?_ }⟩
  · rw [activeArtifactIds_remove, List.mem_filter]
    exact ⟨hev id hid, decide_eq_true (contentEvidenceIds_remove hid)⟩
  · rw [ArtifactsAfter, hop]
    show (Db.setRemovedAt _ artifactId (some r.now)).activeArtifactIds = _
    rw [activeArtifactIds_remove, Db.activeArtifactIds, hart, Db.activeArtifactIds]

end

/-! ## What a refused operation leaves -/

section Refused

variable {α β : Type} {R : Db → Db → Prop}

theorem errs_readOnly {x : Txn α} (hr : ∀ db, R db db) (hx : Txn.ReadOnly x) : Errs R x :=
  errs_of_keeps (keeps_readOnly hr hx)

theorem errs_readOnly_bind (hr : ∀ db, R db db) {x : Txn α} {f : α → Txn β} (hx : Txn.ReadOnly x)
    (hf : ∀ a, Errs R (f a)) : Errs R (x >>= f) := by
  intro db e db' h
  rcases Txn.bind_error.1 h with h | ⟨a, db₁, h₁, h₂⟩
  · left
    rw [hx.eq h]
    exact hr db
  · obtain rfl := hx.eq h₁
    exact hf a _ _ _ h₂

theorem errs_lift_bind (hr : ∀ db, R db db) {x : Except Err α} {f : α → Txn β} (hf : ∀ a, Errs R (f a)) :
    Errs R (Txn.lift x >>= f) := errs_readOnly_bind hr (Txn.readOnly_lift x) hf

theorem errs_discard_lift_bind (hr : ∀ db, R db db) {x : Except Err α} {f : Unit → Txn β} (hf : ∀ a, Errs R (f a)) :
    Errs R (discard (Txn.lift x) >>= f) :=
  errs_readOnly_bind hr (Txn.readOnly_bind (Txn.readOnly_lift x) fun _ => Txn.readOnly_pure _) hf

theorem errs_require_bind (hr : ∀ db, R db db) {p : Prop} [Decidable p] {cls : ErrClass} {detail : String}
    {f : Unit → Txn β} (hf : ∀ a, Errs R (f a)) : Errs R (Txn.require p cls detail >>= f) :=
  errs_readOnly_bind hr (Txn.readOnly_require p cls detail) hf

theorem errs_get_bind (hr : ∀ db, R db db) {f : Db → Txn β} (hf : ∀ a, Errs R (f a)) : Errs R (Txn.get >>= f) :=
  errs_readOnly_bind hr Txn.readOnly_get hf

theorem errs_lift (hr : ∀ db, R db db) (x : Except Err α) : Errs R (Txn.lift x) := errs_readOnly hr (Txn.readOnly_lift x)

theorem errs_pure (a : α) : Errs R (pure a) := by
  intro db e db' h
  simp at h

theorem errs_modify (f : Db → Db) : Errs R (Txn.modify f) := by
  intro db e db' h
  simp at h

theorem readOnly_lockWorkspace (held : Option WorkspaceRow) : Txn.ReadOnly (lockWorkspace held) :=
  Txn.readOnly_bind Txn.readOnly_get fun _ => Txn.readOnly_bind (Txn.readOnly_lift _) fun _ => Txn.readOnly_pure _

theorem readOnly_lockCurrentRevision (id : Uuid) : Txn.ReadOnly (lockCurrentRevision id) := by
  refine Txn.readOnly_bind Txn.readOnly_get fun db => Txn.readOnly_bind (Txn.readOnly_require _ _ _) fun _ =>
    Txn.readOnly_bind (Txn.readOnly_require _ _ _) fun _ => ?_
  cases db.revision? id with
  | none => exact Txn.readOnly_lift _
  | some row => exact Txn.readOnly_pure _

theorem readOnly_loadPatchForUpdate (id : Uuid) : Txn.ReadOnly (loadPatchForUpdate id) := by
  refine Txn.readOnly_bind Txn.readOnly_get fun db => ?_
  cases db.patch? id with
  | none => exact Txn.readOnly_lift _
  | some row => exact Txn.readOnly_pure _

variable (hr : ∀ db, R db db)

include hr

theorem errs_saveSectionEdit (host : Host) (fresh : Nat → String) (views : Views) (expected : Uuid) (key text : String)
    (actor : Principal) (newId : Uuid) : Errs R (saveSectionEdit host fresh views expected key text actor newId) :=
  errs_lift_bind hr fun _ => errs_lift_bind hr fun _ => errs_lift_bind hr fun _ => errs_require_bind hr fun _ =>
    errs_lift_bind hr fun _ => errs_lift_bind hr fun _ => errs_saveRevision hr _ _ _ _ _

theorem errs_saveControlEdit (views : Views) (expected : Uuid) (controlId statement : String)
    (status responsibility : Option String) (actor : Principal) (newId : Uuid) :
    Errs R (saveControlEdit views expected controlId statement status responsibility actor newId) :=
  errs_lift_bind hr fun _ => errs_lift_bind hr fun _ => errs_lift_bind hr fun _ => errs_lift_bind hr fun _ =>
    errs_lift_bind hr fun _ => errs_lift_bind hr fun _ => errs_saveRevision hr _ _ _ _ _

theorem errs_saveQuestionAnswer (views : Views) (expected questionId : Uuid) (answer : String) (actor : Principal)
    (newId : Uuid) : Errs R (saveQuestionAnswer views expected questionId answer actor newId) :=
  errs_lift_bind hr fun _ => errs_lift_bind hr fun _ => errs_lift_bind hr fun _ => errs_saveRevision hr _ _ _ _ _

theorem errs_saveSystemDefinition (views : Views) (expected : Uuid) (input : SystemDefinitionInput) (actor : Principal)
    (newId : Uuid) : Errs R (saveSystemDefinition views expected input actor newId) :=
  errs_lift_bind hr fun _ => errs_lift_bind hr fun _ => errs_lift_bind hr fun _ => errs_lift_bind hr fun _ =>
    errs_saveRevision hr _ _ _ _ _

theorem errs_saveInformationTypes (views : Views) (expected : Uuid) (mappings : List InformationTypeMapping)
    (actor : Principal) (newId : Uuid) : Errs R (saveInformationTypes views expected mappings actor newId) :=
  errs_lift_bind hr fun _ => errs_lift_bind hr fun _ => errs_lift_bind hr fun _ => errs_lift_bind hr fun _ =>
    errs_saveRevision hr _ _ _ _ _

theorem errs_generateWorkspaceDraft (host : Host) (views : Views) (expected : Uuid)
    (execution : Except Err GenerationResult) (actor : Principal) (newId : Uuid) :
    Errs R (generateWorkspaceDraft host views expected execution actor newId) :=
  errs_lift_bind hr fun _ => errs_lift_bind hr fun _ => errs_lift_bind hr fun _ => errs_discard_lift_bind hr fun _ =>
    errs_saveRevision hr _ _ _ _ _

theorem errs_analyzeWorkspaceCategorization (host : Host) (views : Views) (expected : Uuid)
    (execution : Except Err (Option GeneratedCategorization)) (actor : Principal) (newId : Uuid) :
    Errs R (analyzeWorkspaceCategorization host views expected execution actor newId) := by
  refine errs_lift_bind hr fun content => errs_require_bind hr fun _ => errs_lift_bind hr fun o => ?_
  cases o with
  | none => exact errs_lift hr _
  | some g => exact errs_lift_bind hr fun _ => errs_discard_lift_bind hr fun _ => errs_saveRevision hr _ _ _ _ _

theorem errs_analyzeWorkspaceDiagram (views : Views) (expected artifactId : Uuid) (pageNumber : Nat)
    (execution : Except Err DiagramAnalysisResult) (actor : Principal) (newId : Uuid) :
    Errs R (analyzeWorkspaceDiagram views expected artifactId pageNumber execution actor newId) := by
  refine errs_require_bind hr fun _ => errs_lift_bind hr fun _ => errs_lift_bind hr fun _ => ?_
  cases diagramArtifact (views 2) artifactId with
  | none => exact errs_lift hr _
  | some artifact =>
    exact errs_require_bind hr fun _ => errs_lift_bind hr fun _ => errs_lift_bind hr fun _ => errs_lift_bind hr fun _ =>
      errs_require_bind hr fun _ => errs_lift_bind hr fun _ => errs_saveRevision hr _ _ _ _ _

theorem errs_proposeAgentPatch (views : Views) (expected : Uuid) (execution : Except Err PatchResult) (patchId : Uuid) :
    Errs R (proposeAgentPatch views expected execution patchId) :=
  errs_discard_lift_bind hr fun _ => errs_lift_bind hr fun _ => errs_discard_lift_bind hr fun _ =>
    errs_discard_lift_bind hr fun _ => errs_lift_bind hr fun _ => errs_get_bind hr fun _ => errs_lift_bind hr fun _ =>
      errs_modify _

theorem errs_applyProposedPatch (hpatch : ∀ db : Db, ∀ patches, R db { db with patches }) (host : Host)
    (fresh : Nat → String) (views : Views) (patchId expected : Uuid) (actor : Principal) (newId : Uuid) :
    Errs R (applyProposedPatch host fresh views patchId expected actor newId) := by
  refine errs_readOnly_bind hr (readOnly_loadPatchForUpdate _) fun patch => errs_require_bind hr fun _ => ?_
  split_ifs
  · intro db e db' h
    rcases Txn.bind_error.1 h with h | ⟨_, db₁, h₁, h₂⟩
    · simp at h
    · obtain ⟨-, rfl⟩ := Txn.modify_eq.1 h₁
      obtain ⟨-, rfl⟩ := Txn.fail_eq.1 h₂
      exact Or.inl (hpatch db _)
  · exact errs_lift_bind hr fun _ => errs_lift_bind hr fun _ => errs_lift_bind hr fun _ => errs_lift_bind hr fun _ =>
      errs_lift_bind hr fun _ => errs_then (errs_saveRevision hr _ _ _ _ _) fun _ db => ⟨(), _, rfl⟩

theorem errs_rejectProposedPatch (patchId : Uuid) : Errs R (rejectProposedPatch patchId) :=
  errs_readOnly_bind hr (readOnly_loadPatchForUpdate _) fun _ => errs_require_bind hr fun _ => errs_modify _

theorem keeps_setProfileVersion (hset : ∀ db id, R db (Db.repoint db id)) (w : WorkspaceRow) (id : Uuid) :
    Keeps R (setProfileVersion w id) := by
  intro db res db' h
  unfold setProfileVersion at h
  split_ifs at h
  · obtain ⟨-, rfl⟩ := Txn.pure_ok.1 h
    exact hr _
  · obtain ⟨-, rfl⟩ := Txn.modify_eq.1 h
    exact hset db id

theorem errs_restoreWorkspaceRevision (ht : ∀ u v w, R u v → R v w → R u w) (hset : ∀ db id, R db (Db.repoint db id))
    (views : Views) (revisionId expected : Uuid) (actor : Principal) (newId : Uuid) :
    Errs R (restoreWorkspaceRevision views revisionId expected actor newId) := by
  refine errs_discard_lift_bind hr fun _ => ?_
  cases (views 2).revision? revisionId with
  | none => exact errs_lift hr _
  | some target =>
    refine errs_lift_bind hr fun content => errs_lift_bind hr fun o => ?_
    cases o with
    | none => exact errs_lift hr _
    | some p =>
      exact errs_readOnly_bind hr (readOnly_lockWorkspace _) fun _ =>
        errs_bind ht (keeps_setProfileVersion hr hset _ _) fun _ => errs_saveRevision hr _ _ _ _ _

theorem errs_migrateWorkspaceProfile (ht : ∀ u v w, R u v → R v w → R u w) (hset : ∀ db id, R db (Db.repoint db id))
    (host : Host) (views : Views) (held : Option WorkspaceRow) (id : Uuid) (level : String) (expected : Uuid)
    (categorization : Option (List FactContent)) (actor : Principal) (newId : Uuid) :
    Errs R (migrateWorkspaceProfile host views held id level expected categorization actor newId) := by
  refine errs_lift_bind hr fun _ => errs_readOnly_bind hr (readOnly_lockWorkspace _) fun _ => errs_require_bind hr fun _ =>
    errs_get_bind hr fun _ => errs_lift_bind hr fun _ => ?_
  split_ifs
  · exact errs_pure _
  · exact errs_lift_bind hr fun _ => errs_lift_bind hr fun _ => errs_bind ht (keeps_setProfileVersion hr hset _ _) fun _ =>
      errs_then (errs_saveRevision hr _ _ _ _ _) fun _ db => ⟨_, db, rfl⟩

theorem errs_saveSystemCategorization (ht : ∀ u v w, R u v → R v w → R u w) (hset : ∀ db id, R db (Db.repoint db id))
    (host : Host) (views : Views) (expected : Uuid) (form : CategorizationForm) (actor : Principal) (newId : Uuid) :
    Errs R (saveSystemCategorization host views expected form actor newId) :=
  errs_lift_bind hr fun _ => errs_lift_bind hr fun _ => errs_migrateWorkspaceProfile hr ht hset _ _ _ _ _ _ _ _ _

theorem errs_saveExtractedFacts (row : RevisionRow) (facts : List FactContent) (actor : Principal) (newId : Uuid) :
    Errs R (saveExtractedFacts row facts actor newId) := by
  unfold saveExtractedFacts
  split_ifs
  · exact errs_pure _
  · exact errs_lift_bind hr fun _ => errs_discard (errs_saveRevision hr _ _ _ _ _)

theorem errs_ingestWorkspaceEvidence (ht : ∀ u v w, R u v → R v w → R u w)
    (hart : ∀ db a, R db (Db.setRemovedAt db a none)) (hadd : ∀ (db : Db) a, R db { db with artifacts := db.artifacts ++ [a] })
    (host : Host) (max : Nat) (views : Views) (expected : Uuid) (file : UploadedFile) (artifactId : Uuid)
    (actor : Principal) (newId : Uuid) :
    Errs R (ingestWorkspaceEvidence host max views expected file artifactId actor newId) := by
  refine errs_lift_bind hr fun _ => errs_lift_bind hr fun _ => errs_lift_bind hr fun extraction => errs_lift_bind hr fun _ =>
    errs_readOnly_bind hr (readOnly_lockCurrentRevision _) fun _ => errs_get_bind hr fun db => ?_
  have hmodify : ∀ f : Db → Db, (∀ db, R db (f db)) → Keeps R (Txn.modify f) := by
    intro f hf db res db' h
    obtain ⟨-, rfl⟩ := Txn.modify_eq.1 h
    exact hf db
  cases db.artifacts.find? fun a => a.sha256 = file.sha256 with
  | some duplicate =>
    show Errs R (restoreDuplicate duplicate _ actor newId)
    unfold restoreDuplicate
    split_ifs
    · exact errs_pure _
    · exact errs_bind ht (hmodify _ fun db => hart db _) fun _ => errs_lift_bind hr fun _ => errs_saveExtractedFacts hr _ _ _ _
  | none =>
    exact errs_lift_bind hr fun _ => errs_bind ht (hmodify _ fun db => hadd db _) fun _ => errs_discard_lift_bind hr fun _ =>
      errs_saveExtractedFacts hr _ _ _ _

theorem errs_removeWorkspaceEvidence (artifactId expected : Uuid) (actor : Principal) (now : Nat) (newId : Uuid) :
    Errs R (removeWorkspaceEvidence artifactId expected actor now newId) :=
  errs_readOnly_bind hr (readOnly_lockCurrentRevision _) fun _ => errs_lift_bind hr fun _ => errs_get_bind hr fun _ =>
    errs_require_bind hr fun _ => errs_require_bind hr fun _ =>
      errs_then (errs_discard (errs_saveRevision hr _ _ _ _ _)) fun _ _ => ⟨(), _, rfl⟩

end Refused

end AtoService.Workspace
