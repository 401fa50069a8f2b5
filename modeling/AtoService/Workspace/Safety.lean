/-
What interleaved sessions keep: evidence closure, standing approvals and the linear history of the revisions.

- `evidence_closure`: the current revision cites no evidence that is removed, in every run.
- `approvals_stand`: a revision with an approval snapshot is approved, in every run in which no save still holds a row of
  the revision that it read before the approval.
- `history_linear`: versions, parents, statuses, contents and approvals, in every run in which no confirmation of a
  categorization works with a row of the workspace that it read before another save.
- `stored_revisions_load`: a revision keeps its row and its content, and its content stays valid.
-/
import AtoService.Workspace.System

namespace AtoService.Workspace

/-! ## Runs from the beginning -/

/-- the state after the actions `as`, from tables in which nothing has happened in the workspace -/
def runFrom (env : Env) (db : Db) (as : List Action) : System := Runs.run (step env) { db } as

theorem runFrom_inv (env : Env) {db : Db} (h : db.Initial) (as : List Action) : Inv (runFrom env db as) :=
  run_inv ⟨h.ok, by simp⟩ as

/-! ## Evidence -/

/-- **Evidence closure.** Whatever the current revision cites is evidence of the workspace that is not removed. -/
theorem evidence_closure (env : Env) {db : Db} (h : db.Initial) (as : List Action) {w : WorkspaceRow}
    (hw : (runFrom env db as).db.workspace = some w) : ∃ row c,
      w.currentRevisionId = some row.revisionId ∧ (runFrom env db as).db.revision? row.revisionId = some row ∧
      row.load = .ok c ∧
      ∀ link, ((∃ f ∈ c.facts, link ∈ f.evidence) ∨ (∃ s ∈ c.sections, link ∈ s.evidence) ∨
        ∃ x ∈ c.controls, link ∈ x.evidence) →
        ∃ a ∈ (runFrom env db as).db.artifacts, a.evidenceArtifactId = link.artifactId ∧ a.removedAt = none := by
  have hok := (runFrom_inv env h as).tables
  obtain ⟨row, hlast, hid, -⟩ := hok.current w hw
  have hmem := List.mem_of_getLast? hlast
  obtain ⟨c, hload, -⟩ := hok.load hmem
  refine ⟨row, c, hid, hok.revision?_eq_some.2 ⟨hmem, rfl⟩, hload, fun link hlink => ?_⟩
  have hcited : link.artifactId ∈ contentEvidenceIds c := by
    refine List.mem_map_of_mem ?_
    simp only [List.mem_append, List.mem_flatMap]
    rcases hlink with hf | hs | hx
    · exact Or.inl (Or.inl hf)
    · exact Or.inl (Or.inr hs)
    · exact Or.inr hx
  obtain ⟨a, ha, hlinked⟩ := List.mem_map.1 (hok.evidence row c hlast hload _ hcited)
  obtain ⟨ha, hr⟩ := List.mem_filter.1 ha
  exact ⟨a, ha, hlinked, Option.isNone_iff_eq_none.1 hr⟩

theorem evidence_closure_categorized : ∃ w, (runFrom Small.env Small.tables Small.categorized).db.workspace = some w ∧
    ∃ row c, w.currentRevisionId = some row.revisionId ∧
      (runFrom Small.env Small.tables Small.categorized).db.revision? row.revisionId = some row ∧ row.load = .ok c ∧
      ∀ link, ((∃ f ∈ c.facts, link ∈ f.evidence) ∨ (∃ s ∈ c.sections, link ∈ s.evidence) ∨
        ∃ x ∈ c.controls, link ∈ x.evidence) →
        ∃ a ∈ (runFrom Small.env Small.tables Small.categorized).db.artifacts,
          a.evidenceArtifactId = link.artifactId ∧ a.removedAt = none := by
  have hw : (runFrom Small.env Small.tables Small.categorized).db.workspace.isSome = true := by decide
  obtain ⟨w, hw⟩ := Option.isSome_iff_exists.1 hw
  exact ⟨w, hw, evidence_closure Small.env Small.tables_initial Small.categorized hw⟩

/-! ## Requests that nothing comes between -/

/-- what holds at each finish of a request that sees the tables as they are holds along requests that nothing comes
between -/
theorem along_whole (env : Env) {G : System → Action → Prop} (hstart : ∀ s r, G s (.start r))
    (hfinish : ∀ s x, s.sessions = [x] → x.views s.db = (fun _ => s.db) → G s (.finish 0)) (rs : List Request)
    {s : System} (hs : s.sessions = []) : Runs.Along (step env) G s (rs.flatMap whole) := by
  induction rs generalizing s with
  | nil => exact trivial
  | cons r rs ih =>
    have hstarted : (step env s (.start r)).sessions = [⟨r, []⟩] := by simp [step, hs]
    refine ⟨hstart s r, hfinish _ _ hstarted rfl, ih ?_⟩
    simp [step, hs, System.finish]

/-- the requests of `Small.reviewable` -/
def Small.reviewableRequests : List Request :=
  [ask (.create (.ofNat 1) none) 0 101, ask (.ingest file (.ofNat 50)) 101 0, ask (.categorize form) 101 102,
    ask (.defineSystem definition) 102 103, ask (.mapInformationTypes [mapping]) 103 104]

/-! ## Approvals -/

/-- the request still holds the revision it expects as it read it while it was working, and it has been approved since -/
def HoldsUnapproved (views : Views) (r : Request) (db : Db) : Prop :=
  r.seenStatus views db = some .working ∧ (db.revision? r.expectedRevisionId).any fun row => row.status = .approved

/-- no session ends holding a row of the current revision that it read before its approval -/
def SeesApprovals (s : System) : Action → Prop
  | .finish i => ∀ x, s.sessions[i]? = some x → ¬HoldsUnapproved (x.views s.db) x.request s.db
  | _ => True

instance (views : Views) (r : Request) (db : Db) : Decidable (HoldsUnapproved views r db) :=
  inferInstanceAs (Decidable (_ ∧ _))

instance (s : System) : ∀ a, Decidable (SeesApprovals s a)
  | .finish i =>
    match hx : s.sessions[i]? with
    | none => .isTrue fun x h => by rw [hx] at h; cases h
    | some x =>
      decidable_of_iff (¬HoldsUnapproved (x.views s.db) x.request s.db)
        ⟨fun h y hy => by rw [hx] at hy; cases hy; exact h, fun h => h x hx⟩
  | .start _ | .read _ | .importProfile _ _ | .activateProfile _ | .archive => .isTrue trivial

/-- a request that sees the tables as they are sees approvals -/
theorem seesApprovals_of_alone {s : System} {x : Session} (hs : s.sessions = [x])
    (hviews : x.views s.db = fun _ => s.db) : SeesApprovals s (.finish 0) := by
  intro y hy
  obtain rfl : x = y := by simpa [hs] using hy
  rintro ⟨hseen, happ⟩
  have hdb : x.request.heldAt.elim s.db (x.views s.db) = s.db := by
    rw [hviews]
    cases x.request.heldAt <;> rfl
  rw [Request.seenStatus, hdb] at hseen
  cases hrow : s.db.revision? x.request.expectedRevisionId with
  | none => simp [hrow] at happ
  | some row => simp_all

/-- every revision with an approval snapshot is approved -/
def ApprovalsStand (db : Db) : Prop :=
  ∀ a ∈ db.approvals, ∃ row, db.revision? a.revisionId = some row ∧ row.status = .approved

theorem approvalsStand_effect {env : Env} {views : Views} {r : Request} {db db' : Db} (hdb : db.Ok)
    (hs : ApprovalsStand db) (hr : ¬HoldsUnapproved views r db) (h : Effect env views r db db') : ApprovalsStand db' := by
  cases h with
  | quiet h =>
    intro a ha
    rw [h.revision?]
    exact hs a (by rwa [h.approvals] at ha)
  | @saved e base content w seen h =>
    intro a ha
    rw [h.saved.approvals] at ha
    obtain ⟨row, hrow, happ⟩ := hs a ha
    have hkeep : ¬(seen = .working ∧ row.revisionId = r.expectedRevisionId) := by
      rintro ⟨rfl, hid⟩
      rw [Db.revision?_id hrow] at hid
      exact hr ⟨h.seenAs, by rw [← hid, hrow]; simpa using happ⟩
    refine ⟨row, ?_, happ⟩
    rw [Db.revision?, h.saved.revisions, List.find?_append, find?_demoted, hrow, Option.map_some, if_neg hkeep]
    rfl
  | created h =>
    intro a ha
    rw [h.appended.approvals] at ha
    rw [(hdb.empty h.absent).2] at ha
    simp at ha
  | @approved approvalSnapshotId read content h =>
    intro a ha
    obtain ⟨row, -, -, hrow, -⟩ := h.current hdb
    rw [h.tables, List.mem_append, List.mem_singleton] at ha
    rw [h.tables]
    show ∃ row, (db.setRevisionStatus _ _).revision? _ = some row ∧ _
    rw [revision?_setRevisionStatus]
    rcases ha with ha | rfl
    · obtain ⟨row', hrow', happ⟩ := hs a ha
      refine ⟨_, by rw [hrow']; rfl, ?_⟩
      dsimp only
      split_ifs
      · rfl
      · exact happ
    · refine ⟨_, by rw [hrow]; rfl, ?_⟩
      dsimp only
      rw [if_pos (Db.revision?_id hrow)]

/-- **Approvals stand**: as long as no session saves over a row that it read before the approval. -/
theorem approvals_stand (env : Env) {db : Db} (h : db.Initial) {as : List Action}
    (has : Runs.Along (step env) SeesApprovals { db } as) : ApprovalsStand (runFrom env db as).db := by
  refine (Runs.run_inv_along (P := fun s => Inv s ∧ ApprovalsStand s.db) (fun s a hs ha => ?_) ?_ has).2
  · refine ⟨step_inv a hs.1, ?_⟩
    by_cases hf : ∃ i, a = .finish i
    · obtain ⟨i, rfl⟩ := hf
      cases hx : s.sessions[i]? with
      | none =>
        simp only [step, hx]
        exact hs.2
      | some x => exact approvalsStand_effect hs.1.tables hs.2 (ha x hx) (finish_effect hs.1 hx)
    · obtain ⟨hu, -⟩ := step_untouched env s (fun i he => hf ⟨i, he⟩)
      intro a ha
      rw [hu.revision?]
      exact hs.2 a (by rwa [hu.approvals] at ha)
  · exact ⟨⟨h.ok, by simp⟩, fun a ha => by simp [h.approvals] at ha⟩

theorem approvals_stand_reviewed : ApprovalsStand (runFrom Small.env Small.tables
    (Small.reviewable ++ whole (Small.ask (.approve (.ofNat 60)) 104 0))).db :=
  approvals_stand Small.env Small.tables_initial (along_whole Small.env (fun _ _ => trivial)
    (fun _ _ => seesApprovals_of_alone) (Small.reviewableRequests ++ [Small.ask (.approve (.ofNat 60)) 104 0]) rfl)

/-! ## The history of the revisions -/

/-- the request confirms a categorization with the row of the workspace as it was before another save, and no revision
is working that the database would refuse a second one for -/
def HoldsOldWorkspace (views : Views) (r : Request) (db : Db) : Prop :=
  (∃ form, r.operation = .categorize form) ∧ (views 4).currentRevisionId = some r.expectedRevisionId ∧
    db.currentRevisionId ≠ some r.expectedRevisionId ∧ ∀ row ∈ db.revisions, row.status ≠ .working

/-- no confirmation of a categorization ends after a save that its row of the workspace does not show -/
def SeesSaves (s : System) : Action → Prop
  | .finish i => ∀ x, s.sessions[i]? = some x → ¬HoldsOldWorkspace (x.views s.db) x.request s.db
  | _ => True

instance (o : Operation) : Decidable (∃ form, o = .categorize form) :=
  decidable_of_iff ((o matches .categorize _) = true) (by cases o <;> simp)

instance (views : Views) (r : Request) (db : Db) : Decidable (HoldsOldWorkspace views r db) :=
  inferInstanceAs (Decidable (_ ∧ _))

instance (s : System) : ∀ a, Decidable (SeesSaves s a)
  | .finish i =>
    match hx : s.sessions[i]? with
    | none => .isTrue fun x h => by rw [hx] at h; cases h
    | some x =>
      decidable_of_iff (¬HoldsOldWorkspace (x.views s.db) x.request s.db)
        ⟨fun h y hy => by rw [hx] at hy; cases hy; exact h, fun h => h x hx⟩
  | .start _ | .read _ | .importProfile _ _ | .activateProfile _ | .archive => .isTrue trivial

/-- a request that sees the tables as they are sees saves -/
theorem seesSaves_of_alone {s : System} {x : Session} (hs : s.sessions = [x])
    (hviews : x.views s.db = fun _ => s.db) : SeesSaves s (.finish 0) := by
  intro y hy
  obtain rfl : x = y := by simpa [hs] using hy
  rintro ⟨-, hcurrent, hne, -⟩
  rw [hviews] at hcurrent
  exact hne hcurrent

/-- what holds of the tables at every moment -/
structure LinearTables (db : Db) : Prop where
  versions : db.revisions.map RevisionRow.version = List.range' 1 db.revisions.length
  current : ∀ w, db.workspace = some w → ∃ row, db.revisions.getLast? = some row ∧
    w.currentRevisionId = some row.revisionId
  oneWorking : ∀ row ∈ db.revisions, row.status = .working → db.currentRevisionId = some row.revisionId
  approvals : ∀ a ∈ db.approvals, ∃ row, db.revision? a.revisionId = some row ∧ row.contentSha256 = a.revisionSha256

/-- `row` is new after the action `a` in `s`: its parent was the current revision, and its content is the transform that
the request asked for, of its parent's content -/
structure SavedOver (env : Env) (s : System) (a : Action) (row : RevisionRow) : Prop where
  parent : row.parentRevisionId = s.db.currentRevisionId
  content : ∀ parentId, row.parentRevisionId = some parentId → ∃ i x w e base content parent,
    a = .finish i ∧ s.sessions[i]? = some x ∧ Asks env (x.views s.db) x.request s.db w base e ∧
      s.db.revision? parentId = some parent ∧ parent.load = .ok base ∧ e.apply env.host base = .ok content ∧
      StoredAs row content

/-- the linear history of a run: at every moment, from step to step, and from then on -/
structure LinearHistory (env : Env) (db : Db) (as : List Action) : Prop where
  tables : LinearTables (runFrom env db as).db
  saved : ∀ bs a cs, as = bs ++ a :: cs → ∀ row, (runFrom env db bs).db.revision? row.revisionId = none →
    (runFrom env db (bs ++ [a])).db.revision? row.revisionId = some row →
    SavedOver env (runFrom env db bs) a row
  immutable : ∀ bs cs, as = bs ++ cs → ∀ id row, (runFrom env db bs).db.revision? id = some row →
    ∃ row', (runFrom env db as).db.revision? id = some row' ∧ row'.content = row.content ∧
      row'.contentSha256 = row.contentSha256 ∧ row'.version = row.version ∧
      row'.parentRevisionId = row.parentRevisionId ∧ row'.createdBy = row.createdBy

theorem Db.Ok.linearTables {db : Db} (h : db.Ok) : LinearTables db where
  versions := h.versions
  current w hw := by
    obtain ⟨row, hlast, hc, -⟩ := h.current w hw
    exact ⟨row, hlast, hc⟩
  oneWorking row hr hs := by
    have hlast := h.working row hr hs
    cases hw : db.workspace with
    | none =>
      rw [(h.empty hw).1] at hr
      simp at hr
    | some w =>
      obtain ⟨row', hlast', hc, -⟩ := h.current w hw
      obtain rfl := Option.some.inj (hlast.symm.trans hlast')
      rw [Db.currentRevisionId, hw, Option.bind_some, hc]
  approvals := h.approvals

theorem runFrom_append (env : Env) (db : Db) (as bs : List Action) :
    runFrom env db (as ++ bs) = Runs.run (step env) (runFrom env db as) bs := Runs.run_append _ _ _

theorem Appended.new_row {r : Request} {expected : Option Uuid} {content : RevisionContent} {kept : List RevisionRow}
    {db db' : Db} (h : Appended r expected content kept db db') {row : RevisionRow}
    (hnew : db.revision? row.revisionId = none) (hr : db'.revision? row.revisionId = some row) :
    row = savedRow db r expected content := by
  have hmem := List.mem_of_find?_eq_some hr
  rw [h.revisions, List.mem_append, List.mem_singleton] at hmem
  rcases hmem with hmem | hmem
  · obtain ⟨row₀, hr₀, hs⟩ := SameRow.source h.sameRows hmem
    have hid : row₀.revisionId = row.revisionId := by rw [← hs.same]
    exact absurd (hid ▸ List.mem_map_of_mem hr₀) (revision?_eq_none.1 hnew)
  · exact hmem

/-- a step that saves, saves over the current revision -/
theorem savedOver_step {env : Env} {s : System} {a : Action} (h : Inv s) (ha : SeesSaves s a) {row : RevisionRow}
    (hnew : s.db.revision? row.revisionId = none) (hr : (step env s a).db.revision? row.revisionId = some row) :
    SavedOver env s a row := by
  by_cases hf : ∃ i, a = .finish i
  · obtain ⟨i, rfl⟩ := hf
    cases hx : s.sessions[i]? with
    | none =>
      simp only [step, hx] at hr
      rw [hnew] at hr
      simp at hr
    | some x =>
      have heff : Effect env (x.views s.db) x.request s.db (step env s (.finish i)).db := finish_effect h hx
      generalize hs' : step env s (.finish i) = s' at hr heff ⊢
      cases heff with
      | quiet hq =>
        rw [hq.revision?, hnew] at hr
        simp at hr
      | @saved e base content w seen hsaves =>
        obtain rfl := hsaves.appended.new_row hnew hr
        refine ⟨?_, ?_⟩
        · show some x.request.expectedRevisionId = s.db.currentRevisionId
          have hw := hsaves.worksWith
          unfold WorksWith at hw
          split at hw
          · next form hop =>
            by_contra hne
            refine ha x hx ⟨⟨form, hop⟩, ?_, Ne.symm hne, fun row hrow hs => ?_⟩
            · rw [Db.currentRevisionId, hw, Option.bind_some, hsaves.current]
            · -- a working revision is the current one, which this save does not supersede
              have hcur := h.tables.linearTables.oneWorking row hrow hs
              have hkept : row ∈ demoted s.db seen x.request.expectedRevisionId := by
                unfold demoted
                split_ifs
                · refine List.mem_map.2 ⟨row, hrow, if_neg fun hid => hne ?_⟩
                  rw [hcur, hid]
                · exact hrow
              exact hsaves.saved.oneWorking row hkept hs
          · rw [Db.currentRevisionId, hw, Option.bind_some, hsaves.current]
        · intro parentId hp
          obtain rfl : x.request.expectedRevisionId = parentId := Option.some.inj hp
          obtain ⟨parent, hparent, hload⟩ := hsaves.loaded
          exact ⟨i, x, w, e, base, content, parent, rfl, hx, hsaves.asks, hparent, hload, hsaves.applied,
            storedAs_savedRow (hsaves.valid h.tables).2.2⟩
      | created hc =>
        obtain rfl := hc.appended.new_row hnew hr
        refine ⟨?_, by rintro _ ⟨⟩⟩
        rw [Db.currentRevisionId, hc.absent]
        rfl
      | approved hap =>
        rw [hap.tables] at hr
        change (s.db.setRevisionStatus _ _).revision? _ = _ at hr
        rw [revision?_setRevisionStatus, hnew] at hr
        simp at hr
  · obtain ⟨hu, -⟩ := step_untouched env s (fun i he => hf ⟨i, he⟩)
    rw [hu.revision?, hnew] at hr
    simp at hr

/-- **The history is linear**: as long as no confirmation of a categorization works with an old row of the workspace. -/
theorem history_linear (env : Env) {db : Db} (h : db.Initial) {as : List Action}
    (has : Runs.Along (step env) SeesSaves { db } as) : LinearHistory env db as where
  tables := (runFrom_inv env h as).tables.linearTables
  saved := by
    rintro bs a cs rfl row hnew hr
    have hG := (Runs.along_append.1 has).2.1
    rw [runFrom_append] at hr
    exact savedOver_step (runFrom_inv env h bs) hG hnew hr
  immutable := by
    rintro bs cs rfl id row hr
    rw [runFrom_append]
    have hgrows : Grows (runFrom env db bs).db (Runs.run (step env) (runFrom env db bs) cs).db :=
      run_grows (runFrom_inv env h bs) cs
    obtain ⟨row', hr', he, -⟩ := hgrows.revisions id row hr
    exact ⟨row', hr', by rw [← he], by rw [← he], by rw [← he], by rw [← he], by rw [← he]⟩

theorem history_linear_reviewable : LinearHistory Small.env Small.tables Small.reviewable :=
  history_linear Small.env Small.tables_initial (along_whole Small.env (fun _ _ => trivial)
    (fun _ _ => seesSaves_of_alone) Small.reviewableRequests rfl)

/-- **Stored revisions load**: whatever happens after a revision was saved, its row is there and loads as the content that
it was saved with, and that content is valid. -/
theorem stored_revisions_load (env : Env) {db : Db} (h : db.Initial) (as bs : List Action) {id : Uuid}
    {row : RevisionRow} (hrow : (runFrom env db as).db.revision? id = some row) :
    ∃ c row', row.load = .ok c ∧ c.Valid ∧ (runFrom env db (as ++ bs)).db.revision? id = some row' ∧
      row'.load = .ok c ∧ row'.contentSha256 = row.contentSha256 := by
  obtain ⟨c, hload, hvalid⟩ := (runFrom_inv env h as).tables.load (List.mem_of_find?_eq_some hrow)
  obtain ⟨row', hrow', heq, -⟩ := (run_grows (runFrom_inv env h as) bs).revisions id row hrow
  refine ⟨c, row', hload, hvalid, by rwa [runFrom_append], ?_, by rw [← heq]⟩
  rw [← hload, ← heq]
  rfl

theorem stored_revisions_load_created :
    ∃ (row : RevisionRow) (c : RevisionContent) (row' : RevisionRow), row.load = .ok c ∧ c.Valid ∧
      (runFrom Small.env Small.tables (Small.categorized ++ [.archive])).db.revision? (.ofNat 101) = some row' ∧
      row'.load = .ok c ∧ row'.contentSha256 = row.contentSha256 := by
  have hsome : ((runFrom Small.env Small.tables Small.categorized).db.revision? (.ofNat 101)).isSome = true := by
    decide
  obtain ⟨row, hrow⟩ := Option.isSome_iff_exists.1 hsome
  exact ⟨row, stored_revisions_load Small.env Small.tables_initial Small.categorized [.archive] hrow⟩

end AtoService.Workspace
