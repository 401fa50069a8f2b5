/-
The system: the tables of one workspace and the sessions that are open on it.

A session makes its SELECTs one at a time (`Action.read`), each of which sees the tables as they are then, and ends with
everything it does under the lock of the workspace (`Action.finish`); any number of sessions interleave. `history` is
kept for the statements only: which request saved a revision, and from which revision's content.

`Db.Ok` is the invariant of the tables: every stored revision reads back with valid content, versions count from one, the
workspace points at the latest revision, which is the only one that may be working, approvals name stored revisions and
their hashes, and the current revision cites evidence that is not removed. `effect_ok` is its step lemma for one request,
`Inv` adds that what a session has read are earlier states of the tables, and `run_inv` carries both to every run.
-/
import AtoService.Lib.Runs
import AtoService.Workspace.Requests

namespace AtoService.Workspace

/-! ## The machine -/

/-- an open request, with the tables as its SELECTs have seen them so far -/
structure Session where
  request : Request
  reads : List Db := []

/-- a saved revision: the request that saved it and the revision whose content it started from -/
structure Entry where
  revisionId : Uuid
  source : Uuid
  request : Request

structure System where
  db : Db
  sessions : List Session := []
  history : List Entry := []

inductive Action where
  | start (r : Request)
  | read (i : Nat)
  | finish (i : Nat)
  | importProfile (profileVersionId : Uuid) (bundle : { b : ProfileBundle // b.WellFormed })
  | activateProfile (profileVersionId : Uuid)
  | archive

/-- a SELECT that was not made before the session takes the lock sees the tables as they are then -/
def Session.views (x : Session) (db : Db) : Views := fun n => x.reads.getD n db

/-- the revision whose content a saving request starts from -/
def Request.source (r : Request) : Uuid :=
  match r.operation with
  | .restore revisionId => revisionId
  | _ => r.expectedRevisionId

/-- what is remembered of a request that brought the tables from `db` to `db'` -/
def Request.entries (r : Request) (db db' : Db) : List Entry :=
  if (db.revision? r.revisionId).isNone && (db'.revision? r.revisionId).isSome then [⟨r.revisionId, r.source, r⟩] else []

namespace Db

/-- `import_profile` of a bundle that `load_profile_bundle` accepts; a version that is there already is refused -/
def importProfile (db : Db) (profileVersionId : Uuid) (b : ProfileBundle) : Db :=
  if profileVersionId ∈ db.profiles.map ProfileRow.profileVersionId ∨
      (b.manifest.profileId, b.manifest.profileVersion) ∈ db.profiles.map (fun p => (p.profileKey, p.version)) then db
  else { db with profiles := db.profiles ++
    [⟨profileVersionId, b.manifest.profileId, b.manifest.profileVersion, .inactive, b⟩] }

/-- what `activate_profile` makes of one profile version: the other active version of the same profile becomes inactive -/
def activated (target p : ProfileRow) : ProfileRow :=
  if p.profileVersionId = target.profileVersionId then { p with status := .active }
  else if p.profileKey = target.profileKey ∧ p.status = .active then { p with status := .inactive }
  else p

def activateProfile (db : Db) (profileVersionId : Uuid) : Db :=
  match db.profile? profileVersionId with
  | none => db
  | some target =>
    if target.status = .archived then db else { db with profiles := db.profiles.map (activated target) }

end Db

section

variable (env : Env)

/-- a session ends: its request is handled, and what it did is committed or rolled back -/
def System.finish (s : System) (x : Session) : System :=
  let db' := (handle env (x.views s.db) x.request s.db).2
  { s with db := db', history := x.request.entries s.db db' ++ s.history }

def step (s : System) : Action → System
  | .start r => { s with sessions := s.sessions ++ [⟨r, []⟩] }
  | .read i =>
    match s.sessions[i]? with
    | none => s
    | some x => { s with sessions := s.sessions.set i { x with reads := x.reads ++ [s.db] } }
  | .finish i =>
    match s.sessions[i]? with
    | none => s
    | some x => ({ s with sessions := s.sessions.eraseIdx i } : System).finish env x
  | .importProfile id b => { s with db := s.db.importProfile id b.1 }
  | .activateProfile id => { s with db := s.db.activateProfile id }
  | .archive => { s with db := (archiveWorkspace s.db).2 }

end

/-! ## What the tables keep -/

/-- `row` stores `c` -/
structure StoredAs (row : RevisionRow) (c : RevisionContent) : Prop where
  document : row.content = c.dump.jsonb
  hash : row.contentSha256 = revisionContentSha256 c
  valid : c.Valid

theorem StoredAs.load {row : RevisionRow} {c : RevisionContent} (h : StoredAs row c) : row.load = .ok c.jsonb := by
  rw [RevisionRow.load, h.document, RevisionContent.load_dump h.valid]

structure ProfilesOk (ps : List ProfileRow) : Prop where
  ids : (ps.map ProfileRow.profileVersionId).Nodup
  versions : (ps.map fun p => (p.profileKey, p.version)).Nodup
  rows : ∀ p ∈ ps, p.bundle.WellFormed ∧ p.profileKey = p.bundle.manifest.profileId ∧
    p.version = p.bundle.manifest.profileVersion

structure Db.Ok (db : Db) : Prop where
  profiles : ProfilesOk db.profiles
  stored : ∀ row ∈ db.revisions, ∃ c, StoredAs row c
  ids : (db.revisions.map RevisionRow.revisionId).Nodup
  versions : db.revisions.map RevisionRow.version = List.range' 1 db.revisions.length
  current : ∀ w, db.workspace = some w → ∃ row, db.revisions.getLast? = some row ∧
    w.currentRevisionId = some row.revisionId ∧ row.status ≠ .superseded
  empty : db.workspace = none → db.revisions = [] ∧ db.approvals = []
  working : ∀ row ∈ db.revisions, row.status = .working → db.revisions.getLast? = some row
  approvals : ∀ a ∈ db.approvals, ∃ row, db.revision? a.revisionId = some row ∧ row.contentSha256 = a.revisionSha256
  oneApproval : (db.approvals.map ApprovalRow.revisionId).Nodup
  evidence : ∀ row c, db.revisions.getLast? = some row → row.load = .ok c →
    ∀ id ∈ contentEvidenceIds c, id ∈ db.activeArtifactIds

/-- the tables before anything happened in the workspace -/
structure Db.Initial (db : Db) : Prop where
  profiles : ProfilesOk db.profiles
  workspace : db.workspace = none
  revisions : db.revisions = []
  artifacts : db.artifacts = []
  patches : db.patches = []
  approvals : db.approvals = []

theorem Db.Initial.ok {db : Db} (h : db.Initial) : db.Ok where
  profiles := h.profiles
  stored := by simp [h.revisions]
  ids := by simp [h.revisions]
  versions := by simp [h.revisions]
  current := by simp [h.workspace]
  empty _ := ⟨h.revisions, h.approvals⟩
  working := by simp [h.revisions]
  approvals := by simp [h.approvals]
  oneApproval := by simp [h.approvals]
  evidence := by simp [h.revisions]

theorem contentEvidenceIds_jsonb (c : RevisionContent) : contentEvidenceIds c.jsonb = contentEvidenceIds c := by
  have hl : ∀ ls : List EvidenceLink, (ls.map EvidenceLink.jsonb).map EvidenceLink.artifactId = ls.map EvidenceLink.artifactId :=
    fun ls => by simp [EvidenceLink.jsonb, Function.comp_def]
  simp only [contentEvidenceIds, RevisionContent.jsonb, List.flatMap_map, List.map_append, List.map_flatMap]
  simp only [FactContent.jsonb, SectionContent.jsonb, ControlContent.jsonb, hl]

namespace Db.Ok

variable {db : Db} (h : db.Ok)

include h

theorem revision?_eq_some {row : RevisionRow} {id : Uuid} :
    db.revision? id = some row ↔ row ∈ db.revisions ∧ row.revisionId = id := by
  constructor
  · intro hr
    exact ⟨List.mem_of_find?_eq_some hr, Db.revision?_id hr⟩
  · rintro ⟨hm, rfl⟩
    exact KeyedList.find?_of_nodup h.ids hm

theorem load {row : RevisionRow} (hr : row ∈ db.revisions) : ∃ c, row.load = .ok c ∧ c.Valid := by
  obtain ⟨c, hc⟩ := h.stored row hr
  exact ⟨c.jsonb, hc.load, RevisionContent.jsonb_valid.2 hc.valid⟩

theorem load_valid {row : RevisionRow} {id : Uuid} {c : RevisionContent} (hr : db.revision? id = some row)
    (hc : row.load = .ok c) : c.Valid := by
  obtain ⟨c', hc', hv⟩ := h.load (List.mem_of_find?_eq_some hr)
  rw [hc] at hc'
  exact Except.ok.inj hc' ▸ hv

/-- the current revision -/
theorem current_row {w : WorkspaceRow} (hw : db.workspace = some w) {id : Uuid} (hc : w.currentRevisionId = some id) :
    ∃ row, db.revisions.getLast? = some row ∧ row.revisionId = id ∧ db.revision? id = some row ∧
      row.status ≠ .superseded := by
  obtain ⟨row, hlast, hid, hs⟩ := h.current w hw
  rw [hc, Option.some.injEq] at hid
  exact ⟨row, hlast, hid.symm, h.revision?_eq_some.2 ⟨List.mem_of_getLast? hlast, hid.symm⟩, hs⟩

end Db.Ok

/-! ## What a request has checked -/

theorem categorizationError_ne {α : Type} {detail field : String} {a : α} : categorizationError detail field ≠ .ok a := by
  simp [categorizationError]

theorem validateCategorizationImpacts_ok {x y z : String} (h : validateCategorizationImpacts x y z = .ok ()) :
    isImpactLevel x = true ∧ isImpactLevel y = true ∧ isImpactLevel z = true := by
  unfold validateCategorizationImpacts at h
  split at h
  · exact absurd h categorizationError_ne
  · next hn => simpa using hn

theorem validateCategorizationRationales_ok {x y z : String} {r : String × String × String}
    (h : validateCategorizationRationales x y z = .ok r) :
    Py.hasText r.1 = true ∧ Py.hasText r.2.1 = true ∧ Py.hasText r.2.2 = true := by
  unfold validateCategorizationRationales at h
  split at h
  · exact absurd h categorizationError_ne
  · next hn =>
    obtain rfl := Except.ok.inj h
    simp only [Py.hasText_strip]
    simpa [Py.hasText] using hn

theorem validateCategorizationEvidence_ok {e : CategorizationEvidenceInput} (h : validateCategorizationEvidence e = .ok ()) :
    e.confidentiality ≠ [] ∧ e.integrity ≠ [] ∧ e.availability ≠ [] := by
  unfold validateCategorizationEvidence at h
  split at h
  · exact absurd h categorizationError_ne
  · next hn => simpa using hn

/-- a form that was accepted -/
theorem CategorizationForm.check_ok {form : CategorizationForm} {views : Views} {i : CategorizationInput}
    (h : form.check views = .ok i) : i.Checked ∧ form.overall =
      highWaterMarkImpact i.confidentiality i.integrity i.availability := by
  simp only [CategorizationForm.check, bind_eq_ok, pure_eq_ok] at h
  obtain ⟨_, hi, r, hr, _, -, _, -, _, -, _, he, rfl⟩ := h
  exact ⟨⟨validateCategorizationImpacts_ok hi, validateCategorizationRationales_ok hr, validateCategorizationEvidence_ok he⟩,
    rfl⟩

/-- **What a request asks for, it has checked.** -/
theorem admissible_of_asks {env : Env} {views : Views} {r : Request} {db : Db} {w : WorkspaceRow} {base : RevisionContent}
    {e : Edit} (hdb : db.Ok) (h : Asks env views r db w base e) : e.Admissible := by
  have hrow : ∀ {id p}, db.profile? id = some p → p.bundle.WellFormed := fun hp =>
    (hdb.profiles.rows _ (List.mem_of_find?_eq_some hp)).1
  unfold Asks at h
  cases hop : r.operation with
  | editSection => simp only [hop] at h; subst h; trivial
  | editControl => simp only [hop] at h; subst h; trivial
  | answer => simp only [hop] at h; subst h; trivial
  | generate => simp only [hop] at h; obtain ⟨g, -, rfl⟩ := h; trivial
  | analyzeCategorization => simp only [hop] at h; obtain ⟨g, -, rfl⟩ := h; trivial
  | applyPatch => simp only [hop] at h; obtain ⟨p, row, -, -, -, -, rfl⟩ := h; trivial
  | restore =>
    simp only [hop] at h
    obtain ⟨row, target, hr, hl, rfl⟩ := h
    exact hdb.load_valid hr hl
  | migrate =>
    simp only [hop] at h
    obtain ⟨old, new, newRow, hm, rfl⟩ := h
    exact ⟨hrow hm.found.1, hm.resolvedNew, by simp⟩
  | categorize =>
    simp only [hop] at h
    obtain ⟨old, new, newRow, i, hi, hm, rfl⟩ := h
    refine ⟨hrow hm.found.1, hm.resolvedNew, fun facts hf => ?_⟩
    obtain rfl := Option.some.inj hf
    exact ⟨i, (CategorizationForm.check_ok hi).1, rfl, (CategorizationForm.check_ok hi).2⟩
  | defineSystem => simp only [hop] at h; subst h; trivial
  | analyzeDiagram => simp only [hop] at h; obtain ⟨i, m, rfl⟩ := h; trivial
  | mapInformationTypes => simp only [hop] at h; subst h; trivial
  | ingest =>
    simp only [hop] at h
    obtain ⟨artifactId, segments, facts, hf, rfl⟩ := h
    intro f hmem
    obtain ⟨x, -, hx⟩ := exists_of_mem_mapM hf hmem
    obtain ⟨rfl, hv⟩ := validated_eq_ok.1 hx
    exact ⟨hv, rfl, by simp, ⟨_, rfl⟩, x.factKey, rfl⟩
  | remove => simp only [hop] at h; rw [h.1]; trivial
  | create => simp only [hop] at h
  | proposePatch => simp only [hop] at h
  | rejectPatch => simp only [hop] at h
  | approve => simp only [hop] at h

/-! ## The status of a revision -/

/-- the row of a revision in two states of the tables: only its status may differ -/
structure SameRow (row row' : RevisionRow) : Prop where
  same : { row' with status := row.status } = row
  superseded : row.status = .superseded → row'.status = .superseded

theorem SameRow.refl (row : RevisionRow) : SameRow row row := ⟨rfl, id⟩

theorem SameRow.storedAs {row row' : RevisionRow} (h : SameRow row row') {c : RevisionContent} (hc : StoredAs row c) :
    StoredAs row' c := by
  rw [← h.same] at hc
  exact ⟨hc.document, hc.hash, hc.valid⟩

theorem revision?_setRevisionStatus (db : Db) (id x : Uuid) (status : RevisionState) :
    (db.setRevisionStatus id status).revision? x =
      (db.revision? x).map fun r => if r.revisionId = id then { r with status } else r := by
  have hid : ∀ r : RevisionRow, (if r.revisionId = id then { r with status } else r).revisionId = r.revisionId := by
    intro r
    split_ifs <;> rfl
  simp only [Db.revision?, Db.setRevisionStatus, List.find?_map, Function.comp_def, hid]

theorem find?_demoted (db : Db) (seen : RevisionState) (id x : Uuid) :
    (demoted db seen id).find? (fun r => r.revisionId = x) =
      (db.revision? x).map fun r => if seen = .working ∧ r.revisionId = id then { r with status := .superseded } else r := by
  unfold demoted
  split_ifs with h
  · have hset := revision?_setRevisionStatus db id x .superseded
    rw [Db.revision?] at hset
    rw [hset]
    simp [h]
  · simp [h, Db.revision?]

/-- giving some revisions another status; a superseded one stays what it is -/
theorem forall₂_sameRow {rows : List RevisionRow} {f : RevisionRow → RevisionRow}
    (hf : ∀ row ∈ rows, SameRow row (f row)) : List.Forall₂ SameRow rows (rows.map f) := by
  rw [List.forall₂_map_right_iff, List.forall₂_same]
  exact hf

theorem sameRow_demoted (db : Db) (seen : RevisionState) (id : Uuid) :
    List.Forall₂ SameRow db.revisions (demoted db seen id) := by
  unfold demoted
  split_ifs
  · refine forall₂_sameRow fun row _ => ?_
    split_ifs
    · exact ⟨rfl, fun _ => rfl⟩
    · exact SameRow.refl row
  · exact List.forall₂_same.2 fun row _ => SameRow.refl row

theorem SameRow.map_eq {rows rows' : List RevisionRow} (h : List.Forall₂ SameRow rows rows') {α : Type}
    {f : RevisionRow → α} (hf : ∀ row status, f { row with status } = f row) : rows'.map f = rows.map f := by
  refine map_eq_of_forall₂ (fun a b hab => ?_) h
  rw [← hf b a.status, hab.same]

theorem SameRow.find? {rows rows' : List RevisionRow} (h : List.Forall₂ SameRow rows rows') {id : Uuid}
    {row : RevisionRow} (hr : rows.find? (fun r => r.revisionId = id) = some row) :
    ∃ row', rows'.find? (fun r => r.revisionId = id) = some row' ∧ SameRow row row' := by
  induction h with
  | nil => simp at hr
  | @cons a b as bs hab _ ih =>
    have hid : b.revisionId = a.revisionId := by rw [← hab.same]
    by_cases ha : a.revisionId = id
    · rw [List.find?_cons_of_pos (by simpa using ha), Option.some.injEq] at hr
      subst hr
      exact ⟨b, List.find?_cons_of_pos (by simpa [hid] using ha), hab⟩
    · rw [List.find?_cons_of_neg (by simpa using ha)] at hr
      rw [List.find?_cons_of_neg (by simpa [hid] using ha)]
      exact ih hr

theorem SameRow.source {rows rows' : List RevisionRow} (h : List.Forall₂ SameRow rows rows') {row' : RevisionRow}
    (hr : row' ∈ rows') : ∃ row ∈ rows, SameRow row row' := by
  obtain ⟨n, hn, rfl⟩ := List.mem_iff_getElem.1 hr
  have hl := h.length_eq
  exact ⟨rows[n], List.getElem_mem _, (List.forall₂_iff_get.1 h).2 n (by omega) hn⟩

section

variable {db db' : Db}

theorem SameRevisions.workspace_eq (h : SameRevisions db db') {w' : WorkspaceRow} (hw : db'.workspace = some w') :
    ∃ w, db.workspace = some w ∧ w'.currentRevisionId = w.currentRevisionId ∧ w'.status = w.status := by
  have hm := h.workspace
  rw [hw, Option.map_some] at hm
  obtain ⟨w, hd, he⟩ := Option.map_eq_some_iff.1 hm.symm
  rw [Prod.mk.injEq] at he
  exact ⟨w, hd, he.1.symm, he.2.symm⟩

theorem SameRevisions.workspace_none (h : SameRevisions db db') : db'.workspace = none ↔ db.workspace = none := by
  rw [← Option.map_eq_none_iff (f := fun w : WorkspaceRow => (w.currentRevisionId, w.status)), h.workspace,
    Option.map_eq_none_iff]

theorem SameRevisions.grows (h : SameRevisions db db') : Grows db db' where
  system := h.system
  profiles id p hp := ⟨p, by rw [Db.profile?, h.profiles]; exact hp, rfl⟩
  workspace hw := by
    rw [Option.isSome_iff_ne_none] at hw ⊢
    rwa [ne_eq, h.workspace_none]
  revisions _ row hr := ⟨row, by rw [h.revision?, hr], rfl, id⟩
  approvals a ha := by rwa [h.approvals]

theorem SameRevisions.ok (h : SameRevisions db db') (hdb : db.Ok) : db'.Ok where
  profiles := by rw [h.profiles]; exact hdb.profiles
  stored := by rw [h.revisions]; exact hdb.stored
  ids := by rw [h.revisions]; exact hdb.ids
  versions := by rw [h.revisions]; exact hdb.versions
  current w' hw' := by
    obtain ⟨w, hw, hc, -⟩ := h.workspace_eq hw'
    rw [h.revisions, hc]
    exact hdb.current w hw
  empty hn := by
    rw [h.revisions, h.approvals]
    exact hdb.empty (h.workspace_none.1 hn)
  working := by rw [h.revisions]; exact hdb.working
  approvals := by
    rw [h.approvals]
    intro a ha
    rw [h.revision?]
    exact hdb.approvals a ha
  oneApproval := by rw [h.approvals]; exact hdb.oneApproval
  evidence := by
    rw [h.revisions]
    exact fun row c hr hl id hid => h.active id (hdb.evidence row c hr hl id hid)

end

/-! ## A saved revision -/

theorem foldr_max_range' (s n : Nat) : (List.range' s (n + 1)).foldr max 0 = s + n := by
  induction n generalizing s with
  | zero => simp
  | succ n ih =>
    rw [List.range'_succ, List.foldr_cons, ih]
    omega

theorem Db.Ok.maxVersion {db : Db} (h : db.Ok) : db.maxVersion = db.revisions.length := by
  rw [Db.maxVersion, h.versions]
  cases db.revisions.length with
  | zero => rfl
  | succ n => rw [foldr_max_range', Nat.add_comm]

/-- the row of a valid content stores it -/
theorem storedAs_savedRow {db : Db} {r : Request} {expected : Option Uuid} {content : RevisionContent}
    (hv : content.Valid) : StoredAs (savedRow db r expected content) content := ⟨rfl, rfl, hv⟩

/-- the tables with a new latest revision: `kept` are the rows before it, some of them with another status -/
structure Appended (r : Request) (expected : Option Uuid) (content : RevisionContent) (kept : List RevisionRow)
    (db db' : Db) : Prop where
  profiles : db'.profiles = db.profiles
  system : db'.system = db.system
  approvals : db'.approvals = db.approvals
  revisions : db'.revisions = kept ++ [savedRow db r expected content]
  sameRows : List.Forall₂ SameRow db.revisions kept
  fresh : db.revision? r.revisionId = none
  noneWorking : ∀ row ∈ kept, row.status ≠ .working
  workspace : ∃ w, db'.workspace = some w ∧ w.currentRevisionId = some r.revisionId
  evidence : ∀ id ∈ contentEvidenceIds content, id ∈ db'.activeArtifactIds

namespace Appended

variable {r : Request} {expected : Option Uuid} {content : RevisionContent} {kept : List RevisionRow} {db db' : Db}
  (h : Appended r expected content kept db db')

include h

theorem revision? {id : Uuid} {row : RevisionRow} (hr : db.revision? id = some row) :
    ∃ row', db'.revision? id = some row' ∧ SameRow row row' := by
  obtain ⟨row', hr', hs⟩ := SameRow.find? h.sameRows hr
  exact ⟨row', by rw [Db.revision?, h.revisions, List.find?_append, hr', Option.some_or], hs⟩

theorem grows : Grows db db' where
  system := h.system
  profiles id p hp := ⟨p, by rw [Db.profile?, h.profiles]; exact hp, rfl⟩
  workspace _ := by
    obtain ⟨w, hw, -⟩ := h.workspace
    rw [hw]
    rfl
  revisions _ _ hr := by
    obtain ⟨row', hr', hs⟩ := h.revision? hr
    exact ⟨row', hr', hs.same, hs.superseded⟩
  approvals a ha := by rwa [h.approvals]

theorem getLast : db'.revisions.getLast? = some (savedRow db r expected content) := by
  rw [h.revisions, List.getLast?_concat]

theorem ok (hdb : db.Ok) (hv : content.Valid) : db'.Ok where
  profiles := by rw [h.profiles]; exact hdb.profiles
  stored row hr := by
    rw [h.revisions, List.mem_append, List.mem_singleton] at hr
    rcases hr with hr | rfl
    · obtain ⟨row₀, hr₀, hs⟩ := SameRow.source h.sameRows hr
      obtain ⟨c, hc⟩ := hdb.stored row₀ hr₀
      exact ⟨c, hs.storedAs hc⟩
    · exact ⟨content, storedAs_savedRow hv⟩
  ids := by
    rw [h.revisions, List.map_append, SameRow.map_eq h.sameRows fun _ _ => rfl]
    refine List.nodup_append.2 ⟨hdb.ids, List.nodup_singleton _, fun a ha b hb => ?_⟩
    rw [List.mem_singleton.1 hb]
    rintro rfl
    exact revision?_eq_none.1 h.fresh ha
  versions := by
    rw [h.revisions, List.map_append, SameRow.map_eq h.sameRows fun _ _ => rfl, hdb.versions, List.length_append,
      ← h.sameRows.length_eq, List.length_singleton, List.range'_concat]
    simp [savedRow, hdb.maxVersion, Nat.add_comm]
  current w hw := by
    obtain ⟨w', hw', hc⟩ := h.workspace
    obtain rfl := Option.some.inj (hw.symm.trans hw')
    exact ⟨_, h.getLast, hc, by simp [savedRow]⟩
  empty hn := by
    obtain ⟨w, hw, -⟩ := h.workspace
    rw [hw] at hn
    simp at hn
  working row hr hs := by
    rw [h.getLast]
    rw [h.revisions, List.mem_append, List.mem_singleton] at hr
    rcases hr with hr | rfl
    · exact absurd hs (h.noneWorking row hr)
    · rfl
  approvals a ha := by
    rw [h.approvals] at ha
    obtain ⟨row, hr, hsha⟩ := hdb.approvals a ha
    obtain ⟨row', hr', hs⟩ := h.revision? hr
    exact ⟨row', hr', by rw [← hsha, ← hs.same]⟩
  oneApproval := by rw [h.approvals]; exact hdb.oneApproval
  evidence row c hlast hl id hid := by
    obtain rfl := Option.some.inj (h.getLast.symm.trans hlast)
    obtain rfl := Except.ok.inj ((storedAs_savedRow hv).load.symm.trans hl)
    exact h.evidence id (by rwa [contentEvidenceIds_jsonb] at hid)

end Appended

section

variable {env : Env} {views : Views} {r : Request} {db db' : Db}

theorem Saves.appended {e : Edit} {base content : RevisionContent} {w : WorkspaceRow} {seen : RevisionState}
    (h : Saves env views r db db' e base content w seen) :
    Appended r (some r.expectedRevisionId) content (demoted db seen r.expectedRevisionId) db db' where
  profiles := h.saved.profiles
  system := h.saved.system
  approvals := h.saved.approvals
  revisions := h.saved.revisions
  sameRows := sameRow_demoted _ _ _
  fresh := h.saved.fresh
  noneWorking := h.saved.oneWorking
  workspace := by
    obtain ⟨w, p, -, hw⟩ := h.saved.workspace
    exact ⟨_, hw, rfl⟩
  evidence := h.evidence

theorem Saves.valid {e : Edit} {base content : RevisionContent} {w : WorkspaceRow} {seen : RevisionState}
    (hdb : db.Ok) (h : Saves env views r db db' e base content w seen) : base.Valid ∧ e.Admissible ∧ content.Valid := by
  obtain ⟨row, hrow, hload⟩ := h.loaded
  have hb := hdb.load_valid hrow hload
  have ha := admissible_of_asks hdb h.asks
  exact ⟨hb, ha, apply_valid hb ha h.applied h.saved.materialized⟩

theorem Created.appended {profileVersionId : Uuid} {level : Option String} {content : RevisionContent}
    (h : Created views r profileVersionId level content db db') :
    Appended r none content db.revisions db db' where
  profiles := by rw [h.tables]
  system := by rw [h.tables]
  approvals := by rw [h.tables]
  revisions := by rw [h.tables]
  sameRows := List.forall₂_same.2 fun row _ => SameRow.refl row
  fresh := h.fresh
  noneWorking := h.noneWorking
  workspace := by rw [h.tables]; exact ⟨_, rfl, rfl⟩
  evidence := by rw [h.tables]; exact h.evidence

theorem Created.valid {profileVersionId : Uuid} {level : Option String} {content : RevisionContent}
    (h : Created views r profileVersionId level content db db') : content.Valid := by
  obtain ⟨row, p, -, -, -, hc⟩ := h.resolved
  exact (initialContent_ok hc).1

/-! ## An approved revision -/

namespace Approved

variable {approvalSnapshotId : Uuid} {read : RevisionRow} {content : RevisionContent}
  (h : Approved env views r approvalSnapshotId read content db db') (hdb : db.Ok)

include h hdb

/-- the revision is the current one -/
theorem current : ∃ row, db.revisions.getLast? = some row ∧ row.revisionId = r.expectedRevisionId ∧
    db.revision? r.expectedRevisionId = some row ∧ row.status ≠ .superseded := by
  obtain ⟨w, hw, -, hc⟩ := h.workspace
  exact hdb.current_row hw hc

theorem sameRows : List.Forall₂ SameRow db.revisions
    (db.setRevisionStatus r.expectedRevisionId .approved).revisions := by
  obtain ⟨row, -, -, hr, hs⟩ := h.current hdb
  refine forall₂_sameRow fun x hx => ?_
  split_ifs with hid
  · rw [hdb.revision?_eq_some.2 ⟨hx, hid⟩, Option.some.injEq] at hr
    subst hr
    exact ⟨rfl, fun h => absurd h hs⟩
  · exact SameRow.refl x

theorem revision? {id : Uuid} {row : RevisionRow} (hr : db.revision? id = some row) :
    ∃ row', db'.revision? id = some row' ∧ SameRow row row' := by
  obtain ⟨row', hr', hs⟩ := SameRow.find? (h.sameRows hdb) hr
  exact ⟨row', by rw [h.tables]; exact hr', hs⟩

theorem grows : Grows db db' where
  system := by rw [h.tables]; rfl
  profiles id p hp := ⟨p, by rw [h.tables]; exact hp, rfl⟩
  workspace hw := by rw [h.tables]; exact hw
  revisions _ _ hr := by
    obtain ⟨row', hr', hs⟩ := h.revision? hdb hr
    exact ⟨row', hr', hs.same, hs.superseded⟩
  approvals a ha := by
    rw [h.tables]
    exact List.mem_append_left _ ha

theorem getLast : ∃ row, db.revisions.getLast? = some row ∧ row.status ≠ .superseded ∧
    db'.revisions.getLast? = some { row with status := .approved } := by
  obtain ⟨row, hlast, hid, -, hs⟩ := h.current hdb
  refine ⟨row, hlast, hs, ?_⟩
  rw [h.tables]
  show ((db.setRevisionStatus _ _).revisions).getLast? = _
  rw [Db.setRevisionStatus, List.getLast?_map, hlast, Option.map_some, if_pos hid]

theorem ok (hv : ∀ n, Grows (views n) db) : db'.Ok where
  profiles := by rw [h.tables]; exact hdb.profiles
  stored row hr := by
    rw [h.tables] at hr
    obtain ⟨row₀, hr₀, hs⟩ := SameRow.source (h.sameRows hdb) hr
    obtain ⟨c, hc⟩ := hdb.stored row₀ hr₀
    exact ⟨c, hs.storedAs hc⟩
  ids := by
    rw [h.tables]
    show ((db.setRevisionStatus _ _).revisions.map _).Nodup
    rw [SameRow.map_eq (h.sameRows hdb) fun _ _ => rfl]
    exact hdb.ids
  versions := by
    rw [h.tables]
    show (db.setRevisionStatus _ _).revisions.map _ = List.range' 1 (db.setRevisionStatus _ _).revisions.length
    rw [SameRow.map_eq (h.sameRows hdb) fun _ _ => rfl, hdb.versions, (h.sameRows hdb).length_eq]
  current w hw := by
    obtain ⟨row, hlast, -, hlast'⟩ := h.getLast hdb
    rw [h.tables] at hw
    obtain ⟨row₀, hlast₀, hc, -⟩ := hdb.current w hw
    obtain rfl := Option.some.inj (hlast.symm.trans hlast₀)
    exact ⟨_, hlast', hc, by simp⟩
  empty hn := by
    obtain ⟨w, hw, -⟩ := h.workspace
    rw [h.tables] at hn
    exact absurd (hw.symm.trans hn) (by simp)
  working row hr hs := by
    rw [h.tables] at hr
    obtain ⟨x, hx, rfl⟩ := List.mem_map.1 hr
    by_cases hid : x.revisionId = r.expectedRevisionId
    · simp [hid] at hs
    · obtain ⟨row, hlast, hrow, -⟩ := h.current hdb
      have hx' := hdb.working x hx (by simpa [hid] using hs)
      rw [hlast, Option.some.injEq] at hx'
      exact absurd (hx' ▸ hrow) hid
  approvals a ha := by
    rw [h.tables, List.mem_append, List.mem_singleton] at ha
    rcases ha with ha | rfl
    · obtain ⟨row, hr, hsha⟩ := hdb.approvals a ha
      obtain ⟨row', hr', hs⟩ := h.revision? hdb hr
      exact ⟨row', hr', by rw [← hsha, ← hs.same]⟩
    · obtain ⟨row, hr, hs, -⟩ := (hv 1).revisions _ _ h.found
      obtain ⟨row', hr', hs'⟩ := h.revision? hdb hr
      refine ⟨row', hr', ?_⟩
      have h₁ : row'.contentSha256 = row.contentSha256 := by rw [← hs'.same]
      have h₂ : row.contentSha256 = read.contentSha256 := by rw [← hs]
      rw [h₁, h₂, h.hash]
  oneApproval := by
    rw [h.tables, List.map_append]
    refine List.nodup_append.2 ⟨hdb.oneApproval, List.nodup_singleton _, fun a ha b hb => ?_⟩
    rw [List.mem_singleton.1 hb]
    rintro rfl
    exact h.first ha
  evidence row c hlast hl id hid := by
    obtain ⟨row₀, hlast₀, -, hlast'⟩ := h.getLast hdb
    obtain rfl := Option.some.inj (hlast'.symm.trans hlast)
    have := hdb.evidence row₀ c hlast₀ hl id hid
    rw [h.tables]
    exact this

end Approved

/-- **What a request leaves of the tables**: a later state, which is as it should be. -/
theorem effect_ok (hdb : db.Ok) (hv : ∀ n, Grows (views n) db) (h : Effect env views r db db') :
    db'.Ok ∧ Grows db db' := by
  cases h with
  | quiet h => exact ⟨h.ok hdb, h.grows⟩
  | saved h => exact ⟨h.appended.ok hdb (h.valid hdb).2.2, h.appended.grows⟩
  | created h => exact ⟨h.appended.ok hdb h.valid, h.appended.grows⟩
  | approved h => exact ⟨h.ok hdb hv, h.grows hdb⟩

theorem handle_ok {res : Response} (hdb : db.Ok) (hv : ∀ n, Grows (views n) db)
    (h : handle env views r db = (res, db')) : Effect env views r db db' ∧ db'.Ok ∧ Grows db db' := by
  have he := handle_effect hv (fun id row hr => (hdb.load (List.mem_of_find?_eq_some hr)).imp fun _ => And.left) h
  exact ⟨he, effect_ok hdb hv he⟩

end

/-! ## Profiles and archiving -/

section

variable {db : Db}

theorem profileVersionId_activated (target p : ProfileRow) :
    (Db.activated target p).profileVersionId = p.profileVersionId := by
  unfold Db.activated
  split_ifs <;> rfl

/-- activation changes statuses only -/
theorem activated_same (target p : ProfileRow) : { Db.activated target p with status := p.status } = p := by
  unfold Db.activated
  split_ifs <;> rfl

theorem map_activated {α : Type} (f : ProfileRow → α) (hf : ∀ p status, f { p with status } = f p) (target : ProfileRow)
    (ps : List ProfileRow) : (ps.map (Db.activated target)).map f = ps.map f := by
  rw [List.map_map]
  refine List.map_congr_left fun p _ => ?_
  rw [Function.comp_apply, ← hf _ p.status, activated_same]

theorem profile?_activateProfile (target : ProfileRow) (id : Uuid) :
    ({ db with profiles := db.profiles.map (Db.activated target) } : Db).profile? id =
      (db.profile? id).map (Db.activated target) := by
  simp only [Db.profile?, List.find?_map, Function.comp_def, profileVersionId_activated]

/-- tables that differ in the profile versions only -/
theorem Db.Ok.withProfiles (h : db.Ok) {profiles : List ProfileRow} (hp : ProfilesOk profiles) :
    ({ db with profiles } : Db).Ok :=
  ⟨hp, h.stored, h.ids, h.versions, h.current, h.empty, h.working, h.approvals, h.oneApproval, h.evidence⟩

theorem Grows.withProfiles {profiles : List ProfileRow} (h : ∀ id p, db.profile? id = some p →
    ∃ p', ({ db with profiles } : Db).profile? id = some p' ∧ { p' with status := p.status } = p) :
    Grows db { db with profiles } :=
  ⟨rfl, h, id, fun _ row hr => ⟨row, hr, rfl, id⟩, fun _ h => h⟩

theorem activateProfile_ok (h : db.Ok) (id : Uuid) : (db.activateProfile id).Ok ∧ Grows db (db.activateProfile id) := by
  unfold Db.activateProfile
  split
  · exact ⟨h, Grows.refl db⟩
  · next target _ =>
    split_ifs
    · exact ⟨h, Grows.refl db⟩
    · refine ⟨h.withProfiles ⟨?_, ?_, ?_⟩, Grows.withProfiles fun id p hp => ?_⟩
      · rw [map_activated ProfileRow.profileVersionId fun _ _ => rfl]
        exact h.profiles.ids
      · rw [map_activated (fun p => (p.profileKey, p.version)) fun _ _ => rfl]
        exact h.profiles.versions
      · intro p hp
        obtain ⟨p₀, hp₀, rfl⟩ := List.mem_map.1 hp
        have hr := h.profiles.rows p₀ hp₀
        rw [← activated_same target p₀] at hr
        exact hr
      · exact ⟨_, by rw [profile?_activateProfile, hp, Option.map_some], activated_same target p⟩

theorem importProfile_ok (h : db.Ok) (id : Uuid) {b : ProfileBundle} (hb : b.WellFormed) :
    (db.importProfile id b).Ok ∧ Grows db (db.importProfile id b) := by
  unfold Db.importProfile
  split_ifs with hc
  · exact ⟨h, Grows.refl db⟩
  · rw [not_or] at hc
    refine ⟨h.withProfiles ⟨?_, ?_, ?_⟩, Grows.withProfiles fun id' p hp => ⟨p, ?_, rfl⟩⟩
    · rw [List.map_append]
      refine List.nodup_append.2 ⟨h.profiles.ids, List.nodup_singleton _, fun a ha b hb => ?_⟩
      rw [List.mem_singleton.1 hb]
      rintro rfl
      exact hc.1 ha
    · rw [List.map_append]
      refine List.nodup_append.2 ⟨h.profiles.versions, List.nodup_singleton _, fun a ha b hb => ?_⟩
      rw [List.mem_singleton.1 hb]
      rintro rfl
      exact hc.2 ha
    · intro p hp
      rcases List.mem_append.1 hp with hp | hp
      · exact h.profiles.rows p hp
      · rw [List.mem_singleton.1 hp]
        exact ⟨hb, rfl, rfl⟩
    · show (db.profiles ++ [_]).find? _ = some p
      rw [List.find?_append, show db.profiles.find? _ = some p from hp, Option.some_or]

/-- archiving leaves everything but the status of the workspace -/
theorem archiveWorkspace_eq (db : Db) : (archiveWorkspace db).2 = db ∨ ∃ w, db.workspace = some w ∧
    (archiveWorkspace db).2 = { db with workspace := some { w with status := .archived } } := by
  rcases h : archiveWorkspace db with ⟨e | u, db'⟩
  · left
    rcases error_readOnly_bind (readOnly_loadWorkspaceForUpdate _) h with h | ⟨_, -, h⟩
    · exact h
    rcases error_readOnly_bind (Txn.readOnly_require _ _ _) h with h | ⟨_, -, h⟩
    · exact h
    · simp at h
  · right
    simp only [archiveWorkspace, Txn.bind_ok, loadWorkspaceForUpdate_ok, Txn.require_ok, Txn.modify_eq] at h
    obtain ⟨_, _, ⟨rfl, w, hw, -⟩, _, _, ⟨-, rfl⟩, -, rfl⟩ := h
    exact ⟨w, hw, by simp [hw]⟩

theorem archiveWorkspace_ok (h : db.Ok) : (archiveWorkspace db).2.Ok ∧ Grows db (archiveWorkspace db).2 := by
  rcases archiveWorkspace_eq db with he | ⟨w, hw, he⟩
  · rw [he]
    exact ⟨h, Grows.refl db⟩
  · rw [he]
    refine ⟨⟨h.profiles, h.stored, h.ids, h.versions, fun w' hw' => ?_, fun hn => ?_, h.working, h.approvals, h.oneApproval,
      h.evidence⟩, ⟨rfl, fun _ p hp => ⟨p, hp, rfl⟩, fun _ => rfl, fun _ row hr => ⟨row, hr, rfl, id⟩, fun _ h => h⟩⟩
    · obtain rfl := Option.some.inj hw'
      exact h.current w hw
    · simp at hn

end

/-- what the actions other than the end of a session leave as it is -/
structure Untouched (db db' : Db) : Prop where
  system : db'.system = db.system
  revisions : db'.revisions = db.revisions
  approvals : db'.approvals = db.approvals
  artifacts : db'.artifacts = db.artifacts
  patches : db'.patches = db.patches
  workspace : db'.workspace.map (fun w => (w.profileVersionId, w.currentRevisionId)) =
    db.workspace.map fun w => (w.profileVersionId, w.currentRevisionId)

theorem Untouched.refl (db : Db) : Untouched db db := ⟨rfl, rfl, rfl, rfl, rfl, rfl⟩

theorem Untouched.revision? {db db' : Db} (h : Untouched db db') (id : Uuid) : db'.revision? id = db.revision? id := by
  rw [Db.revision?, h.revisions, Db.revision?]

theorem step_untouched (env : Env) (s : System) {a : Action} (ha : ∀ i, a ≠ .finish i) :
    Untouched s.db (step env s a).db ∧ (step env s a).history = s.history := by
  cases a with
  | start r => exact ⟨Untouched.refl _, rfl⟩
  | read i =>
    simp only [step]
    split <;> exact ⟨Untouched.refl _, rfl⟩
  | finish i => exact absurd rfl (ha i)
  | importProfile id b =>
    refine ⟨?_, rfl⟩
    show Untouched s.db (s.db.importProfile id b.1)
    unfold Db.importProfile
    split_ifs <;> exact ⟨rfl, rfl, rfl, rfl, rfl, rfl⟩
  | activateProfile id =>
    refine ⟨?_, rfl⟩
    show Untouched s.db (s.db.activateProfile id)
    unfold Db.activateProfile
    split
    · exact Untouched.refl _
    · split_ifs <;> exact ⟨rfl, rfl, rfl, rfl, rfl, rfl⟩
  | archive =>
    refine ⟨?_, rfl⟩
    show Untouched s.db (archiveWorkspace s.db).2
    rcases archiveWorkspace_eq s.db with he | ⟨w, hw, he⟩
    · rw [he]
      exact Untouched.refl _
    · rw [he]
      exact ⟨rfl, rfl, rfl, rfl, rfl, by rw [hw]; rfl⟩

/-! ## Runs -/

structure Inv (s : System) : Prop where
  tables : s.db.Ok
  reads : ∀ x ∈ s.sessions, ∀ v ∈ x.reads, Grows v s.db

theorem Inv.views {s : System} (h : Inv s) {x : Session} (hx : x ∈ s.sessions) (n : Nat) :
    Grows (x.views s.db n) s.db := by
  rw [Session.views, List.getD_eq_getElem?_getD]
  cases hn : x.reads[n]? with
  | none => exact Grows.refl _
  | some v => exact h.reads x hx v (List.mem_of_getElem? hn)

section

variable {env : Env}

/-- what one action leaves of the tables: a later state, which is as it should be -/
theorem step_ok {s : System} (h : Inv s) (a : Action) : (step env s a).db.Ok ∧ Grows s.db (step env s a).db := by
  cases a with
  | start r => exact ⟨h.tables, Grows.refl _⟩
  | read i =>
    simp only [step]
    split <;> exact ⟨h.tables, Grows.refl _⟩
  | finish i =>
    simp only [step]
    split
    · exact ⟨h.tables, Grows.refl _⟩
    · next x hx =>
      exact (handle_ok h.tables (h.views (List.mem_of_getElem? hx))
        (show handle env (x.views s.db) x.request s.db = (_, _) from rfl)).2
  | importProfile id b => exact importProfile_ok h.tables id b.2
  | activateProfile id => exact activateProfile_ok h.tables id
  | archive => exact archiveWorkspace_ok h.tables

/-- a session after one action has read earlier states and, when it has just made a SELECT, the tables as they are -/
theorem mem_sessions_step {s : System} {a : Action} {x : Session} (hx : x ∈ (step env s a).sessions) {v : Db}
    (hv : v ∈ x.reads) : v = s.db ∨ ∃ y ∈ s.sessions, v ∈ y.reads := by
  cases a with
  | start r =>
    rcases List.mem_append.1 hx with hx | hx
    · exact Or.inr ⟨x, hx, hv⟩
    · rw [List.mem_singleton.1 hx] at hv
      simp at hv
  | read i =>
    simp only [step] at hx
    split at hx
    · exact Or.inr ⟨x, hx, hv⟩
    · next y hy =>
      rcases List.mem_or_eq_of_mem_set hx with hx | rfl
      · exact Or.inr ⟨x, hx, hv⟩
      · rcases List.mem_append.1 hv with hv | hv
        · exact Or.inr ⟨y, List.mem_of_getElem? hy, hv⟩
        · exact Or.inl (List.mem_singleton.1 hv)
  | finish i =>
    simp only [step] at hx
    split at hx
    · exact Or.inr ⟨x, hx, hv⟩
    · exact Or.inr ⟨x, List.mem_of_mem_eraseIdx hx, hv⟩
  | importProfile id b => exact Or.inr ⟨x, hx, hv⟩
  | activateProfile id => exact Or.inr ⟨x, hx, hv⟩
  | archive => exact Or.inr ⟨x, hx, hv⟩

theorem step_inv {s : System} (a : Action) (h : Inv s) : Inv (step env s a) := by
  obtain ⟨hok, hg⟩ := step_ok h a
  refine ⟨hok, fun x hx v hv => ?_⟩
  rcases mem_sessions_step hx hv with rfl | ⟨y, hy, hvy⟩
  · exact hg
  · exact (h.reads y hy v hvy).trans hg

/-- what a session that ends does to the tables -/
theorem finish_effect {s : System} (h : Inv s) {i : Nat} {x : Session} (hx : s.sessions[i]? = some x) :
    Effect env (x.views s.db) x.request s.db (step env s (.finish i)).db := by
  have hv := h.views (List.mem_of_getElem? hx)
  simp only [step, hx]
  exact (handle_ok h.tables hv (show handle env (x.views s.db) x.request s.db = (_, _) from rfl)).1

/-- **The invariant holds in every run.** -/
theorem run_inv {s : System} (h : Inv s) (as : List Action) : Inv (Runs.run (step env) s as) :=
  Runs.run_inv (fun _ a => step_inv a) h as

theorem run_grows {s : System} (h : Inv s) (as : List Action) : Grows s.db (Runs.run (step env) s as).db := by
  induction as generalizing s with
  | nil => exact Grows.refl _
  | cons a as ih => exact (step_ok h a).2.trans (ih (step_inv a h))

end

/-! ## A small system -/

/-- the actions of a request that nothing comes between -/
def whole (r : Request) : List Action := [.start r, .finish 0]

namespace Small

def env : Env := ⟨⟨id, id, fun _ => "", id, fun _ => ""⟩, fun n => toString n, 1000⟩

def bundle (version : String) : ProfileBundle where
  manifest := ⟨"agency", version, []⟩
  catalogControls := [⟨"AC-1", "Policy", "Write a policy."⟩]
  lowControlIds := ["AC-1"]
  moderateControlIds := ["AC-1"]
  highControlIds := ["AC-1"]
  sspRequiredItems := [{
    itemId := "system.data_types"
    title := "Data"
    valueType := .string
    minLength := none
    allowedValues := []
    evidenceRequiredForAgent := false
    required := false }]
  controlResponse := ⟨["unknown"], ["unknown"], ["isso"], false⟩
  standardCoverage := []
  implementationStatementPolicy := ⟨"1", ⟨false, false, false, false, true⟩, ⟨[], [], [], []⟩, []⟩

theorem bundle_wellFormed (version : String) : (bundle version).WellFormed :=
  -- the version takes no part in what the loader promises
  have h : (bundle "1").WellFormed := {
    catalog := by decide
    baselines := by decide
    controlTitles := by decide
    items := by decide
    itemIds := by decide
    itemTitles := by decide }
  ⟨h.catalog, h.baselines, h.controlTitles, h.items, h.itemIds, h.itemTitles⟩

/-- two versions of one profile, of which the first is active -/
def tables : Db where
  profiles := [⟨.ofNat 1, "agency", "1", .active, bundle "1"⟩, ⟨.ofNat 2, "agency", "2", .inactive, bundle "2"⟩]
  system := ⟨"System", none⟩

theorem tables_initial : tables.Initial where
  profiles := {
    ids := by decide
    versions := by decide
    rows := by
      intro p hp
      simp only [tables, List.mem_cons, List.not_mem_nil, or_false] at hp
      rcases hp with rfl | rfl <;> exact ⟨bundle_wellFormed _, rfl, rfl⟩ }
  workspace := rfl
  revisions := rfl
  artifacts := rfl
  patches := rfl
  approvals := rfl

def isso : Principal := ⟨"isso", by decide, by decide, by decide⟩

/-- the ISSO asks for `o` over the revision `expected`; a save draws the identifier `new` -/
def ask (o : Operation) (expected new : Nat) : Request := ⟨o, isso, true, .ofNat expected, .ofNat new, 0⟩

def file : UploadedFile := ⟨"scan.txt", "text/plain", 1, "00", .ok { detectedFormat := some "txt", segments := [] }⟩

theorem page_ne_nil : [("page", Json.int 1)] ≠ [] := List.cons_ne_nil _ _

def link : EvidenceLink := ⟨.ofNat 50, [("page", .int 1)], page_ne_nil⟩

def form : CategorizationForm := ⟨"low", "low", "low", "r", "r", "r", ⟨[link], [link], [link]⟩⟩

def definition : SystemDefinitionInput where
  boundary := ⟨"The boundary of this system.", []⟩
  components := [⟨"c", "Server", "Serves", "inside", []⟩]
  interconnections := [⟨"i", "Org", "Peer", "inbound", ["d"], "TLS", "Owner", "MOU", "", "", "", "Firewall", []⟩]

def mapping : InformationTypeMapping := ⟨"e", "C.3.5.1", "Mail", none, none, none, "", []⟩

/-- the workspace with a file, and its categorization confirmed -/
def categorized : List Action :=
  whole (ask (.create (.ofNat 1) none) 0 101) ++ whole (ask (.ingest file (.ofNat 50)) 101 0) ++
    whole (ask (.categorize form) 101 102)

/-- everything confirmed that an approval asks for -/
def reviewable : List Action :=
  categorized ++ whole (ask (.defineSystem definition) 102 103) ++ whole (ask (.mapInformationTypes [mapping]) 103 104)

end Small

end AtoService.Workspace
