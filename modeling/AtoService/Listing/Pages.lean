/-
The lists of analysis runs, matrix rows and fact proposals, a page at a time.

Each list is a page of `Keyset.listPage` under its own order and with its own cursors. The database compares texts under
its collation, which tells different texts apart.

- `listRuns_follows_iff`: the runs of a revision are read in full only where they fit one page.
- `getRunMatrix_follows_iff`, `listFactProposals_follows_iff`: matrix rows and proposals are, where the rows that end a page
  have cursors that fill their groups of three bytes.
- `listings_follow_iff`: the three together.
Witness `twoRuns_unfollowed`: two runs, one to a page.
-/
import AtoService.Jobs.Queue
import AtoService.Lib.KeysetPages
import AtoService.Listing.Cursors
import AtoService.Matrix.Rows

namespace AtoService.Listing

open AtoService.Audit (Instant)
open AtoService.Jobs (RunStatus)
open AtoService.Keyset (listPage ordered Follows PageEnds RoundTrips Refused)
open AtoService.Matrix (MatrixStatus isAssessmentItemId)
open AtoService.Results (ensure orRaise)
open AtoService.Workspace (Uuid)

/-! ## Tables -/

structure AnalysisRun where
  runId : Uuid
  packageRevisionId : Uuid
  status : RunStatus
  requestedAt : Instant
deriving DecidableEq, Repr

structure MatrixRow where
  runId : Uuid
  assessmentItemId : String
  modelProposedStatus : MatrixStatus
  systemStatus : MatrixStatus
  item_ok : isAssessmentItemId assessmentItemId = true
deriving DecidableEq, Repr

structure FactProposal where
  factProposalId : Uuid
  packageRevisionId : Uuid
  jsonPointer : String
deriving DecidableEq, Repr

/-- the tables under their primary and unique keys -/
structure Db where
  runs : List AnalysisRun
  matrixRows : List MatrixRow
  proposals : List FactProposal
  runs_distinct : (runs.map AnalysisRun.runId).Nodup
  matrixRows_distinct : (matrixRows.map fun r => (r.runId, r.assessmentItemId)).Nodup
  proposals_distinct : (proposals.map FactProposal.factProposalId).Nodup

/-- the collation of the database, by the keys that it compares texts with -/
structure Collation where
  Key : Type
  [order : LinearOrder Key]
  sortKey : String → Key
  injective : Function.Injective sortKey

attribute [instance] Collation.order

/-- `AnalysisRun.requested_at.asc(), AnalysisRun.run_id.asc()` -/
def runKey (r : AnalysisRun) : Instant ×ₗ Uuid := toLex (r.requestedAt, r.runId)

/-- `MatrixRow.assessment_item_id.asc()` -/
def matrixKey (collation : Collation) (r : MatrixRow) : collation.Key := collation.sortKey r.assessmentItemId

/-- `FactProposal.json_pointer.asc(), FactProposal.fact_proposal_id.asc()` -/
def proposalKey (collation : Collation) (p : FactProposal) : collation.Key ×ₗ Uuid :=
  toLex (collation.sortKey p.jsonPointer, p.factProposalId)

def Db.runsOf (db : Db) (packageRevisionId : Uuid) : List AnalysisRun :=
  db.runs.filter fun r => r.packageRevisionId = packageRevisionId

/-- the rows of a run, with the status filter when there is one -/
def Db.rowsOf (db : Db) (runId : Uuid) (status : Option MatrixStatus) : List MatrixRow :=
  db.matrixRows.filter fun r =>
    r.runId = runId ∧ status.all fun s => r.modelProposedStatus = s ∨ r.systemStatus = s

def Db.proposalsOf (db : Db) (packageRevisionId : Uuid) : List FactProposal :=
  db.proposals.filter fun p => p.packageRevisionId = packageRevisionId

/-! ## Lists -/

def defaultPageLimit : Nat := 50

def validatePageLimit : Option Int → Except ListError Nat
  | none => .ok defaultPageLimit
  | some limit => do
    ensure (1 ≤ limit ∧ limit ≤ 100) .invalidPageLimit
    return limit.toNat

/-- `mayView`: the revision exists and the caller is a viewer of it -/
def listRuns (readIso : List Char → Option Instant) (db : Db) (mayView : Bool) (packageRevisionId : Uuid)
    (limit : Option Int) (cursor : Option (List Char)) :
    Except ListError (List AnalysisRun × Option (List Char)) := do
  let pageLimit ← validatePageLimit limit
  ensure mayView .denied
  listPage runKey (fun r => encodeRunCursor r.requestedAt r.runId) (decodeRunCursor readIso) pageLimit
    (db.runsOf packageRevisionId) cursor

structure MatrixRowsPage where
  items : List MatrixRow
  nextCursor : Option (List Char)
  total : Nat

def getRunMatrix (collation : Collation) (db : Db) (mayView : Bool) (runId : Uuid) (status : Option MatrixStatus)
    (limit : Option Int) (cursor : Option (List Char)) : Except ListError MatrixRowsPage := do
  let pageLimit ← validatePageLimit limit
  let run ← orRaise (db.runs.find? fun r => r.runId = runId) .denied
  ensure mayView .denied
  ensure (run.status = .succeeded) .illegalStateTransition
  let total := (db.rowsOf runId status).length
  let (items, nextCursor) ← listPage (matrixKey collation) (fun r => encodeMatrixCursor r.assessmentItemId)
    (fun c => collation.sortKey <$> decodeMatrixCursor c) pageLimit (db.rowsOf runId status) cursor
  return ⟨items, nextCursor, total⟩

/-- a page of matrix rows as a client that follows cursors sees it -/
def matrixPage (collation : Collation) (db : Db) (mayView : Bool) (runId : Uuid) (status : Option MatrixStatus)
    (limit : Option Int) (cursor : Option (List Char)) : Except ListError (List MatrixRow × Option (List Char)) :=
  (fun p => (p.items, p.nextCursor)) <$> getRunMatrix collation db mayView runId status limit cursor

def listFactProposals (collation : Collation) (readWide : List Nat → Option (List Char)) (db : Db) (mayView : Bool)
    (packageRevisionId : Uuid) (limit : Option Int) (cursor : Option (List Char)) :
    Except ListError (List FactProposal × Option (List Char)) := do
  ensure mayView .denied
  let pageLimit ← validatePageLimit limit
  listPage (proposalKey collation) (fun p => encodeProposalCursor p.jsonPointer p.factProposalId)
    (fun c => (fun k => toLex (collation.sortKey k.1, k.2)) <$> decodeProposalCursor readWide c) pageLimit
    (db.proposalsOf packageRevisionId) cursor

/-! ## Their keys are distinct -/

variable {db : Db} {collation : Collation}

theorem runKey_distinct (id : Uuid) : ((db.runsOf id).map runKey).Nodup := by
  have hids : ((db.runsOf id).map AnalysisRun.runId).Nodup := db.runs_distinct.sublist (List.filter_sublist.map _)
  refine List.Nodup.of_map (fun k => (ofLex k).2) ?_
  rw [List.map_map]
  exact hids

theorem matrixKey_distinct (runId : Uuid) (status : Option MatrixStatus) :
    ((db.rowsOf runId status).map (matrixKey collation)).Nodup := by
  have hpairs : ((db.rowsOf runId status).map fun r => (r.runId, r.assessmentItemId)).Nodup :=
    db.matrixRows_distinct.sublist (List.filter_sublist.map _)
  have hrun : ∀ r ∈ db.rowsOf runId status, r.runId = runId := by
    intro r hr
    have hfilter := (List.mem_filter.1 hr).2
    exact (of_decide_eq_true hfilter).1
  refine (List.nodup_map_iff_inj_on hpairs.of_map).2 fun r hr s hs hkey => ?_
  have hitem : r.assessmentItemId = s.assessmentItemId := collation.injective hkey
  refine List.inj_on_of_nodup_map hpairs hr hs ?_
  rw [hitem, hrun r hr, hrun s hs]

theorem proposalKey_distinct (id : Uuid) : ((db.proposalsOf id).map (proposalKey collation)).Nodup := by
  have hids : ((db.proposalsOf id).map FactProposal.factProposalId).Nodup :=
    db.proposals_distinct.sublist (List.filter_sublist.map _)
  refine List.Nodup.of_map (fun k => (ofLex k).2) ?_
  rw [List.map_map]
  exact hids

/-! ## Following the cursors -/

theorem validatePageLimit_pos {limit : Option Int} {n : Nat} (h : validatePageLimit limit = .ok n) : 0 < n := by
  cases limit with
  | none =>
    cases h
    decide
  | some limit =>
    obtain ⟨_, hrange, hn⟩ := Results.bind_eq_ok.1 h
    have hrange := Results.ensure_eq_ok.1 hrange
    have hn := Results.pure_eq_ok.1 hn
    omega

variable {limit : Option Int} {n : Nat}

/-- **Runs are read in full only where they fit one page.** -/
theorem listRuns_follows_iff (readIso : List Char → Option Instant) (hlimit : validatePageLimit limit = .ok n)
    (packageRevisionId : Uuid) :
    Follows (listRuns readIso db true packageRevisionId limit) none (ordered runKey (db.runsOf packageRevisionId)) ↔
      (db.runsOf packageRevisionId).length ≤ n := by
  have hpos := validatePageLimit_pos hlimit
  have hlist : listRuns readIso db true packageRevisionId limit = listPage runKey
      (fun r => encodeRunCursor r.requestedAt r.runId) (decodeRunCursor readIso) n (db.runsOf packageRevisionId) := by
    funext cursor
    rw [listRuns, hlimit]
    rfl
  have hrefused : ∀ r ∈ db.runsOf packageRevisionId,
      Refused (fun r : AnalysisRun => encodeRunCursor r.requestedAt r.runId) (decodeRunCursor readIso) r :=
    fun r _ cursor hcursor => decodeRunCursor_encode readIso hcursor
  have hlength : (ordered runKey (db.runsOf packageRevisionId)).length = (db.runsOf packageRevisionId).length :=
    Keyset.ordered_perm.length_eq
  rw [hlist, Keyset.follows_iff (runKey_distinct packageRevisionId) hpos fun r hr => Or.inr (hrefused r hr)]
  constructor
  · intro hends
    by_contra hlong
    have hlong' : n < (ordered runKey (db.runsOf packageRevisionId)).length := by omega
    have hlast := List.getElem?_eq_getElem (l := ordered runKey (db.runsOf packageRevisionId)) (i := n - 1) (by omega)
    obtain ⟨c, hencode, hdecode⟩ := hends (n - 1) _ hlast (by rw [Nat.sub_add_cancel hpos]) (by omega)
    obtain ⟨e, hrefuses⟩ := hrefused _ (Keyset.mem_ordered.1 (List.mem_of_getElem? hlast)) c hencode
    rw [hdecode] at hrefuses
    cases hrefuses
  · intro hshort
    exact Keyset.pageEnds_of_length_le (by omega)

section

variable {α κ : Type} {key : α → κ} {encode : α → Except ListError (List Char)}
  {decode : List Char → Except ListError κ} {r : α} {P : Prop} [Decidable P]

/-- the cursor of a row is read back under `P` and refused otherwise -/
theorem roundTrips_or_refused
    (h : ∀ c, encode r = .ok c → decode c = if P then .ok (key r) else .error .invalidPaginationCursor) :
    RoundTrips key encode decode r ∨ Refused encode decode r := by
  by_cases hread : P ∧ ∃ c, encode r = .ok c
  · obtain ⟨hp, c, hc⟩ := hread
    exact Or.inl ⟨c, hc, by rw [h c hc, if_pos hp]⟩
  · refine Or.inr fun c hc => ⟨.invalidPaginationCursor, ?_⟩
    rw [h c hc, if_neg fun hp => hread ⟨hp, c, hc⟩]

theorem roundTrips_iff
    (h : ∀ c, encode r = .ok c → decode c = if P then .ok (key r) else .error .invalidPaginationCursor) :
    RoundTrips key encode decode r ↔ P ∧ ∃ c, encode r = .ok c := by
  constructor
  · rintro ⟨c, hc, hread⟩
    refine ⟨?_, c, hc⟩
    by_contra hp
    rw [h c hc, if_neg hp] at hread
    cases hread
  · rintro ⟨hp, c, hc⟩
    exact ⟨c, hc, by rw [h c hc, if_pos hp]⟩

end

theorem plain_of_item {i : String} (h : isAssessmentItemId i = true) : Plain (Py.chars i) ∧ (Py.chars i).length ≤ 128 := by
  unfold isAssessmentItemId at h
  rcases hchars : Py.chars i with _ | ⟨c, cs⟩
  · rw [hchars] at h
    cases h
  · rw [hchars] at h
    simp only [Bool.and_eq_true, Bool.or_eq_true, decide_eq_true_eq, List.all_eq_true] at h
    obtain ⟨⟨⟨hfirst, hrest⟩, -⟩, hlength⟩ := h
    have hword : ∀ d : Char, ('a' ≤ d ∧ d ≤ 'z' ∨ 'A' ≤ d ∧ d ≤ 'Z') ∨ '0' ≤ d ∧ d ≤ '9' → PlainChar d := by
      rintro d ((hd | hd) | hd)
      · exact plainChar_of_word (Or.inr (Or.inr hd))
      · exact plainChar_of_word (Or.inr (Or.inl hd))
      · exact plainChar_of_word (Or.inl hd)
    refine ⟨?_, by rw [List.length_cons]; omega⟩
    rw [plain_cons]
    refine ⟨hword c hfirst, fun d hd => ?_⟩
    rcases hrest d hd with hd | hd
    · exact hword d hd
    · have hmarks : Plain ['(', ')', '.', '_', '-'] := by decide
      exact hmarks d hd

theorem decodeMatrixCursor_key (r : MatrixRow) (c : List Char) (hc : encodeMatrixCursor r.assessmentItemId = .ok c) :
    (collation.sortKey <$> decodeMatrixCursor c : Except ListError collation.Key) =
      if (Py.chars r.assessmentItemId).length % 3 = 0 then .ok (matrixKey collation r)
      else .error .invalidPaginationCursor := by
  rw [matrixCursor_spec (plain_of_item r.item_ok).1 hc]
  split_ifs <;> rfl

/-- **Matrix rows are read in full if and only if the length of every item that ends a page is a multiple of three.** -/
theorem getRunMatrix_follows_iff (hlimit : validatePageLimit limit = .ok n) {run : AnalysisRun}
    (hrun : db.runs.find? (fun r => r.runId = run.runId) = some run) (hsucceeded : run.status = .succeeded)
    (status : Option MatrixStatus) :
    Follows (matrixPage collation db true run.runId status limit) none
        (ordered (matrixKey collation) (db.rowsOf run.runId status)) ↔
      PageEnds n (ordered (matrixKey collation) (db.rowsOf run.runId status)) fun r =>
        (Py.chars r.assessmentItemId).length % 3 = 0 := by
  have hpos := validatePageLimit_pos hlimit
  have hlist : matrixPage collation db true run.runId status limit = listPage (matrixKey collation)
      (fun r => encodeMatrixCursor r.assessmentItemId) (fun c => collation.sortKey <$> decodeMatrixCursor c) n
      (db.rowsOf run.runId status) := by
    funext cursor
    rw [matrixPage, getRunMatrix, hlimit, hrun]
    show _ <$> (do
      ensure (run.status = RunStatus.succeeded) ListError.illegalStateTransition
      _) = _
    rw [ensure, if_pos hsucceeded]
    show _ <$> (listPage (matrixKey collation) _ _ n _ cursor >>= _) = _
    generalize listPage (matrixKey collation) _ _ n _ cursor = answer
    cases answer <;> rfl
  rw [hlist, Keyset.follows_iff (matrixKey_distinct run.runId status) hpos fun r _ =>
    roundTrips_or_refused (decodeMatrixCursor_key r)]
  refine Keyset.pageEnds_congr fun r _ => (roundTrips_iff (decodeMatrixCursor_key r)).trans ?_
  obtain ⟨hplain, hshort⟩ := plain_of_item r.item_ok
  rw [matrixCursor_isOk hplain]
  exact and_iff_left (by omega)

theorem decodeProposalCursor_key (readWide : List Nat → Option (List Char)) (p : FactProposal) (c : List Char)
    (hc : encodeProposalCursor p.jsonPointer p.factProposalId = .ok c) :
    ((fun k => toLex (collation.sortKey k.1, k.2)) <$> decodeProposalCursor readWide c :
        Except ListError (collation.Key ×ₗ Uuid)) =
      if (escapedLength p.jsonPointer + 59) % 3 = 0 ∧ p.jsonPointer ≠ "" then .ok (proposalKey collation p)
      else .error .invalidPaginationCursor := by
  rw [proposalCursor_spec readWide hc]
  split_ifs <;> rfl

/-- **Proposals are read in full if and only if every pointer that ends a page has a cursor that is short enough and fills
its groups**, and is not the pointer to the whole document. -/
theorem listFactProposals_follows_iff (readWide : List Nat → Option (List Char))
    (hlimit : validatePageLimit limit = .ok n) (packageRevisionId : Uuid) :
    Follows (listFactProposals collation readWide db true packageRevisionId limit) none
        (ordered (proposalKey collation) (db.proposalsOf packageRevisionId)) ↔
      PageEnds n (ordered (proposalKey collation) (db.proposalsOf packageRevisionId)) fun p =>
        p.jsonPointer ≠ "" ∧ (escapedLength p.jsonPointer + 59) % 3 = 0 ∧ escapedLength p.jsonPointer + 59 ≤ 1536 := by
  have hpos := validatePageLimit_pos hlimit
  have hlist : listFactProposals collation readWide db true packageRevisionId limit = listPage (proposalKey collation)
      (fun p => encodeProposalCursor p.jsonPointer p.factProposalId)
      (fun c => (fun k => toLex (collation.sortKey k.1, k.2)) <$> decodeProposalCursor readWide c) n
      (db.proposalsOf packageRevisionId) := by
    funext cursor
    rw [listFactProposals, hlimit]
    rfl
  rw [hlist, Keyset.follows_iff (proposalKey_distinct packageRevisionId) hpos fun p _ =>
    roundTrips_or_refused (decodeProposalCursor_key readWide p)]
  refine Keyset.pageEnds_congr fun p _ => (roundTrips_iff (decodeProposalCursor_key readWide p)).trans ?_
  rw [proposalCursor_isOk]
  tauto

/-- **Following the cursors of the lists.** Runs come in full where they fit one page; matrix rows and proposals where the
rows that end a page have cursors without pads. -/
theorem listings_follow_iff (db : Db) (collation : Collation) (readIso : List Char → Option Instant)
    (readWide : List Nat → Option (List Char)) (packageRevisionId : Uuid) (run : AnalysisRun)
    (status : Option MatrixStatus) (limit : Option Int) (n : Nat) (hlimit : validatePageLimit limit = .ok n)
    (hrun : db.runs.find? (fun r => r.runId = run.runId) = some run) (hsucceeded : run.status = .succeeded) :
    (Follows (listRuns readIso db true packageRevisionId limit) none (ordered runKey (db.runsOf packageRevisionId)) ↔
      (db.runsOf packageRevisionId).length ≤ n) ∧
    (Follows (matrixPage collation db true run.runId status limit) none
        (ordered (matrixKey collation) (db.rowsOf run.runId status)) ↔
      PageEnds n (ordered (matrixKey collation) (db.rowsOf run.runId status)) fun r =>
        (Py.chars r.assessmentItemId).length % 3 = 0) ∧
    (Follows (listFactProposals collation readWide db true packageRevisionId limit) none
        (ordered (proposalKey collation) (db.proposalsOf packageRevisionId)) ↔
      PageEnds n (ordered (proposalKey collation) (db.proposalsOf packageRevisionId)) fun p =>
        p.jsonPointer ≠ "" ∧ (escapedLength p.jsonPointer + 59) % 3 = 0 ∧ escapedLength p.jsonPointer + 59 ≤ 1536) :=
  ⟨listRuns_follows_iff readIso hlimit packageRevisionId, getRunMatrix_follows_iff hlimit hrun hsucceeded status,
    listFactProposals_follows_iff readWide hlimit packageRevisionId⟩

namespace TwoRuns

theorem year_ok : 1 ≤ 2026 ∧ 2026 ≤ 9999 := by decide

theorem march_ok : 1 ≤ 3 ∧ 3 ≤ 12 := by decide

theorem first_ok : 1 ≤ 1 ∧ 1 ≤ Audit.daysInMonth 2026 3 := by decide

def requestedAt (hour : Nat) (h : hour < 24) : Instant where
  year := 2026
  month := 3
  day := 1
  hour := hour
  minute := 0
  second := 0
  microsecond := 0
  year_ok := year_ok
  month_ok := march_ok
  day_ok := first_ok
  time_ok := ⟨h, by decide, by decide, by decide⟩

def revision : Uuid := Uuid.ofNat 9

def first : AnalysisRun := ⟨Uuid.ofNat 1, revision, .succeeded, requestedAt 8 (by decide)⟩

def second : AnalysisRun := ⟨Uuid.ofNat 2, revision, .queued, requestedAt 9 (by decide)⟩

def rows : List MatrixRow :=
  [⟨first.runId, "AC-2.1", .supported, .supported, by decide⟩, ⟨first.runId, "AC-2.2", .unsupported, .unsupported, by decide⟩]

def proposals : List FactProposal := [⟨Uuid.ofNat 1, revision, "/a/b"⟩, ⟨Uuid.ofNat 2, revision, "/a/c"⟩]

def tables : Db where
  runs := [first, second]
  matrixRows := rows
  proposals := proposals
  runs_distinct := by decide
  matrixRows_distinct := by decide
  proposals_distinct := by decide

def codePoints : Collation := ⟨String, id, Function.injective_id⟩

end TwoRuns

/-- pages of one: the runs are not read in full, the rows of the matrix and the proposals are -/
theorem listings_follow_iff_two :
    ¬Follows (listRuns (fun _ => none) TwoRuns.tables true TwoRuns.revision (some 1)) none
        (ordered runKey (TwoRuns.tables.runsOf TwoRuns.revision)) ∧
      Follows (matrixPage TwoRuns.codePoints TwoRuns.tables true TwoRuns.first.runId none (some 1)) none
        (ordered (matrixKey TwoRuns.codePoints) (TwoRuns.tables.rowsOf TwoRuns.first.runId none)) ∧
      Follows (listFactProposals TwoRuns.codePoints (fun _ => none) TwoRuns.tables true TwoRuns.revision (some 1)) none
        (ordered (proposalKey TwoRuns.codePoints) (TwoRuns.tables.proposalsOf TwoRuns.revision)) := by
  have h := listings_follow_iff TwoRuns.tables TwoRuns.codePoints (fun _ => none) (fun _ => none) TwoRuns.revision TwoRuns.first
    none (some 1) 1 rfl rfl rfl
  refine ⟨fun hfollows => absurd (h.1.1 hfollows) (by decide), h.2.1.2 fun i r hr _ _ => ?_,
    h.2.2.2 fun i p hp _ _ => ?_⟩
  · have hrows : ∀ r ∈ TwoRuns.tables.rowsOf TwoRuns.first.runId none, (Py.chars r.assessmentItemId).length % 3 = 0 := by
      decide
    exact hrows r (Keyset.mem_ordered.1 (List.mem_of_getElem? hr))
  · have hproposals : ∀ p ∈ TwoRuns.tables.proposalsOf TwoRuns.revision,
        p.jsonPointer ≠ "" ∧ (escapedLength p.jsonPointer + 59) % 3 = 0 ∧ escapedLength p.jsonPointer + 59 ≤ 1536 := by
      decide
    exact hproposals p (Keyset.mem_ordered.1 (List.mem_of_getElem? hp))

/-- Two runs of a revision, one to a page: the cursor of the first page is refused. -/
theorem twoRuns_unfollowed : ¬∀ (db : Db) (packageRevisionId : Uuid) (limit : Option Int) (n : Nat),
    validatePageLimit limit = .ok n →
      Follows (listRuns (fun _ => none) db true packageRevisionId limit) none
        (ordered runKey (db.runsOf packageRevisionId)) := by
  intro hall
  have hfollows := hall TwoRuns.tables TwoRuns.revision (some 1) 1 rfl
  have hshort := (listRuns_follows_iff (fun _ => none) rfl TwoRuns.revision).1 hfollows
  exact absurd hshort (by decide)

end AtoService.Listing
