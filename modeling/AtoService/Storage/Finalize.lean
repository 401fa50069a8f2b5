/-
The content manifest of a package revision: finalize writes it from a thread, outside its transaction.

A finalize request locks the row of the revision and starts a thread that writes the manifest of the artifacts it read; it
commits when the thread is through. A request that is cancelled or rolls back gives the lock up, and its thread goes on. A
thread looks at the file in place, which it may find to be its own, and replaces it in one step; what it checks before, and
what it may fail at, is `fail`. Uploads and the other requests on a revision take the same lock. Process crashes end all
requests and threads.

`manifest_in_place`: once a finalize has committed, the file is the manifest of the revision, as long as no thread that
outlived its request replaces a manifest that is in place by another.
-/
import AtoService.Intake.Queue
import AtoService.Lib.JsonRoundTrip
import AtoService.Lib.Runs
import AtoService.Lib.Sha

namespace AtoService.Storage

open Intake (PackageRevisionStatus)

/-! ## Manifests -/

structure ManifestSourceEntry where
  artifactId : String
  storageKey : String
  sha256 : String
  sizeBytes : Nat
deriving DecidableEq, Repr

def ManifestSourceEntry.document (entry : ManifestSourceEntry) : Json :=
  .obj [("artifact_id", .str entry.artifactId), ("storage_key", .str entry.storageKey), ("sha256", .str entry.sha256),
    ("size_bytes", .int entry.sizeBytes)]

def schemaVersion : String := "1.0.0"

/-- identifiers are lowercase, so that `casefold` keeps them -/
def buildManifestDocument (packageRevisionId : String) (entries : List ManifestSourceEntry) : Json :=
  .obj [("schema_version", .str schemaVersion), ("package_revision_id", .str packageRevisionId),
    ("artifacts", .arr ((KeyedList.sorted ManifestSourceEntry.artifactId entries).map ManifestSourceEntry.document))]

/-- the text that is written, in UTF-8 -/
def canonicalManifestBytes (document : Json) : List Char := document.dumps .compact

def manifestOf (packageRevisionId : String) (entries : List ManifestSourceEntry) : List Char :=
  canonicalManifestBytes (buildManifestDocument packageRevisionId entries)

/-- the manifest reads back as the document -/
theorem loads_manifestOf (packageRevisionId : String) (entries : List ManifestSourceEntry) :
    JsonText.loads (manifestOf packageRevisionId entries) = some (buildManifestDocument packageRevisionId entries).canon := by
  refine JsonText.loads_dumps JsonText.blanks_compact ⟨?_, trivial, trivial, ?_, trivial⟩
  · exact (by decide : ["schema_version", "package_revision_id", "artifacts"].Nodup)
  · rw [Json.WellFormed, Json.wellFormedItems_iff]
    intro x hx
    obtain ⟨entry, -, rfl⟩ := List.mem_map.1 hx
    have hkeys : ["artifact_id", "storage_key", "sha256", "size_bytes"].Nodup := by decide
    exact ⟨hkeys, trivial, trivial, trivial, trivial, trivial⟩

/-! ## Requests and threads -/

structure PackageRevision where
  status : PackageRevisionStatus
  contentManifestSha256 : Option String
  sourceArtifacts : List ManifestSourceEntry
deriving DecidableEq, Repr

inductive WriterPhase where
  | started
  /-- the file in place is missing or to be replaced -/
  | checked
  /-- the thread has found or put its manifest in place -/
  | written
deriving DecidableEq, Repr

/-- a call of `write_content_manifest` -/
structure Writer where
  packageRevisionId : String
  manifestBytes : List Char
  replaceUnreferencedExisting : Bool
  phase : WriterPhase
deriving DecidableEq, Repr

structure State where
  revisions : String → Option PackageRevision := fun _ => none
  manifests : String → Option (List Char) := fun _ => none
  writers : Nat → Option Writer := fun _ => none
  /-- the thread that the finalize request awaits that has locked the row -/
  holder : String → Option Nat := fun _ => none

namespace State

def putRevision (s : State) (id : String) (row : PackageRevision) : State :=
  { s with revisions := Function.update s.revisions id (some row) }

def putWriter (s : State) (n : Nat) (w : Writer) : State := { s with writers := Function.update s.writers n (some w) }

def unlock (s : State) (id : String) : State := { s with holder := Function.update s.holder id none }

/-- the thread raises, and its request with it -/
def fail (s : State) (n : Nat) (w : Writer) : State :=
  let s := { s with writers := Function.update s.writers n none }
  if s.holder w.packageRevisionId = some n then s.unlock w.packageRevisionId else s

def upload (s : State) (id : String) (artifact : ManifestSourceEntry) (row : PackageRevision) : State :=
  if row.status = .uploading ∧ s.holder id = none then
    s.putRevision id { row with sourceArtifacts := row.sourceArtifacts ++ [artifact] }
  else s

/-- `finalize_package_revision` up to the start of the thread -/
def finalize (s : State) (id : String) (n : Nat) (row : PackageRevision) : State :=
  if s.holder id = none ∧ s.writers n = none ∧ row.status = .uploading ∧ row.sourceArtifacts ≠ [] then
    { s.putWriter n ⟨id, manifestOf id row.sourceArtifacts, row.contentManifestSha256.isNone, .started⟩ with
      holder := Function.update s.holder id (some n) }
  else s

def check (s : State) (n : Nat) (w : Writer) : State :=
  if w.phase = .started then
    match s.manifests w.packageRevisionId with
    | none => s.putWriter n { w with phase := .checked }
    | some existingBytes =>
      if existingBytes = w.manifestBytes then s.putWriter n { w with phase := .written }
      else if w.replaceUnreferencedExisting then s.putWriter n { w with phase := .checked }
      else s.fail n w
  else s

/-- `os.replace` -/
def replace (s : State) (n : Nat) (w : Writer) : State :=
  if w.phase = .checked then
    { s.putWriter n { w with phase := .written } with
      manifests := Function.update s.manifests w.packageRevisionId (some w.manifestBytes) }
  else s

/-- the rest of `finalize_package_revision` -/
def commit (s : State) (id : String) (row : PackageRevision) (w : Writer) : State :=
  if w.phase = .written then
    (s.putRevision id { row with
      status := .scanning
      contentManifestSha256 := some (Sha.sha256Hex w.manifestBytes) }).unlock id
  else s

/-- a finalize of the revision has its manifest in place, or has committed -/
def inPlace (s : State) (id : String) : Bool :=
  ((s.revisions id).any fun row => row.contentManifestSha256.isSome) ||
    (((s.holder id).bind s.writers).any fun w => w.phase = .written)

end State

inductive Event where
  | create (packageRevisionId : String)
  | upload (packageRevisionId : String) (artifact : ManifestSourceEntry)
  | finalize (packageRevisionId : String) (writer : Nat)
  | check (writer : Nat)
  | replace (writer : Nat)
  | fail (writer : Nat)
  | commit (packageRevisionId : String)
  /-- the transaction rolls back, or the request is cancelled -/
  | rollback (packageRevisionId : String)
  /-- intake and confirm move the revision on -/
  | advance (packageRevisionId : String) (status : PackageRevisionStatus)
  | crash
deriving DecidableEq, Repr

def step (s : State) : Event → State
  | .create id => if s.revisions id = none then s.putRevision id ⟨.uploading, none, []⟩ else s
  | .upload id artifact => ((s.revisions id).map (s.upload id artifact)).getD s
  | .finalize id n => ((s.revisions id).map (s.finalize id n)).getD s
  | .check n => ((s.writers n).map (s.check n)).getD s
  | .replace n => ((s.writers n).map (s.replace n)).getD s
  | .fail n => ((s.writers n).map (s.fail n)).getD s
  | .commit id =>
    match s.revisions id, (s.holder id).bind s.writers with
    | some row, some w => s.commit id row w
    | _, _ => s
  | .rollback id => s.unlock id
  | .advance id status =>
    match s.revisions id with
    | some row => if row.status ≠ .uploading ∧ status ≠ .uploading then s.putRevision id { row with status := status } else s
    | none => s
  | .crash => { s with writers := fun _ => none, holder := fun _ => none }

def reached (es : List Event) : State := Runs.run step {} es

/-- no thread that has outlived its request replaces a manifest in place by another -/
def Undisturbed (s : State) : Event → Prop
  | .replace n => ∀ w ∈ s.writers n, s.holder w.packageRevisionId = some n ∨
      s.manifests w.packageRevisionId = some w.manifestBytes ∨ s.inPlace w.packageRevisionId = false
  | _ => True

/-! ## The invariant -/

/-- the file is the manifest of the revision's artifacts, and hashes to its digest -/
def Recorded (s : State) (id : String) (row : PackageRevision) : Prop :=
  s.manifests id = some (manifestOf id row.sourceArtifacts) ∧
    row.contentManifestSha256 = some (Sha.sha256Hex (manifestOf id row.sourceArtifacts))

/-- a request that holds the lock writes the manifest of the artifacts that it has read -/
structure Held (s : State) (id : String) (n : Nat) : Prop where
  writer : ∃ w, s.writers n = some w ∧ w.packageRevisionId = id ∧ (w.phase = .written → s.manifests id = some w.manifestBytes) ∧
    ∃ row, s.revisions id = some row ∧ row.status = .uploading ∧ w.manifestBytes = manifestOf id row.sourceArtifacts

structure Inv (s : State) : Prop where
  held : ∀ id n, s.holder id = some n → Held s id n
  uploading : ∀ id row, s.revisions id = some row → row.status = .uploading → row.contentManifestSha256 = none
  recorded : ∀ id row, s.revisions id = some row → row.contentManifestSha256.isSome → Recorded s id row

theorem inv_init : Inv {} where
  held _ _ h := by cases h
  uploading _ _ h := by cases h
  recorded _ _ h := by cases h

section Steps

variable {s : State}

theorem Inv.free_of_status (h : Inv s) {id : String} {row : PackageRevision} (hrow : s.revisions id = some row)
    (hstatus : row.status ≠ .uploading) : s.holder id = none := by
  cases hn : s.holder id with
  | none => rfl
  | some n =>
    obtain ⟨w, -, -, -, row', hrow', huploading, -⟩ := (h.held id n hn).writer
    rw [hrow] at hrow'
    cases hrow'
    exact absurd huploading hstatus

theorem Inv.free_of_missing (h : Inv s) {id : String} (hrow : s.revisions id = none) : s.holder id = none := by
  cases hn : s.holder id with
  | none => rfl
  | some n =>
    obtain ⟨w, -, -, -, row', hrow', -⟩ := (h.held id n hn).writer
    rw [hrow] at hrow'
    cases hrow'

theorem unlock_holder {id id' : String} {n : Nat} (h : (s.unlock id).holder id' = some n) :
    id' ≠ id ∧ s.holder id' = some n := by
  unfold State.unlock at h
  by_cases heq : id' = id
  · subst heq
    simp at h
  · exact ⟨heq, by simpa [Function.update_of_ne heq] using h⟩

/-- a request that ends leaves the rest as it is -/
theorem Inv.unlock (h : Inv s) (id : String) : Inv (s.unlock id) :=
  ⟨fun _ _ hn => ⟨(h.held _ _ (unlock_holder hn).2).writer⟩, h.uploading, h.recorded⟩

/-- a row is written under its lock -/
theorem Inv.putRevision (h : Inv s) {id : String} (hfree : s.holder id = none) {row : PackageRevision}
    (huploading : row.status = .uploading → row.contentManifestSha256 = none)
    (hrecorded : row.contentManifestSha256.isSome → Recorded s id row) : Inv (s.putRevision id row) where
  held id' n hn := by
    have hne : id' ≠ id := by
      rintro rfl
      exact absurd (hfree.symm.trans hn) (by simp)
    obtain ⟨w, hw, hid, hwritten, row', hrow', hrest⟩ := (h.held id' n hn).writer
    exact ⟨w, hw, hid, hwritten, row', (Function.update_of_ne hne _ _).trans hrow', hrest⟩
  uploading id' row' hrow' := by
    by_cases heq : id' = id
    · subst heq
      cases (Function.update_self _ _ _).symm.trans hrow'
      exact huploading
    · exact h.uploading id' row' ((Function.update_of_ne heq _ _).symm.trans hrow')
  recorded id' row' hrow' := by
    by_cases heq : id' = id
    · subst heq
      cases (Function.update_self _ _ _).symm.trans hrow'
      exact hrecorded
    · exact h.recorded id' row' ((Function.update_of_ne heq _ _).symm.trans hrow')

theorem upload_inv (h : Inv s) {id : String} {row : PackageRevision} (hrow : s.revisions id = some row)
    (artifact : ManifestSourceEntry) : Inv (s.upload id artifact row) := by
  unfold State.upload
  split_ifs with hok
  · have hnone := h.uploading id row hrow hok.1
    exact h.putRevision hok.2 (fun _ => hnone) fun hsome => by simp [hnone] at hsome
  · exact h

theorem finalize_inv (h : Inv s) {id : String} {row : PackageRevision} (hrow : s.revisions id = some row) (n : Nat) :
    Inv (s.finalize id n row) := by
  unfold State.finalize
  split_ifs with hok
  · obtain ⟨-, hnew, hstatus, -⟩ := hok
    refine ⟨fun id' m hm => ?_, h.uploading, h.recorded⟩
    by_cases heq : id' = id
    · subst heq
      cases (Function.update_self _ _ _).symm.trans hm
      exact ⟨_, Function.update_self _ _ _, rfl, (fun hw => by cases hw), row, hrow, hstatus, rfl⟩
    · have hm' : s.holder id' = some m := (Function.update_of_ne heq _ _).symm.trans hm
      obtain ⟨w, hw, hrest⟩ := (h.held id' m hm').writer
      have hne : m ≠ n := by
        rintro rfl
        exact absurd (hnew.symm.trans hw) (by simp)
      exact ⟨w, (Function.update_of_ne hne _ _).trans hw, hrest⟩
  · exact h

theorem fail_inv (h : Inv s) {n : Nat} {w : Writer} (hw : s.writers n = some w) : Inv (s.fail n w) := by
  -- a request that is left holds its lock with another thread
  have hdrop {holder : String → Option Nat}
      (hholder : ∀ id m, holder id = some m → s.holder id = some m ∧ m ≠ n) :
      Inv { s with writers := Function.update s.writers n none, holder := holder } := by
    refine ⟨fun id m hm => ?_, h.uploading, h.recorded⟩
    obtain ⟨hm', hne⟩ := hholder id m hm
    obtain ⟨w', hw', hrest⟩ := (h.held id m hm').writer
    exact ⟨w', (Function.update_of_ne hne _ _).trans hw', hrest⟩
  have howner {id : String} (hm : s.holder id = some n) : id = w.packageRevisionId := by
    obtain ⟨w', hw', hid, -⟩ := (h.held id n hm).writer
    rw [hw] at hw'
    cases hw'
    exact hid.symm
  unfold State.fail
  dsimp only
  split_ifs with hheld
  · refine hdrop fun id m hm => ?_
    obtain ⟨hne, hm'⟩ := unlock_holder (s := { s with writers := Function.update s.writers n none }) hm
    refine ⟨hm', ?_⟩
    rintro rfl
    exact hne (howner hm')
  · refine hdrop fun id m hm => ⟨hm, ?_⟩
    rintro rfl
    obtain rfl := howner hm
    exact hheld hm

/-- a thread goes on; when it is through, the file in place is its manifest -/
theorem Inv.putWriter (h : Inv s) {n : Nat} {w : Writer} (hw : s.writers n = some w) {phase : WriterPhase}
    (hphase : phase = .written → s.manifests w.packageRevisionId = some w.manifestBytes) :
    Inv (s.putWriter n { w with phase := phase }) := by
  refine ⟨fun id m hm => ?_, h.uploading, h.recorded⟩
  obtain ⟨w', hw', hid, hwritten, hrest⟩ := (h.held id m hm).writer
  by_cases heq : m = n
  · subst heq
    rw [hw] at hw'
    cases hw'
    exact ⟨_, Function.update_self _ _ _, hid, fun hp => hid ▸ hphase hp, hrest⟩
  · exact ⟨w', (Function.update_of_ne heq _ _).trans hw', hid, hwritten, hrest⟩

theorem check_inv (h : Inv s) {n : Nat} {w : Writer} (hw : s.writers n = some w) : Inv (s.check n w) := by
  unfold State.check
  by_cases hstarted : w.phase = .started
  · rw [if_pos hstarted]
    split
    · exact h.putWriter hw fun hp => by cases hp
    · rename_i existingBytes hexisting
      split_ifs with hsame
      · exact h.putWriter hw fun _ => hsame ▸ hexisting
      · exact h.putWriter hw fun hp => by cases hp
      · exact fail_inv h hw
  · rw [if_neg hstarted]
    exact h

theorem inPlace_of_recorded {id : String} {row : PackageRevision} (hrow : s.revisions id = some row)
    (h : row.contentManifestSha256.isSome) : s.inPlace id = true := by
  simp [State.inPlace, hrow, h]

theorem inPlace_of_written {id : String} {n : Nat} (hn : s.holder id = some n) {w : Writer} (hw : s.writers n = some w)
    (h : w.phase = .written) : s.inPlace id = true := by
  simp [State.inPlace, hn, hw, h]

theorem replace_inv (h : Inv s) {n : Nat} {w : Writer} (hw : s.writers n = some w)
    (hundisturbed : Undisturbed s (.replace n)) : Inv (s.replace n w) := by
  unfold State.replace
  split_ifs
  · -- a manifest in place stays, but for the one that the request at the lock is about to put there
    have hkept {id : String} {bytes : List Char} (hplace : s.inPlace id = true) (hother : s.holder id ≠ some n)
        (hbytes : s.manifests id = some bytes) :
        Function.update s.manifests w.packageRevisionId (some w.manifestBytes) id = some bytes := by
      by_cases hrev : id = w.packageRevisionId
      · subst hrev
        rw [Function.update_self]
        rcases hundisturbed w hw with hheld | hsame | hnone
        · exact absurd hheld hother
        · exact hsame.symm.trans hbytes
        · rw [hplace] at hnone
          cases hnone
      · rw [Function.update_of_ne hrev]
        exact hbytes
    refine ⟨fun id m hm => ?_, h.uploading, fun id row hrow hsome => ?_⟩
    · obtain ⟨w', hw', hid, hwritten, hrest⟩ := (h.held id m hm).writer
      by_cases heq : m = n
      · subst heq
        rw [hw] at hw'
        cases hw'
        exact ⟨_, Function.update_self _ _ _, hid, (fun _ => hid ▸ Function.update_self _ _ _), hrest⟩
      · refine ⟨w', (Function.update_of_ne heq _ _).trans hw', hid, (fun hp => ?_), hrest⟩
        exact hkept (inPlace_of_written hm hw' hp) (fun hn => heq (Option.some.inj (hm.symm.trans hn))) (hwritten hp)
    · have hrow : s.revisions id = some row := hrow
      have hrecorded := h.recorded id row hrow hsome
      refine ⟨hkept (inPlace_of_recorded hrow hsome) (fun hn => ?_) hrecorded.1, hrecorded.2⟩
      obtain ⟨_, -, -, -, row', hrow', huploading, -⟩ := (h.held id n hn).writer
      rw [hrow] at hrow'
      cases hrow'
      simp [h.uploading id row hrow huploading] at hsome
  · exact h

theorem commit_inv (h : Inv s) {id : String} {n : Nat} (hn : s.holder id = some n) {row : PackageRevision}
    (hrow : s.revisions id = some row) {w : Writer} (hw : s.writers n = some w) : Inv (s.commit id row w) := by
  unfold State.commit
  split_ifs with hwritten
  · obtain ⟨w', hw', -, hplace, row', hrow', -, hbytes⟩ := (h.held id n hn).writer
    rw [hw] at hw'
    cases hw'
    rw [hrow] at hrow'
    cases hrow'
    refine (h.unlock id).putRevision (Function.update_self _ _ _) (fun hs => by cases hs) fun _ => ?_
    exact ⟨(hplace hwritten).trans (congrArg some hbytes), congrArg (fun bytes => some (Sha.sha256Hex bytes)) hbytes⟩
  · exact h

theorem step_inv (h : Inv s) (e : Event) (hundisturbed : Undisturbed s e) : Inv (step s e) := by
  cases e with
  | create id =>
    dsimp only [step]
    split_ifs with hnew
    · exact h.putRevision (h.free_of_missing hnew) (fun _ => rfl) fun hsome => by cases hsome
    · exact h
  | upload id artifact =>
    cases hrow : s.revisions id with
    | none => simpa [step, hrow] using h
    | some row => simpa [step, hrow] using upload_inv h hrow artifact
  | finalize id n =>
    cases hrow : s.revisions id with
    | none => simpa [step, hrow] using h
    | some row => simpa [step, hrow] using finalize_inv h hrow n
  | check n =>
    cases hw : s.writers n with
    | none => simpa [step, hw] using h
    | some w => simpa [step, hw] using check_inv h hw
  | replace n =>
    cases hw : s.writers n with
    | none => simpa [step, hw] using h
    | some w => simpa [step, hw] using replace_inv h hw hundisturbed
  | fail n =>
    cases hw : s.writers n with
    | none => simpa [step, hw] using h
    | some w => simpa [step, hw] using fail_inv h hw
  | commit id =>
    dsimp only [step]
    split
    · rename_i row w hrow hw
      obtain ⟨n, hn, hw⟩ := Option.bind_eq_some_iff.1 hw
      exact commit_inv h hn hrow hw
    · exact h
  | rollback id => exact h.unlock id
  | advance id status =>
    dsimp only [step]
    split
    · rename_i row hrow
      split_ifs with hok
      · exact h.putRevision (h.free_of_status hrow hok.1) (fun hs => absurd hs hok.2) (h.recorded id row hrow)
      · exact h
    · exact h
  | crash => exact ⟨(fun _ _ hn => by cases hn), h.uploading, h.recorded⟩

end Steps

/-! ## The manifest in place -/

/-- **The manifest on disk is the revision's**: in every run in which no thread that has outlived its request replaces a
manifest in place by another, the file of a revision that was finalized hashes to the digest of the revision and reads as the
document that lists its source artifacts. -/
theorem manifest_in_place (es : List Event) (h : Runs.Along step Undisturbed {} es) (id : String) (row : PackageRevision)
    (hrow : (reached es).revisions id = some row) (hsha : row.contentManifestSha256.isSome) :
    ∃ bytes, (reached es).manifests id = some bytes ∧ row.contentManifestSha256 = some (Sha.sha256Hex bytes) ∧
      JsonText.loads bytes = some (buildManifestDocument id row.sourceArtifacts).canon := by
  have hinv := Runs.run_inv_along (P := Inv) (fun _ e hs hG => step_inv hs e hG) inv_init h
  obtain ⟨hfile, hdigest⟩ := hinv.recorded id row hrow hsha
  exact ⟨_, hfile, hdigest, loads_manifestOf id row.sourceArtifacts⟩

section Leftover

private def first : ManifestSourceEntry := ⟨"a", "aa/aa", "aa", 1⟩

private def second : ManifestSourceEntry := ⟨"b", "bb/bb", "bb", 1⟩

private def finalized : List Event :=
  [.create "r", .upload "r" first, .finalize "r" 0, .check 0, .replace 0, .commit "r"]

/-- the first request is cancelled while its thread runs, and the thread goes on after the second has committed -/
private def outlived : List Event :=
  [.create "r", .upload "r" first, .finalize "r" 0, .check 0, .rollback "r", .upload "r" second, .finalize "r" 1, .check 1,
    .replace 1, .commit "r", .replace 0]

theorem manifest_in_place_finalized : ∃ row, (reached finalized).revisions "r" = some row ∧ row.sourceArtifacts = [first] ∧
    ∃ bytes, (reached finalized).manifests "r" = some bytes ∧ row.contentManifestSha256 = some (Sha.sha256Hex bytes) ∧
      JsonText.loads bytes = some (buildManifestDocument "r" row.sourceArtifacts).canon := by
  refine ⟨_, rfl, rfl, manifest_in_place finalized ?_ "r" _ rfl rfl⟩
  refine ⟨trivial, trivial, trivial, trivial, fun w hw => ?_, trivial, trivial⟩
  cases hw
  exact Or.inl rfl

/-- A thread that outlived its request puts a manifest in place that lists one of two artifacts. -/
theorem manifest_replaced_by_leftover : ∃ row bytes, (reached outlived).revisions "r" = some row ∧
    row.contentManifestSha256.isSome ∧ (reached outlived).manifests "r" = some bytes ∧
      JsonText.loads bytes ≠ some (buildManifestDocument "r" row.sourceArtifacts).canon := by
  refine ⟨_, manifestOf "r" [first], rfl, rfl, rfl, fun h => ?_⟩
  rw [loads_manifestOf] at h
  cases h

end Leftover

end AtoService.Storage
