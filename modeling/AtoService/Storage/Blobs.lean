/-
The content-addressed blob store: sources are staged under `_tmp` and moved into place under the name of their digest.

Calls of `store_stream` interleave with each other, in threads and processes that share the storage, and with the
cleanup of stale staging files; a process that crashes leaves its staging files behind. A call writes its source chunk by
chunk, looks at the file in place in a step of its own, and moves its staging file there in one step (`os.replace`). Any
step may fail with an error of the system, after which the call removes its staging file, or fails at that too. Nothing
else writes below `blobs`. The records `sources` (what was staged completely) and `returned` are for the statements.

- `step_inv`: a file in place has the digest that it is named by, and was staged completely.
- `blobs_content_addressed`: so in every run that draws no staging name twice; what a call has returned stays there.
- `stored_blobs_read_back`: where the digest tells the sources of the run apart, a stored blob reads back as its source.
-/
import AtoService.Lib.Results
import AtoService.Lib.Runs
import AtoService.Lib.ShaEval

namespace AtoService.Storage.Blobs

/-! ## Names and keys -/

@[irreducible]
def hexdigest (bytes : List Nat) : String := Sha.hex (Sha.sha256 bytes)

/-- `digest[:2]` -/
def digestPrefix (digest : String) : String := String.ofList (digest.toList.take 2)

def storageKey (digest : String) : String := digestPrefix digest ++ "/" ++ digest

/-- `storage_key.split("/", 1)`, of a key with a slash -/
def splitKey (key : String) : String × String :=
  (String.ofList (key.toList.takeWhile (· ≠ '/')), String.ofList ((key.toList.dropWhile (· ≠ '/')).drop 1))

def isLowerHex (c : Char) : Bool := c ∈ "0123456789abcdef".toList

/-- `[a-f0-9]{2}/[a-f0-9]{64}` -/
def isStorageKey (key : String) : Bool :=
  match key.toList with
  | a :: b :: '/' :: rest => isLowerHex a && isLowerHex b && (rest.length = 64 && rest.all isLowerHex)
  | _ => false

def stagingTokenChars : Nat := 32

/-- `_RECOGNIZED_STAGING_PATTERN` -/
def isRecognizedStagingFilename (name : String) : Bool :=
  ["blob-staging-", "manifest-staging-"].any fun stem =>
    stem.toList.isPrefixOf name.toList &&
      ((name.toList.drop stem.length).length = stagingTokenChars && (name.toList.drop stem.length).all isLowerHex)

/-! ## The store -/

structure StoredBlob where
  storageKey : String
  sha256 : String
  sizeBytes : Nat
deriving DecidableEq, Repr

structure StagedFile where
  bytes : List Nat
  modified : Nat
deriving DecidableEq, Repr

inductive StoreError where
  | blobTooLarge
  | emptyBlob
  | digestMismatch
  /-- an error of the system, or of the source -/
  | os
deriving DecidableEq, Repr

inductive Phase where
  | writing
  /-- the source is staged and its digest computed -/
  | staged
  /-- no file is in place -/
  | missing
  /-- the file in place has the digest -/
  | present
  /-- it is done but for its staging file -/
  | ending (outcome : Except StoreError StoredBlob)
deriving DecidableEq, Repr

/-- a call of `store_stream` -/
structure Call where
  stagingName : String
  maxBytes : Nat
  written : List Nat
  phase : Phase
deriving DecidableEq, Repr

structure State where
  /-- by prefix and digest -/
  blobs : String → String → Option (List Nat) := fun _ _ => none
  staging : String → Option StagedFile := fun _ => none
  calls : Nat → Option Call := fun _ => none
  /-- the names of staging files that were drawn -/
  drawn : List String := []
  sources : List (List Nat) := []
  returned : List (List Nat × StoredBlob) := []

namespace State

def putCall (s : State) (n : Nat) (c : Call) : State := { s with calls := Function.update s.calls n (some c) }

def endCall (s : State) (n : Nat) : State := { s with calls := Function.update s.calls n none }

def putStaging (s : State) (name : String) (file : Option StagedFile) : State :=
  { s with staging := Function.update s.staging name file }

def putBlob (s : State) (pre digest : String) (bytes : List Nat) : State :=
  { s with blobs := Function.update s.blobs pre (Function.update (s.blobs pre) digest (some bytes)) }

/-- the call has an outcome, and goes on to its `finally` clause -/
def finish (s : State) (n : Nat) (c : Call) (outcome : Except StoreError StoredBlob) : State :=
  s.putCall n { c with phase := .ending outcome }

def start (s : State) (n : Nat) (stagingName : String) (maxBytes now : Nat) : State :=
  if s.calls n = none ∧ 1 ≤ maxBytes then
    let s := { s with drawn := stagingName :: s.drawn }
    -- the staging file is created exclusively
    if s.staging stagingName = none then
      (s.putStaging stagingName (some ⟨[], now⟩)).putCall n ⟨stagingName, maxBytes, [], .writing⟩
    else s.finish n ⟨stagingName, maxBytes, [], .writing⟩ (.error .os)
  else s

def chunk (s : State) (n : Nat) (c : Call) (bytes : List Nat) (now : Nat) : State :=
  if c.phase = .writing then
    if c.maxBytes < (c.written ++ bytes).length then s.finish n c (.error .blobTooLarge)
    else
      -- the file is written even when its name is gone
      (s.putStaging c.stagingName ((s.staging c.stagingName).map fun _ => ⟨c.written ++ bytes, now⟩)).putCall n
        { c with written := c.written ++ bytes }
  else s

/-- the source has come to its end -/
def close (s : State) (n : Nat) (c : Call) : State :=
  if c.phase = .writing then
    if c.written = [] then s.finish n c (.error .emptyBlob)
    else { s.putCall n { c with phase := .staged } with sources := c.written :: s.sources }
  else s

def look (s : State) (n : Nat) (c : Call) : State :=
  if c.phase = .staged then
    match s.blobs (digestPrefix (hexdigest c.written)) (hexdigest c.written) with
    | none => s.putCall n { c with phase := .missing }
    | some bytes =>
      if hexdigest bytes = hexdigest c.written then s.putCall n { c with phase := .present }
      else s.finish n c (.error .digestMismatch)
  else s

def result (c : Call) (sizeBytes : Nat) : StoredBlob :=
  ⟨storageKey (hexdigest c.written), hexdigest c.written, sizeBytes⟩

/-- the size of the file in place -/
def stat (s : State) (n : Nat) (c : Call) : State :=
  if c.phase = .present then
    match s.blobs (digestPrefix (hexdigest c.written)) (hexdigest c.written) with
    | none => s.finish n c (.error .os)
    | some bytes => s.finish n c (.ok (result c bytes.length))
  else s

/-- `os.replace`, and the `fsync` of the directory -/
def replace (s : State) (n : Nat) (c : Call) (synced : Bool) : State :=
  if c.phase = .missing then
    match s.staging c.stagingName with
    | none => s.finish n c (.error .os)
    | some file =>
      let digest := hexdigest c.written
      let s := (s.putStaging c.stagingName none).putBlob (digestPrefix digest) digest file.bytes
      -- the call keeps no staging file
      if synced then
        { s.endCall n with returned := (c.written, result c c.written.length) :: s.returned }
      else s.endCall n
  else s

/-- `_cleanup_staging_path`, which may fail -/
def cleanup (s : State) (n : Nat) (c : Call) (removed : Bool) : State :=
  match c.phase with
  | .ending outcome =>
    if removed then
      match outcome with
      | .ok blob =>
        { (s.putStaging c.stagingName none).endCall n with returned := (c.written, blob) :: s.returned }
      | .error _ => (s.putStaging c.stagingName none).endCall n
    else s.endCall n
  | _ => s

/-- a step of the call fails -/
def fail (s : State) (n : Nat) (c : Call) : State :=
  match c.phase with
  | .ending _ => s
  | _ => s.finish n c (.error .os)

/-- one file of `cleanup_stale_staging_files` -/
def sweep (s : State) (name : String) (cutoff : Nat) : State :=
  match s.staging name with
  | none => s
  | some file => if isRecognizedStagingFilename name ∧ file.modified < cutoff then s.putStaging name none else s

end State

inductive Event where
  | start (call : Nat) (stagingName : String) (maxBytes now : Nat)
  | chunk (call : Nat) (bytes : List Nat) (now : Nat)
  | close (call : Nat)
  | look (call : Nat)
  | stat (call : Nat)
  | replace (call : Nat) (synced : Bool)
  | cleanup (call : Nat) (removed : Bool)
  | fail (call : Nat)
  | sweep (name : String) (cutoff : Nat)
  /-- the process of the call crashes -/
  | crash (call : Nat)
deriving DecidableEq, Repr

def step (s : State) : Event → State
  | .start n stagingName maxBytes now => s.start n stagingName maxBytes now
  | .chunk n bytes now => ((s.calls n).map fun c => s.chunk n c bytes now).getD s
  | .close n => ((s.calls n).map (s.close n)).getD s
  | .look n => ((s.calls n).map (s.look n)).getD s
  | .stat n => ((s.calls n).map (s.stat n)).getD s
  | .replace n synced => ((s.calls n).map fun c => s.replace n c synced).getD s
  | .cleanup n removed => ((s.calls n).map fun c => s.cleanup n c removed).getD s
  | .fail n => ((s.calls n).map (s.fail n)).getD s
  | .sweep name cutoff => s.sweep name cutoff
  | .crash n => s.endCall n

/-- no name of a staging file is drawn twice -/
def freshName (s : State) : Event → Bool
  | .start _ stagingName _ _ => stagingName ∉ s.drawn
  | _ => true

/-! ## Reading -/

inductive ReadError where
  | sourceTypeMismatch (message : String)
  | sourceArtifactStorage (message : String)
deriving DecidableEq, Repr

open Results (ensure orRaise) in
/-- `_read_stored_blob_bytes` -/
def readStoredBlobBytes (s : State) (blob : StoredBlob) : Except ReadError (List Nat) := do
  ensure (1 ≤ blob.sizeBytes) (.sourceTypeMismatch "stored blob size is invalid")
  ensure (isStorageKey blob.storageKey) (.sourceTypeMismatch "stored blob key is invalid")
  let (pre, digest) := splitKey blob.storageKey
  ensure (digest = blob.sha256 ∧ pre = digestPrefix blob.sha256)
    (.sourceTypeMismatch "stored blob key does not match digest")
  let bytes ← orRaise (s.blobs pre digest) (.sourceArtifactStorage "stored blob is not available")
  ensure (bytes.length = blob.sizeBytes) (.sourceTypeMismatch "stored blob size does not match declared size")
  ensure (hexdigest bytes = blob.sha256) (.sourceTypeMismatch "stored blob digest does not match declared sha256")
  return bytes

/-! ## The invariant -/

/-- a source that was staged completely is in place under its digest -/
def InPlace (blobs : String → String → Option (List Nat)) (source : List Nat) : Prop :=
  ∃ bytes, blobs (digestPrefix (hexdigest source)) (hexdigest source) = some bytes

/-- what a call has returned for its source -/
structure Stored (blobs : String → String → Option (List Nat)) (sources : List (List Nat)) (source : List Nat)
    (blob : StoredBlob) : Prop where
  staged : source ∈ sources
  sha256 : blob.sha256 = hexdigest source
  key : blob.storageKey = storageKey (hexdigest source)
  inPlace : InPlace blobs source
  size : ∃ bytes ∈ sources, hexdigest bytes = hexdigest source ∧ blob.sizeBytes = bytes.length

def PhaseOk (blobs : String → String → Option (List Nat)) (sources : List (List Nat)) (written : List Nat) :
    Phase → Prop
  | .writing => True
  | .staged => written ∈ sources
  | .missing => written ∈ sources
  | .present => written ∈ sources ∧ InPlace blobs written
  | .ending (.ok blob) => Stored blobs sources written blob
  | .ending (.error _) => True

structure Inv (s : State) : Prop where
  /-- a file in place has the digest that it is named by, and was staged completely -/
  placed : ∀ pre digest bytes, s.blobs pre digest = some bytes →
    pre = digestPrefix digest ∧ hexdigest bytes = digest ∧ bytes ∈ s.sources
  nonempty : ∀ bytes ∈ s.sources, bytes ≠ []
  named : ∀ n c, s.calls n = some c → c.stagingName ∈ s.drawn
  distinct : ∀ n n' c c', s.calls n = some c → s.calls n' = some c' → c.stagingName = c'.stagingName → n = n'
  drawn : ∀ name file, s.staging name = some file → name ∈ s.drawn
  staged : ∀ n c file, s.calls n = some c → s.staging c.stagingName = some file → file.bytes = c.written
  phases : ∀ n c, s.calls n = some c → PhaseOk s.blobs s.sources c.written c.phase
  returned : ∀ p ∈ s.returned, Stored s.blobs s.sources p.1 p.2

theorem inv_init : Inv {} where
  placed _ _ _ h := by cases h
  nonempty _ h := by cases h
  named _ _ h := by cases h
  distinct _ _ _ _ h := by cases h
  drawn _ _ h := by cases h
  staged _ _ _ h := by cases h
  phases _ _ h := by cases h
  returned _ h := by cases h

section Steps

variable {s : State} {n : Nat} {c : Call} {blobs blobs' : String → String → Option (List Nat)}
  {sources sources' : List (List Nat)}

/-- files in place stay in place, and sources are not forgotten -/
structure Grows (blobs blobs' : String → String → Option (List Nat)) (sources sources' : List (List Nat)) : Prop where
  sources : sources ⊆ sources'
  inPlace : ∀ source, InPlace blobs source → InPlace blobs' source

theorem Stored.mono (hgrows : Grows blobs blobs' sources sources') {source : List Nat} {blob : StoredBlob}
    (h : Stored blobs sources source blob) : Stored blobs' sources' source blob where
  staged := hgrows.sources h.staged
  sha256 := h.sha256
  key := h.key
  inPlace := hgrows.inPlace source h.inPlace
  size := by
    obtain ⟨bytes, hbytes, h⟩ := h.size
    exact ⟨bytes, hgrows.sources hbytes, h⟩

theorem PhaseOk.mono (hgrows : Grows blobs blobs' sources sources') {written : List Nat} {phase : Phase}
    (h : PhaseOk blobs sources written phase) : PhaseOk blobs' sources' written phase := by
  cases phase with
  | writing => trivial
  | staged => exact hgrows.sources h
  | missing => exact hgrows.sources h
  | present => exact ⟨hgrows.sources h.1, hgrows.inPlace _ h.2⟩
  | ending outcome =>
    cases outcome with
    | error e => trivial
    | ok blob => exact Stored.mono hgrows h

/-- the call goes on -/
theorem Inv.putCall (h : Inv s) (hc : s.calls n = some c) (phase : Phase)
    (hphase : PhaseOk s.blobs s.sources c.written phase) : Inv (s.putCall n { c with phase := phase }) := by
  have hcall {m : Nat} {c' : Call} (hm : (s.putCall n { c with phase := phase }).calls m = some c') :
      ∃ c₀, s.calls m = some c₀ ∧ c₀.stagingName = c'.stagingName ∧ c₀.written = c'.written ∧
        PhaseOk s.blobs s.sources c'.written c'.phase := by
    by_cases heq : m = n
    · subst heq
      cases (Function.update_self _ _ _).symm.trans hm
      exact ⟨c, hc, rfl, rfl, hphase⟩
    · have hm' : s.calls m = some c' := (Function.update_of_ne heq _ _).symm.trans hm
      exact ⟨c', hm', rfl, rfl, h.phases m c' hm'⟩
  refine { h with named := ?_, distinct := ?_, staged := ?_, phases := ?_ }
  · intro m c' hm
    obtain ⟨c₀, hm₀, hname, -⟩ := hcall hm
    exact hname ▸ h.named m c₀ hm₀
  · intro m m' c₁ c₂ hm hm' hname
    obtain ⟨c₁', hm₁, hname₁, -⟩ := hcall hm
    obtain ⟨c₂', hm₂, hname₂, -⟩ := hcall hm'
    exact h.distinct m m' c₁' c₂' hm₁ hm₂ (hname₁.trans (hname.trans hname₂.symm))
  · intro m c' file hm hfile
    obtain ⟨c₀, hm₀, hname, hwritten, -⟩ := hcall hm
    rw [← hname] at hfile
    exact (h.staged m c₀ file hm₀ hfile).trans hwritten
  · intro m c' hm
    obtain ⟨_, -, -, -, hok⟩ := hcall hm
    exact hok

theorem calls_of_endCall {m : Nat} (h : (s.endCall n).calls m = some c) : m ≠ n ∧ s.calls m = some c := by
  by_cases heq : m = n
  · subst heq
    cases (Function.update_self _ _ _).symm.trans h
  · exact ⟨heq, (Function.update_of_ne heq _ _).symm.trans h⟩

theorem Inv.endCall (h : Inv s) (n : Nat) : Inv (s.endCall n) :=
  { h with
    named := fun m c hm => h.named m c (calls_of_endCall hm).2
    distinct := fun m m' c c' hm hm' => h.distinct m m' c c' (calls_of_endCall hm).2 (calls_of_endCall hm').2
    staged := fun m c file hm => h.staged m c file (calls_of_endCall hm).2
    phases := fun m c hm => h.phases m c (calls_of_endCall hm).2 }

/-- a staging file is removed -/
theorem Inv.unstage (h : Inv s) (name : String) : Inv (s.putStaging name none) := by
  have hstaging {name' : String} {file : StagedFile} (hfile : (s.putStaging name none).staging name' = some file) :
      s.staging name' = some file := by
    by_cases heq : name' = name
    · subst heq
      cases (Function.update_self _ _ _).symm.trans hfile
    · exact (Function.update_of_ne heq _ _).symm.trans hfile
  exact { h with
    drawn := fun name' file hfile => h.drawn name' file (hstaging hfile)
    staged := fun m c file hm hfile => h.staged m c file hm (hstaging hfile) }

theorem Inv.addReturned (h : Inv s) {source : List Nat} {blob : StoredBlob}
    (hstored : Stored s.blobs s.sources source blob) : Inv { s with returned := (source, blob) :: s.returned } :=
  { h with
    returned := by
      intro p hp
      rcases List.mem_cons.1 hp with rfl | hp
      · exact hstored
      · exact h.returned p hp }

theorem Inv.addSource (h : Inv s) {bytes : List Nat} (hbytes : bytes ≠ []) :
    Inv { s with sources := bytes :: s.sources } := by
  have hgrows : Grows s.blobs s.blobs s.sources (bytes :: s.sources) :=
    ⟨fun _ hb => List.mem_cons_of_mem _ hb, fun _ hp => hp⟩
  refine { h with placed := ?_, nonempty := ?_, phases := ?_, returned := ?_ }
  · intro pre digest b hb
    obtain ⟨hpre, hdigest, hmem⟩ := h.placed pre digest b hb
    exact ⟨hpre, hdigest, hgrows.sources hmem⟩
  · intro b hb
    rcases List.mem_cons.1 hb with rfl | hb
    · exact hbytes
    · exact h.nonempty b hb
  · exact fun m c hm => (h.phases m c hm).mono hgrows
  · exact fun p hp => (h.returned p hp).mono hgrows

theorem blobs_putBlob (s : State) (pre digest pre' digest' : String) (bytes : List Nat) :
    (s.putBlob pre digest bytes).blobs pre' digest' =
      if pre' = pre ∧ digest' = digest then some bytes else s.blobs pre' digest' := by
  rw [State.putBlob]
  by_cases hpre : pre' = pre
  · subst hpre
    by_cases hdigest : digest' = digest
    · simp [hdigest]
    · simp [hdigest]
  · simp [hpre]

theorem inPlace_putBlob {source bytes : List Nat} :
    InPlace (s.putBlob (digestPrefix (hexdigest source)) (hexdigest source) bytes).blobs source :=
  ⟨bytes, by rw [blobs_putBlob, if_pos ⟨rfl, rfl⟩]⟩

theorem stored_putBlob (h : c.written ∈ s.sources) :
    Stored (s.putBlob (digestPrefix (hexdigest c.written)) (hexdigest c.written) c.written).blobs
      (s.putBlob (digestPrefix (hexdigest c.written)) (hexdigest c.written) c.written).sources c.written
      (State.result c c.written.length) where
  staged := h
  sha256 := rfl
  key := rfl
  inPlace := inPlace_putBlob
  size := ⟨c.written, h, rfl, rfl⟩

/-- a file that was staged completely is moved to the name of its digest -/
theorem Inv.putBlob (h : Inv s) {bytes : List Nat} (hbytes : bytes ∈ s.sources) :
    Inv (s.putBlob (digestPrefix (hexdigest bytes)) (hexdigest bytes) bytes) := by
  have hgrows : Grows s.blobs (s.putBlob (digestPrefix (hexdigest bytes)) (hexdigest bytes) bytes).blobs s.sources
      s.sources := by
    refine ⟨fun _ hb => hb, fun source hp => ?_⟩
    obtain ⟨b, hb⟩ := hp
    rw [InPlace, blobs_putBlob]
    split_ifs
    · exact ⟨bytes, rfl⟩
    · exact ⟨b, hb⟩
  refine { h with placed := ?_, phases := ?_, returned := ?_ }
  · intro pre digest b hb
    rw [blobs_putBlob] at hb
    split_ifs at hb with hname
    · cases hb
      obtain ⟨rfl, rfl⟩ := hname
      exact ⟨rfl, rfl, hbytes⟩
    · exact h.placed pre digest b hb
  · exact fun m c hm => (h.phases m c hm).mono hgrows
  · exact fun p hp => (h.returned p hp).mono hgrows

/-! ## What a step preserves -/

theorem Inv.finish (h : Inv s) (hc : s.calls n = some c) (e : StoreError) : Inv (s.finish n c (.error e)) :=
  h.putCall hc _ trivial

theorem start_inv (h : Inv s) {stagingName : String} (maxBytes now : Nat) (hfresh : stagingName ∉ s.drawn) :
    Inv (s.start n stagingName maxBytes now) := by
  have hnone : s.staging stagingName = none := by
    cases hfile : s.staging stagingName with
    | none => rfl
    | some file => exact absurd (h.drawn stagingName file hfile) hfresh
  rw [State.start]
  split_ifs with hok
  · simp only [hnone, if_true]
    have hcall {m : Nat} {c : Call}
        (hm : Function.update s.calls n (some ⟨stagingName, maxBytes, [], .writing⟩) m = some c) :
        (m = n ∧ c = ⟨stagingName, maxBytes, [], .writing⟩) ∨ s.calls m = some c := by
      by_cases heq : m = n
      · subst heq
        cases (Function.update_self _ _ _).symm.trans hm
        exact Or.inl ⟨rfl, rfl⟩
      · exact Or.inr ((Function.update_of_ne heq _ _).symm.trans hm)
    refine ⟨h.placed, h.nonempty, ?_, ?_, ?_, ?_, ?_, h.returned⟩
    · intro m c hm
      rcases hcall hm with ⟨-, rfl⟩ | hm
      · exact List.mem_cons_self
      · exact List.mem_cons_of_mem _ (h.named m c hm)
    · intro m m' c c' hm hm' hname
      rcases hcall hm with ⟨rfl, rfl⟩ | hm₁ <;> rcases hcall hm' with ⟨rfl, rfl⟩ | hm₂
      · rfl
      · have hname : stagingName = c'.stagingName := hname
        exact absurd (hname ▸ h.named m' c' hm₂) hfresh
      · have hname : c.stagingName = stagingName := hname
        exact absurd (hname ▸ h.named m c hm₁) hfresh
      · exact h.distinct m m' c c' hm₁ hm₂ hname
    · intro name file hfile
      by_cases heq : name = stagingName
      · rw [heq]
        exact List.mem_cons_self
      · exact List.mem_cons_of_mem _ (h.drawn name file ((Function.update_of_ne heq _ _).symm.trans hfile))
    · intro m c file hm hfile
      rcases hcall hm with ⟨-, rfl⟩ | hm
      · cases (Function.update_self _ _ _).symm.trans hfile
        rfl
      · have hne : c.stagingName ≠ stagingName := fun heq => hfresh (heq ▸ h.named m c hm)
        exact h.staged m c file hm ((Function.update_of_ne hne _ _).symm.trans hfile)
    · intro m c hm
      rcases hcall hm with ⟨-, rfl⟩ | hm
      · trivial
      · exact h.phases m c hm
  · exact h

theorem chunk_inv (h : Inv s) (hc : s.calls n = some c) (bytes : List Nat) (now : Nat) :
    Inv (s.chunk n c bytes now) := by
  rw [State.chunk]
  split_ifs with hphase
  · exact h.finish hc _
  · have hcall {m : Nat} {c' : Call}
        (hm : Function.update s.calls n (some { c with written := c.written ++ bytes }) m = some c') :
        (m = n ∧ c' = { c with written := c.written ++ bytes }) ∨ (m ≠ n ∧ s.calls m = some c') := by
      by_cases heq : m = n
      · subst heq
        cases (Function.update_self _ _ _).symm.trans hm
        exact Or.inl ⟨rfl, rfl⟩
      · exact Or.inr ⟨heq, (Function.update_of_ne heq _ _).symm.trans hm⟩
    have hstaging {name : String} (file : StagedFile)
        (hfile : Function.update s.staging c.stagingName
          ((s.staging c.stagingName).map fun _ => ⟨c.written ++ bytes, now⟩) name = some file) :
        (name = c.stagingName ∧ file.bytes = c.written ++ bytes ∧ s.staging name ≠ none) ∨
          (name ≠ c.stagingName ∧ s.staging name = some file) := by
      by_cases heq : name = c.stagingName
      · subst heq
        rw [Function.update_self, Option.map_eq_some_iff] at hfile
        obtain ⟨file', hfile', rfl⟩ := hfile
        exact Or.inl ⟨rfl, rfl, by simp [hfile']⟩
      · exact Or.inr ⟨heq, (Function.update_of_ne heq _ _).symm.trans hfile⟩
    refine { h with named := ?_, distinct := ?_, drawn := ?_, staged := ?_, phases := ?_ }
    · intro m c' hm
      rcases hcall hm with ⟨-, rfl⟩ | ⟨-, hm⟩
      · exact h.named n c hc
      · exact h.named m c' hm
    · intro m m' c₁ c₂ hm hm' hname
      rcases hcall hm with ⟨rfl, rfl⟩ | ⟨-, hm₁⟩ <;> rcases hcall hm' with ⟨rfl, rfl⟩ | ⟨-, hm₂⟩
      · rfl
      · exact h.distinct _ _ _ _ hc hm₂ hname
      · exact h.distinct _ _ _ _ hm₁ hc hname
      · exact h.distinct _ _ _ _ hm₁ hm₂ hname
    · intro name file hfile
      rcases hstaging file hfile with ⟨rfl, -⟩ | ⟨-, hfile⟩
      · exact h.named n c hc
      · exact h.drawn name file hfile
    · intro m c' file hm hfile
      rcases hcall hm with ⟨-, rfl⟩ | ⟨hne, hm⟩
      · rcases hstaging file hfile with ⟨-, hbytes, -⟩ | ⟨hne, -⟩
        · exact hbytes
        · exact absurd rfl hne
      · rcases hstaging file hfile with ⟨hname, -⟩ | ⟨-, hfile⟩
        · exact absurd (h.distinct m n c' c hm hc hname) hne
        · exact h.staged m c' file hm hfile
    · intro m c' hm
      rcases hcall hm with ⟨-, rfl⟩ | ⟨-, hm⟩
      · rw [hphase]
        trivial
      · exact h.phases m c' hm
  · exact h

theorem close_inv (h : Inv s) (hc : s.calls n = some c) : Inv (s.close n c) := by
  rw [State.close]
  split_ifs with _ hempty
  · exact h.finish hc _
  · exact (h.addSource hempty).putCall hc .staged List.mem_cons_self
  · exact h

theorem look_inv (h : Inv s) (hc : s.calls n = some c) : Inv (s.look n c) := by
  rw [State.look]
  split_ifs with hphase
  · have hok := h.phases n c hc
    rw [hphase] at hok
    split
    · exact h.putCall hc .missing hok
    · rename_i bytes hbytes
      split_ifs
      · exact h.putCall hc .present ⟨hok, bytes, hbytes⟩
      · exact h.finish hc _
  · exact h

theorem stat_inv (h : Inv s) (hc : s.calls n = some c) : Inv (s.stat n c) := by
  rw [State.stat]
  split_ifs with hphase
  · have hok := h.phases n c hc
    rw [hphase] at hok
    split
    · exact h.finish hc _
    · rename_i bytes hbytes
      obtain ⟨-, hdigest, hmem⟩ := h.placed _ _ bytes hbytes
      exact h.putCall hc (.ending (.ok _)) ⟨hok.1, rfl, rfl, hok.2, bytes, hmem, hdigest, rfl⟩
  · exact h

theorem replace_inv (h : Inv s) (hc : s.calls n = some c) (synced : Bool) : Inv (s.replace n c synced) := by
  rw [State.replace]
  by_cases hphase : c.phase = .missing
  · rw [if_pos hphase]
    have hok : c.written ∈ s.sources := by
      have hok := h.phases n c hc
      rwa [hphase] at hok
    split
    · exact h.finish hc _
    · rename_i file hfile
      rw [h.staged n c file hc hfile]
      have hunstaged := h.unstage c.stagingName
      have hsources : c.written ∈ (s.putStaging c.stagingName none).sources := hok
      have hmoved := hunstaged.putBlob hsources
      have hstored := stored_putBlob hsources
      dsimp only
      generalize (s.putStaging c.stagingName none).putBlob _ _ _ = s' at hmoved hstored ⊢
      split_ifs
      · exact (hmoved.endCall n).addReturned hstored
      · exact hmoved.endCall n
  · rw [if_neg hphase]
    exact h

theorem cleanup_inv (h : Inv s) (hc : s.calls n = some c) (removed : Bool) : Inv (s.cleanup n c removed) := by
  have hok := h.phases n c hc
  rw [State.cleanup]
  split
  · rename_i outcome hphase
    rw [hphase] at hok
    split_ifs
    · cases outcome with
      | ok blob => exact ((h.unstage c.stagingName).endCall n).addReturned hok
      | error e => exact (h.unstage c.stagingName).endCall n
    · exact h.endCall n
  · exact h

theorem fail_inv (h : Inv s) (hc : s.calls n = some c) : Inv (s.fail n c) := by
  rw [State.fail]
  split
  · exact h
  · exact h.finish hc _

theorem sweep_inv (h : Inv s) (name : String) (cutoff : Nat) : Inv (s.sweep name cutoff) := by
  rw [State.sweep]
  split
  · exact h
  · split_ifs
    · exact h.unstage name
    · exact h

/-- an operation on a call that there is -/
theorem inv_onCall (h : Inv s) {f : Call → State} (hf : ∀ c, s.calls n = some c → Inv (f c)) :
    Inv (((s.calls n).map f).getD s) := by
  cases hc : s.calls n with
  | none => exact h
  | some c => exact hf c hc

theorem step_inv (h : Inv s) (e : Event) (hfresh : freshName s e = true) : Inv (step s e) := by
  cases e with
  | start n stagingName maxBytes now => exact start_inv h maxBytes now (of_decide_eq_true hfresh)
  | chunk n bytes now => exact inv_onCall h fun c hc => chunk_inv h hc bytes now
  | close n => exact inv_onCall h fun c hc => close_inv h hc
  | look n => exact inv_onCall h fun c hc => look_inv h hc
  | stat n => exact inv_onCall h fun c hc => stat_inv h hc
  | replace n synced => exact inv_onCall h fun c hc => replace_inv h hc synced
  | cleanup n removed => exact inv_onCall h fun c hc => cleanup_inv h hc removed
  | fail n => exact inv_onCall h fun c hc => fail_inv h hc
  | sweep name cutoff => exact sweep_inv h name cutoff
  | crash n => exact h.endCall n

end Steps

def reached (es : List Event) : State := Runs.run step {} es

/-- no name of a staging file is drawn twice in the run -/
def Fresh (es : List Event) : Prop := Runs.Along step (fun s e => freshName s e = true) {} es

instance (es : List Event) : Decidable (Fresh es) := by
  unfold Fresh
  infer_instance

theorem inv_reached {es : List Event} (h : Fresh es) : Inv (reached es) :=
  Runs.run_inv_along (P := Inv) (fun _ e hs hfresh => step_inv hs e hfresh) inv_init h

/-! ## Keys -/

theorem hexdigest_length (bytes : List Nat) : (hexdigest bytes).toList.length = 64 := by
  rw [hexdigest, String.length_toList, Sha.hex_length, Sha.sha256_length]

theorem hexdigest_digits (bytes : List Nat) : ∀ c ∈ (hexdigest bytes).toList, isLowerHex c = true := by
  intro c hc
  rw [hexdigest] at hc
  exact decide_eq_true (Sha.hex_digits (fun _ hb => Sha.sha256_lt hb) c hc)

theorem ne_slash_of_isLowerHex {c : Char} (h : isLowerHex c = true) : c ≠ '/' := by
  rintro rfl
  exact absurd h (by decide)

theorem storageKey_toList (digest : String) :
    (storageKey digest).toList = digest.toList.take 2 ++ '/' :: digest.toList := by
  simp [storageKey, digestPrefix]

theorem exists_hexdigest (bytes : List Nat) :
    ∃ a b rest, (hexdigest bytes).toList = a :: b :: rest ∧ isLowerHex a = true ∧ isLowerHex b = true := by
  have hlength := hexdigest_length bytes
  have hdigits := hexdigest_digits bytes
  match hlist : (hexdigest bytes).toList with
  | [] => simp [hlist] at hlength
  | [a] => simp [hlist] at hlength
  | a :: b :: rest =>
    rw [hlist] at hdigits
    exact ⟨a, b, rest, rfl, hdigits a List.mem_cons_self, hdigits b (List.mem_cons_of_mem _ List.mem_cons_self)⟩

/-- the key of a digest has the form that readers ask for -/
theorem isStorageKey_storageKey (bytes : List Nat) : isStorageKey (storageKey (hexdigest bytes)) = true := by
  obtain ⟨a, b, rest, hlist, ha, hb⟩ := exists_hexdigest bytes
  have hkey : (storageKey (hexdigest bytes)).toList = a :: b :: '/' :: (hexdigest bytes).toList := by
    rw [storageKey_toList, hlist]
    rfl
  rw [isStorageKey, hkey]
  simp only [ha, hb, hexdigest_length, decide_true, Bool.true_and, List.all_eq_true]
  exact hexdigest_digits bytes

theorem splitKey_storageKey (bytes : List Nat) :
    splitKey (storageKey (hexdigest bytes)) = (digestPrefix (hexdigest bytes), hexdigest bytes) := by
  obtain ⟨a, b, rest, hlist, ha, hb⟩ := exists_hexdigest bytes
  have hkey : (storageKey (hexdigest bytes)).toList = [a, b] ++ '/' :: (hexdigest bytes).toList := by
    rw [storageKey_toList, hlist]
    rfl
  have hpre : ∀ c ∈ [a, b], decide (c ≠ '/') = true := by
    intro c hc
    simp only [List.mem_cons, List.not_mem_nil, or_false] at hc
    rcases hc with rfl | rfl
    · exact decide_eq_true (ne_slash_of_isLowerHex ha)
    · exact decide_eq_true (ne_slash_of_isLowerHex hb)
  have htake : digestPrefix (hexdigest bytes) = String.ofList [a, b] := by
    rw [digestPrefix, hlist]
    rfl
  rw [splitKey, hkey, List.takeWhile_append_of_pos hpre, List.dropWhile_append_of_pos hpre, htake]
  simp

/-! ## Whole runs -/

theorem returned_step (s : State) (e : Event) : s.returned ⊆ (step s e).returned := by
  have hcall {n : Nat} {f : Call → State} (hf : ∀ c, s.returned ⊆ (f c).returned) :
      s.returned ⊆ (((s.calls n).map f).getD s).returned := by
    cases s.calls n with
    | none => exact fun _ hp => hp
    | some c => exact hf c
  cases e with
  | start n stagingName maxBytes now =>
    simp only [step, State.start]
    split_ifs <;> exact fun _ hp => hp
  | chunk n bytes now =>
    refine hcall fun c => ?_
    rw [State.chunk]
    split_ifs <;> exact fun _ hp => hp
  | close n =>
    refine hcall fun c => ?_
    rw [State.close]
    split_ifs <;> exact fun _ hp => hp
  | look n =>
    refine hcall fun c => ?_
    rw [State.look]
    repeat' split
    all_goals exact fun _ hp => hp
  | stat n =>
    refine hcall fun c => ?_
    rw [State.stat]
    repeat' split
    all_goals exact fun _ hp => hp
  | replace n synced =>
    refine hcall fun c => ?_
    rw [State.replace]
    split
    · split
      · exact fun _ hp => hp
      · dsimp only
        split_ifs
        · exact fun _ hp => List.mem_cons_of_mem _ hp
        · exact fun _ hp => hp
    · exact fun _ hp => hp
  | cleanup n removed =>
    refine hcall fun c => ?_
    rw [State.cleanup]
    split
    · split_ifs
      · split
        · exact fun _ hp => List.mem_cons_of_mem _ hp
        · exact fun _ hp => hp
      · exact fun _ hp => hp
    · exact fun _ hp => hp
  | fail n =>
    refine hcall fun c => ?_
    rw [State.fail]
    split <;> exact fun _ hp => hp
  | sweep name cutoff =>
    simp only [step, State.sweep]
    repeat' split
    all_goals exact fun _ hp => hp
  | crash n => exact fun _ hp => hp

theorem returned_later (es later : List Event) : (reached es).returned ⊆ (reached (es ++ later)).returned := by
  rw [reached, reached, Runs.run_append]
  exact Runs.run_inv (P := fun s : State => (Runs.run step {} es).returned ⊆ s.returned)
    (fun s e hs => List.Subset.trans hs (returned_step s e)) (fun _ hp => hp) later

/-- **Files in place are content-addressed and complete.** In every run that draws no staging name twice, whatever calls,
crashes and cleanups come between: a file below `blobs` has the digest that it is named by and all the bytes of a source
that was staged to its end, and what a call has returned is in place. -/
theorem blobs_content_addressed (es : List Event) (h : Fresh es) :
    (∀ pre digest bytes, (reached es).blobs pre digest = some bytes →
      pre = digestPrefix digest ∧ hexdigest bytes = digest ∧ bytes ≠ [] ∧ bytes ∈ (reached es).sources) ∧
    ∀ p ∈ (reached es).returned, Stored (reached es).blobs (reached es).sources p.1 p.2 := by
  have hinv := inv_reached h
  refine ⟨fun pre digest bytes hbytes => ?_, hinv.returned⟩
  obtain ⟨hpre, hdigest, hmem⟩ := hinv.placed pre digest bytes hbytes
  exact ⟨hpre, hdigest, hinv.nonempty bytes hmem, hmem⟩

/-- **Stored blobs read back**: what a call has returned reads as its source in every later state, where the digest
tells the sources apart. -/
theorem stored_blobs_read_back (es later : List Event) (h : Fresh (es ++ later))
    (hdigest : ∀ a ∈ (reached (es ++ later)).sources, ∀ b ∈ (reached (es ++ later)).sources,
      hexdigest a = hexdigest b → a = b) :
    ∀ p ∈ (reached es).returned, readStoredBlobBytes (reached (es ++ later)) p.2 = .ok p.1 := by
  rintro ⟨source, blob⟩ hp
  have hinv := inv_reached h
  have hstored := hinv.returned (source, blob) (returned_later es later hp)
  obtain ⟨bytes, hbytes⟩ := hstored.inPlace
  obtain ⟨-, heq, hmem⟩ := hinv.placed _ _ bytes hbytes
  obtain rfl : bytes = source := hdigest bytes hmem source hstored.staged heq
  obtain ⟨sized, hsized, hsame, hsize⟩ := hstored.size
  have hsize : blob.sizeBytes = bytes.length := hsize.trans (congrArg _ (hdigest sized hsized bytes hmem hsame))
  have hpos : 1 ≤ bytes.length := List.length_pos_iff.2 (hinv.nonempty bytes hmem)
  have hsha : blob.sha256 = hexdigest bytes := hstored.sha256
  have hkey : blob.storageKey = storageKey (hexdigest bytes) := hstored.key
  simp only [readStoredBlobBytes, hsize, hsha, hkey, splitKey_storageKey, isStorageKey_storageKey, Results.ensure,
    Results.orRaise, hbytes, hpos, if_true, and_self, bind, Except.bind, pure, Except.pure]

namespace Samples

def name (token : String) : String := "blob-staging-" ++ token

/-- two calls with the same source, of which one crashes before it has looked -/
def calls : List Event :=
  [.start 0 (name "00000000000000000000000000000000") 8 0, .start 1 (name "11111111111111111111111111111111") 8 0,
    .chunk 0 [115, 115] 1, .chunk 1 [115, 115, 112] 2, .chunk 0 [112] 3, .close 0, .close 1, .look 0, .crash 1,
    .replace 0 true]

def cleanups : List Event := [.sweep (name "11111111111111111111111111111111") 9]

end Samples

open Samples in
theorem calls_content_addressed :
    (∀ pre digest bytes, (reached calls).blobs pre digest = some bytes →
      pre = digestPrefix digest ∧ hexdigest bytes = digest ∧ bytes ≠ [] ∧ bytes ∈ (reached calls).sources) ∧
    ∀ p ∈ (reached calls).returned, Stored (reached calls).blobs (reached calls).sources p.1 p.2 :=
  blobs_content_addressed calls (by decide)

open Samples in
theorem calls_read_back : ∃ blob, ([115, 115, 112], blob) ∈ (reached calls).returned ∧
    readStoredBlobBytes (reached (calls ++ cleanups)) blob = .ok [115, 115, 112] := by
  have hreturned : (reached calls).returned.map Prod.fst = [[115, 115, 112]] := by decide
  have hsources : (reached (calls ++ cleanups)).sources = [[115, 115, 112], [115, 115, 112]] := by decide
  have hmem : [115, 115, 112] ∈ (reached calls).returned.map Prod.fst := by rw [hreturned]; exact List.mem_singleton_self _
  obtain ⟨⟨source, blob⟩, hp, rfl⟩ := List.mem_map.1 hmem
  refine ⟨blob, hp, stored_blobs_read_back calls cleanups (by decide) ?_ _ hp⟩
  intro a ha b hb _
  rw [hsources] at ha hb
  simp only [List.mem_cons, List.not_mem_nil, or_false, or_self] at ha hb
  rw [ha, hb]

end AtoService.Storage.Blobs
