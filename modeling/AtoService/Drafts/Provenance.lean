/-
Whether the field provenance of sealed content tells the truth, along every run of extraction, draft saves, metadata patches
and confirmations.

No operation but the extraction writes field provenance: a save, a patch and a seal replace the document and carry the
entries along.

- `keeps_truthful`: a document that keeps the values at the entries stays truthful. `draftInv_step`: one operation that
  meets its condition. `sealed_provenance_truthful`: whole runs.
Witness `edited_title_sealed`: a title that a user has changed is sealed under the entry of the artifact it was read from.
-/
import AtoService.Drafts.Editing
import AtoService.Lib.Runs
import AtoService.Lib.Sha

namespace AtoService.Drafts

open Results Json
open Runs (Along run)

/-! ## What the condition says -/

/-- the document that replaces another has the same values at the entries of field provenance -/
def Keeps (fieldProvenance : Fields) (document document' : Json) : Prop :=
  ∀ pointer entry, member pointer fieldProvenance = some entry → ∀ v, valueAt false (pointerParts pointer) document = some v →
    ∃ w, valueAt false (pointerParts pointer) document' = some w ∧ Same v w

def normalized (s : State) (document : Json) : Json :=
  normalizeDraftDocumentForProfile document s.revision.profileId s.revision.impactLevel

/-- an operation changes no value that has an entry, and the pointers of an extraction are apart -/
def Guarded (checks : Checks) (s : State) : Op → Prop
  | .extract f _ => Apart f.shell f.pointers ∧ ∀ r, intakeDraft checks.intake f = .ok r →
      Keeps r.fieldProvenance r.document (normalized s r.document)
  | .save _ document => ∀ draft, s.draft = some draft →
      Keeps draft.fieldProvenance draft.document (normalized s document)
  | .patch _ p => ∀ draft, s.draft = some draft → p.reshapes = true →
      Keeps draft.fieldProvenance draft.document (reshaped { s with revision := p.apply s.revision } draft).document
  | .confirm _ => ∀ draft, s.draft = some draft →
      Keeps draft.fieldProvenance draft.document (normalized s draft.document)

/-- every entry of the sealed field provenance has its value in the sealed document -/
def SealedTruthful (s : State) : Prop :=
  ∀ c, s.sealedContent = some c → Truthful c.document c.fieldProvenance c.recorded

/-- the invariant: the draft is truthful too -/
structure DraftInv (s : State) : Prop where
  draft : ∀ d, s.draft = some d → Truthful d.document d.fieldProvenance d.recorded
  sealedTruthful : SealedTruthful s

/-! ## One operation -/

section

variable {checks : Checks} {s s' : State}

theorem keeps_truthful {document document' : Json} {fieldProvenance recorded : Fields}
    (h : Truthful document fieldProvenance recorded) (hkeeps : Keeps fieldProvenance document document') :
    Truthful document' fieldProvenance recorded := by
  intro pointer entry hentry
  obtain ⟨value, hvalue, v, hv, hsame⟩ := h pointer entry hentry
  obtain ⟨w, hw, hsame'⟩ := hkeeps pointer entry hentry v hv
  exact ⟨value, hvalue, w, hw, hsame.trans hsame'⟩

/-- the draft is replaced by a truthful one -/
theorem DraftInv.replace (h : DraftInv s) {d : PackageRevisionDraft} {revision : PackageRevision}
    (hd : Truthful d.document d.fieldProvenance d.recorded) : DraftInv { s with revision, draft := some d } := by
  refine ⟨fun d' hd' => ?_, h.sealedTruthful⟩
  obtain rfl := Option.some.inj hd'
  exact hd

theorem draftInv_extract (h : DraftInv s) {f : IntakeFindings} {actorId : String}
    (hguard : Guarded checks s (.extract f actorId)) (hs : commitSuccessfulExtract checks s f actorId = .ok s') :
    DraftInv s' := by
  obtain ⟨_, -, hs⟩ := bind_eq_ok.1 hs
  obtain ⟨r, hr, hs⟩ := bind_eq_ok.1 hs
  obtain ⟨s₁, hpersist, hs⟩ := bind_eq_ok.1 hs
  obtain ⟨_, -, hpersist⟩ := bind_eq_ok.1 hpersist
  obtain ⟨_, -, hpersist⟩ := bind_eq_ok.1 hpersist
  obtain rfl := Except.ok.inj hpersist
  obtain rfl := Except.ok.inj hs
  have hintake := mapError_eq_ok.1 hr
  exact h.replace (keeps_truthful (intakeDraft_truthful hguard.1 hintake) (hguard.2 r hintake))

theorem draftInv_save (h : DraftInv s) {r : Request} {document : Json} (hguard : Guarded checks s (.save r document))
    (hs : savePackageRevisionDraft checks s r document = .ok s') : DraftInv s' := by
  obtain ⟨replayed, -, hs⟩ := bind_eq_ok.1 hs
  split_ifs at hs
  · obtain rfl := Except.ok.inj hs
    exact h
  · obtain ⟨_, -, hs⟩ := bind_eq_ok.1 hs
    obtain ⟨draft, hdraft, hs⟩ := bind_eq_ok.1 hs
    obtain ⟨_, -, hs⟩ := bind_eq_ok.1 hs
    obtain ⟨_, -, hs⟩ := bind_eq_ok.1 hs
    obtain ⟨_, -, hs⟩ := bind_eq_ok.1 hs
    obtain rfl := Except.ok.inj hs
    have hdraft := orRaise_eq_ok.1 hdraft
    exact h.replace (keeps_truthful (h.draft draft hdraft) (hguard draft hdraft))

theorem draftInv_synchronize {p : Patch} (h : DraftInv s)
    (hguard : ∀ draft, s.draft = some draft → p.reshapes = true →
      Keeps draft.fieldProvenance draft.document (reshaped s draft).document)
    (hs : synchronizeDraftAfterMetadataPatch checks s p = .ok s') : DraftInv s' := by
  rw [synchronizeDraftAfterMetadataPatch] at hs
  split_ifs at hs with hreshapes
  · obtain rfl := Except.ok.inj hs
    exact h
  · split at hs
    · obtain rfl := Except.ok.inj hs
      exact h
    · next draft hdraft =>
      have hkeeps := hguard draft hdraft (Bool.not_eq_false _ ▸ hreshapes)
      have htruthful := keeps_truthful (h.draft draft hdraft) hkeeps
      obtain ⟨_, -, hs⟩ := bind_eq_ok.1 hs
      obtain rfl := Except.ok.inj hs
      exact h.replace htruthful

theorem draftInv_patch (h : DraftInv s) {r : Request} {p : Patch} (hguard : Guarded checks s (.patch r p))
    (hs : patchPackageRevisionMetadata checks s r p = .ok s') : DraftInv s' := by
  obtain ⟨replayed, -, hs⟩ := bind_eq_ok.1 hs
  split_ifs at hs
  · obtain rfl := Except.ok.inj hs
    exact h
  · obtain ⟨_, -, hs⟩ := bind_eq_ok.1 hs
    obtain ⟨_, -, hs⟩ := bind_eq_ok.1 hs
    obtain ⟨_, -, hs⟩ := bind_eq_ok.1 hs
    obtain ⟨s₁, hsync, hs⟩ := bind_eq_ok.1 hs
    obtain ⟨_, -, hs⟩ := bind_eq_ok.1 hs
    obtain rfl := Except.ok.inj hs
    have hpatched : DraftInv { s with revision := p.apply s.revision } := ⟨h.draft, h.sealedTruthful⟩
    have hinv := draftInv_synchronize hpatched hguard hsync
    exact ⟨hinv.draft, hinv.sealedTruthful⟩

theorem draftInv_confirm (h : DraftInv s) {r : Request} (hguard : Guarded checks s (.confirm r))
    (hs : confirmPackageRevision checks s r = .ok s') : DraftInv s' := by
  obtain ⟨replayed, -, hs⟩ := bind_eq_ok.1 hs
  split_ifs at hs
  · obtain rfl := Except.ok.inj hs
    exact h
  · obtain ⟨_, -, hs⟩ := bind_eq_ok.1 hs
    obtain ⟨_, -, hs⟩ := bind_eq_ok.1 hs
    obtain ⟨_, -, hs⟩ := bind_eq_ok.1 hs
    obtain ⟨s₁, hseal, hs⟩ := bind_eq_ok.1 hs
    obtain ⟨_, -, hs⟩ := bind_eq_ok.1 hs
    obtain rfl := Except.ok.inj hs
    suffices hinv : DraftInv s₁ from ⟨hinv.draft, hinv.sealedTruthful⟩
    unfold sealDraftIfAny at hseal
    split at hseal
    · obtain ⟨_, -, hseal⟩ := bind_eq_ok.1 hseal
      obtain rfl := Except.ok.inj hseal
      exact h
    · next draft hdraft =>
      obtain ⟨_, -, hseal⟩ := bind_eq_ok.1 hseal
      obtain ⟨_, -, hseal⟩ := bind_eq_ok.1 hseal
      obtain ⟨_, -, hseal⟩ := bind_eq_ok.1 hseal
      obtain rfl := Except.ok.inj hseal
      have htruthful := keeps_truthful (h.draft draft hdraft) (hguard draft hdraft)
      refine ⟨fun d hd => ?_, fun c hc => ?_⟩
      · obtain rfl := Option.some.inj hd
        exact htruthful
      · obtain rfl := Option.some.inj hc
        exact htruthful

/-- one operation -/
theorem draftInv_step (h : DraftInv s) (op : Op) (hguard : Guarded checks s op) : DraftInv (step checks s op) := by
  unfold step
  cases hop : perform checks s op with
  | error e => exact h
  | ok s' =>
    cases op with
    | extract f actorId => exact draftInv_extract h hguard hop
    | save r document => exact draftInv_save h hguard hop
    | patch r p => exact draftInv_patch h hguard hop
    | confirm r => exact draftInv_confirm h hguard hop

end

/-- **When sealed provenance is truthful.** Along every run of a revision without a draft whose saves, patches and
confirmations change no value that has an entry of field provenance, and whose extractions write to pointers that are apart,
every entry of the sealed field provenance has the value that was recorded with it in the sealed document. -/
theorem sealed_provenance_truthful (checks : Checks) (s : State) (ops : List Op) (hdraft : s.draft = none)
    (hsealed : s.sealedContent = none) (hguard : Along (step checks) (Guarded checks) s ops) :
    SealedTruthful (run (step checks) s ops) := by
  have hinit : DraftInv s := by
    refine ⟨fun d hd => ?_, fun c hc => ?_⟩
    · rw [hdraft] at hd
      cases hd
    · rw [hsealed] at hc
      cases hc
  have hstep : ∀ t op, DraftInv t → Guarded checks t op → DraftInv (step checks t op) := fun _ op h hg =>
    draftInv_step h op hg
  exact (Runs.run_inv_along hstep hinit hguard).sealedTruthful

/-! ## A title that is read, edited and sealed -/

def keepsAll (fieldProvenance : Fields) (document document' : Json) : Bool :=
  fieldProvenance.all fun p =>
    match valueAt false (pointerParts p.1) document with
    | none => true
    | some v => (valueAt false (pointerParts p.1) document').any fun w => Same v w

theorem keeps_of_keepsAll {fieldProvenance : Fields} {document document' : Json}
    (h : keepsAll fieldProvenance document document' = true) : Keeps fieldProvenance document document' := by
  intro pointer entry hentry v hv
  obtain ⟨p, hp, -⟩ := Option.map_eq_some_iff.1 hentry
  obtain rfl := KeyedList.key_of_get? hp
  have hkept := List.all_eq_true.1 h p (KeyedList.mem_of_get? hp)
  rw [hv] at hkept
  cases hw : valueAt false (pointerParts p.1) document' with
  | none =>
    rw [hw] at hkept
    exact absurd hkept Bool.false_ne_true
  | some w =>
    rw [hw] at hkept
    exact ⟨w, rfl, of_decide_eq_true hkept⟩

/-- a site whose checks all pass -/
def permissive : Checks where
  intake := ⟨fun v w => decide (Same v w), fun _ _ _ => false, fun _ => .ok ()⟩
  validateDraft _ _ := .ok ()
  readyToSeal _ _ := .ok ()
  patchBoundaries _ _ := .ok ()
  completeMetadata _ := .ok ()
  exportReady _ _ := .ok ()
  sealedDigest document := .ok (Sha.sha256Hex (dumps .compact document))
  noPendingProposals := .ok ()

def sampleDocument (title : String) : Json :=
  .obj [("package", .obj [("profile_id", .str "fisma_agency_security"), ("title", .str title)]),
    ("system", .obj [("display_name", .str "Payroll"), ("impact_level", .str "low"), ("authorization_path", .str "agency")]),
    ("extensions", .obj [])]

def sampleState : State where
  revision := ⟨.extracting, some "fisma_agency_security", none, some "low", some "synthetic", some "public", 1⟩
  systemDisplayName := "Payroll"
  draft := none
  sealedContent := none

/-- a manifest gives the title of the package -/
def sampleFindings : IntakeFindings where
  shell := sampleDocument ""
  writes := [⟨"/package/title", .str "Payroll plan", "3f2504e0-4f89-41d3-9a0c-0305e82c3301",
    "0f343b0931126a20f133d67c2b018a3b1f9f6d7b8c2a4e5d6c7b8a9f0e1d2c3b",
    .obj [("kind", .str "json_pointer"), ("json_pointer", .str "/package/title")], "deterministic"⟩]
  extensions := []
  reduce := none

def sampleOwner (version : String) : Request where
  actorId := "user:owner"
  ifMatch := some version
  admission := .ok false
  closing _ := .ok ()

def sampleRun (title : String) : List Op :=
  [.extract sampleFindings "service:intake", .save (sampleOwner "\"v2\"") (sampleDocument title),
    .confirm (sampleOwner "\"v3\"")]

theorem apart_sample : Apart sampleFindings.shell sampleFindings.pointers := by
  have hpointers : sampleFindings.pointers = ["/package/title"] := rfl
  have hparts : pointerParts "/package/title" = ["package", "title"] := by decide
  rw [hpointers]
  refine ⟨fun p hp => ?_, fun p hp q hq => ?_, fun p hp => ?_⟩
  · rw [List.mem_singleton.1 hp, hparts]
    intro v hv _ _
    obtain rfl := Option.some.inj hv
    exact fun _ _ _ hne => absurd rfl hne
  · exact Or.inl ((List.mem_singleton.1 hp).trans (List.mem_singleton.1 hq).symm)
  · rw [List.mem_singleton.1 hp, hparts]
    decide

theorem sealed_provenance_truthful_small :
    SealedTruthful (run (step permissive) sampleState (sampleRun "Payroll plan")) := by
  refine sealed_provenance_truthful permissive sampleState (sampleRun "Payroll plan") rfl rfl ⟨⟨apart_sample, ?_⟩, ?_, ?_, trivial⟩
  · intro r hr
    have hkeeps : (intakeDraft permissive.intake sampleFindings).toOption.all fun r =>
        keepsAll r.fieldProvenance r.document (normalized sampleState r.document) := by decide
    rw [hr] at hkeeps
    exact keeps_of_keepsAll hkeeps
  · intro draft hdraft
    have hkeeps : (step permissive sampleState (.extract sampleFindings "service:intake")).draft.all fun draft =>
        keepsAll draft.fieldProvenance draft.document (normalized
          (step permissive sampleState (.extract sampleFindings "service:intake")) (sampleDocument "Payroll plan")) := by
      decide
    rw [hdraft] at hkeeps
    exact keeps_of_keepsAll hkeeps
  · intro draft hdraft
    have hkeeps : (run (step permissive) sampleState ((sampleRun "Payroll plan").take 2)).draft.all fun draft =>
        keepsAll draft.fieldProvenance draft.document (normalized
          (run (step permissive) sampleState ((sampleRun "Payroll plan").take 2)) draft.document) := by decide
    have hdraft : (run (step permissive) sampleState ((sampleRun "Payroll plan").take 2)).draft = some draft := hdraft
    rw [hdraft] at hkeeps
    exact keeps_of_keepsAll hkeeps

/-- what a sealed document and the record of its entry say at a pointer -/
def sealedTexts (s : State) (pointer : String) : Option (Bool × Option (List Char) × Option (List Char)) :=
  s.sealedContent.map fun c => ((member pointer c.fieldProvenance).isSome,
    (member pointer c.recorded).map (dumps .compact),
    (valueAt false (pointerParts pointer) c.document).map (dumps .compact))

/-- the edited title is sealed under the entry of the artifact that had another -/
theorem edited_title_sealed : ¬SealedTruthful (run (step permissive) sampleState (sampleRun "Benefits plan")) := by
  intro htruthful
  have htexts : sealedTexts (run (step permissive) sampleState (sampleRun "Benefits plan")) "/package/title" =
      some (true, some "\"Payroll plan\"".toList, some "\"Benefits plan\"".toList) := by decide
  obtain ⟨c, hc, htexts⟩ := Option.map_eq_some_iff.1 htexts
  rw [Prod.mk.injEq, Prod.mk.injEq] at htexts
  obtain ⟨hentry, hrecorded, hdocument⟩ := htexts
  obtain ⟨entry, hentry⟩ := Option.isSome_iff_exists.1 hentry
  obtain ⟨value, hvalue, w, hw, hsame⟩ := htruthful c hc "/package/title" entry hentry
  rw [hvalue] at hrecorded
  rw [hw] at hdocument
  have hdiffer : "\"Payroll plan\"".toList ≠ "\"Benefits plan\"".toList := by decide
  exact hdiffer ((Option.some.inj hrecorded).symm.trans (hsame.trans (Option.some.inj hdocument)))

end AtoService.Drafts
