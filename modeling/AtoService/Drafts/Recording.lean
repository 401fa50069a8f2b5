/-
How intake records values in a draft, with an entry of field provenance for each.

What the extraction of the artifacts has queued is committed in the order of the pointers; the proposals of the model are
merged after that, one pointer at a time. `Recording.recorded` keeps the value that was written with each entry, for the
statements: no function of the source reads it.

- `RecordingOk.write`: a write that leaves the values of other pointers keeps their entries truthful.
- `intakeDraft_truthful`: every entry that intake records has its value in the document.
-/
import AtoService.Lib.JsonPointer
import AtoService.Lib.Results

namespace AtoService.Drafts

open Results Json

abbrev Fields := List (String × Json)

structure DraftBuildError where
  message : String
  errorCode : String
deriving DecidableEq, Repr

inductive IntakeError where
  | draft (e : DraftBuildError)
  /-- a `KeyError`, `IndexError` or `ValueError` of a pointer -/
  | pointer (pointer : String)
deriving DecidableEq, Repr

def schemaInvalid (message : String) : IntakeError := .draft ⟨message, "draft_schema_invalid"⟩

/-- a value that extraction has queued for a pointer of the draft -/
structure ProvenanceWrite where
  draftPointer : String
  value : Json
  sourceArtifactId : String
  sourceSha256 : String
  sourceLocator : Json
  extractionMethod : String

structure Recording where
  document : Json
  fieldProvenance : Fields
  recorded : Fields

structure Services where
  /-- `==` between JSON values -/
  equal : Json → Json → Bool
  /-- `is_target_allowed` and `validate_proposed_value_for_target`, in the document as it is -/
  targetAllowed : String → Json → Json → Bool
  /-- `validate_package_draft_document` -/
  validatePackageDraftDocument : Json → Except DraftBuildError Unit

/-! ## Committing fields -/

def assessorOwnedDraftPrefixes : List String :=
  ["/assessor_inputs", "/findings", "/poam_candidates", "/fedramp_20x/independent_assessment", "/fedramp_rev5_transition/sar"]

def startsWith (s start : String) : Bool := (Py.chars start).isPrefixOf (Py.chars s)

/-- every `~` is followed by `0` or `1` -/
def escapesOk : List Char → Bool
  | '~' :: c :: cs => (c = '0' || c = '1') && escapesOk cs
  | ['~'] => false
  | _ :: cs => escapesOk cs
  | [] => true

def requireValidJsonPointer (pointer : String) : Except IntakeError Unit :=
  let cs := Py.chars pointer
  Results.ensure (cs.length ≤ 2000 ∧ (cs = [] ∨ cs.head? = some '/') ∧ escapesOk cs = true)
    (schemaInvalid "draft JSON pointer exceeds domain limits")

def ProvenanceWrite.entry (w : ProvenanceWrite) (extra : Fields) : Json :=
  .obj ([("source_artifact_id", .str w.sourceArtifactId), ("source_sha256", .str w.sourceSha256),
    ("source_locator", w.sourceLocator), ("extraction_method", .str w.extractionMethod), ("model_step_id", .null)] ++ extra)

def Recording.write (r : Recording) (pointer : String) (document entry value : Json) : Recording where
  document := document
  fieldProvenance := putMember pointer entry r.fieldProvenance
  recorded := putMember pointer value r.recorded

/-- the part that `_commit_field` and `_commit_assessor_import_field` share -/
def commitValue (services : Services) (r : Recording) (w : ProvenanceWrite) (extra : Fields) :
    Except IntakeError Recording := do
  requireValidJsonPointer w.draftPointer
  match member w.draftPointer r.fieldProvenance with
  | some _ =>
    let existing ← orRaise (valueAt true (pointerParts w.draftPointer) r.document) (.pointer w.draftPointer)
    Results.ensure (services.equal existing w.value = true)
      (.draft ⟨"conflicting values map to the same canonical draft pointer", "duplicate_canonical_id"⟩)
    return r
  | none =>
    Results.ensure (w.draftPointer ≠ "") (schemaInvalid "cannot set the empty JSON pointer on a draft document")
    let document ← orRaise (setAt true w.value (pointerParts w.draftPointer) r.document) (.pointer w.draftPointer)
    return r.write w.draftPointer document (w.entry extra) w.value

def commitField (services : Services) (r : Recording) (w : ProvenanceWrite) : Except IntakeError Recording := do
  Results.ensure (assessorOwnedDraftPrefixes.all fun owned => !startsWith w.draftPointer owned)
    (schemaInvalid "owner uploads cannot populate assessor-owned draft fields")
  commitValue services r w []

def isOwnedByAssessor (value : Json) : Bool :=
  match value with
  | .obj fs => (match member "owner" fs with | some (.str owner) => owner = "assessor" | _ => false) &&
      (match member "import_only" fs with | some (.bool b) => b | _ => false)
  | _ => false

def commitAssessorImportField (services : Services) (r : Recording) (w : ProvenanceWrite) :
    Except IntakeError Recording := do
  Results.ensure (startsWith w.draftPointer "/assessor_inputs/")
    (schemaInvalid "assessor import may only populate assessor_inputs")
  Results.ensure (isOwnedByAssessor w.value = true)
    (schemaInvalid "assessor import entries must be owner-tagged and import-only")
  commitValue services r w [("owner", .str "assessor"), ("import_only", .bool true)]

def commitWrite (services : Services) (r : Recording) (w : ProvenanceWrite) : Except IntakeError Recording :=
  if startsWith w.draftPointer "/assessor_inputs/" then commitAssessorImportField services r w
  else commitField services r w

/-- `document["extensions"][key] = value`, for some keys -/
def updateExtensions (extensions : Fields) (document : Json) : Except IntakeError Json :=
  match document with
  | .obj fs =>
    match orObject (member "extensions" fs) with
    | .obj current => .ok (.obj (putMember "extensions" (.obj (KeyedList.update Prod.fst current extensions)) fs))
    | _ => .error (schemaInvalid "draft extensions must be an object")
  | _ => .error (schemaInvalid "draft document must be an object")

/-! ## Merging proposals -/

/-- the proposals for one pointer, in their order, with the entry that `_select_primary_provenance` selects -/
structure TargetGroup where
  targetPointer : String
  proposedValue : Json
  otherValues : List Json
  primary : Json

def Same (v w : Json) : Prop := dumps .compact v = dumps .compact w

instance (v w : Json) : Decidable (Same v w) := inferInstanceAs (Decidable (_ = _))

/-- a value that counts as not filled: `None`, `""`, `[]` or `{}` -/
def isUnfilled : Option Json → Bool
  | none => true
  | some .null => true
  | some (.str s) => s = ""
  | some (.arr xs) => xs.isEmpty
  | some (.obj fs) => fs.isEmpty
  | some _ => false

/-- a group in conflict leaves the draft as it is -/
def mergeTargetGroup (services : Services) (r : Recording) (g : TargetGroup) : Except IntakeError Recording := do
  if services.targetAllowed g.targetPointer g.proposedValue r.document = false then return r
  else if ¬∀ v ∈ g.otherValues, Same v g.proposedValue then return r
  else
    let existing := valueAt false (pointerParts g.targetPointer) r.document
    if isUnfilled existing then do
      let document ← orRaise (setAt false g.proposedValue (pointerParts g.targetPointer) r.document)
        (.pointer g.targetPointer)
      return r.write g.targetPointer document g.primary g.proposedValue
    else if ¬∀ v ∈ existing, Same v g.proposedValue then return r
    else return r.write g.targetPointer r.document g.primary g.proposedValue

/-! ## Intake -/

/-- what intake has found: the shell of the profile, the queued values, and the proposals of the model -/
structure IntakeFindings where
  shell : Json
  writes : List ProvenanceWrite
  extensions : Fields
  /-- the groups of proposals, and the conflicts, gaps and other members that `reduce_intake_map_results` adds to the
  extensions; nothing where the model was not asked -/
  reduce : Option (List TargetGroup × Fields)

def validateDocument (services : Services) (document : Json) : Except IntakeError Unit :=
  (services.validatePackageDraftDocument document).mapError .draft

/-- `build_initial_draft` -/
def buildInitialDraft (services : Services) (f : IntakeFindings) : Except IntakeError Recording := do
  let r ← (KeyedList.sorted ProvenanceWrite.draftPointer f.writes).foldlM (commitWrite services) ⟨f.shell, [], []⟩
  let document ← updateExtensions f.extensions r.document
  validateDocument services document
  return { r with document }

def reduceIntakeMapResults (services : Services) (groups : List TargetGroup) (extensions : Fields) (base : Recording) :
    Except IntakeError Recording := do
  let r ← groups.foldlM (mergeTargetGroup services) base
  let document ← updateExtensions extensions r.document
  validateDocument services document
  return { r with document }

def intakeDraft (services : Services) (f : IntakeFindings) : Except IntakeError Recording := do
  let base ← buildInitialDraft services f
  match f.reduce with
  | none => return base
  | some (groups, extensions) => reduceIntakeMapResults services groups extensions base

/-! ## Truthful entries -/

/-- the document has the value at a pointer -/
def HoldsAt (document : Json) (pointer : String) (value : Json) : Prop :=
  ∃ w, valueAt false (pointerParts pointer) document = some w ∧ Same value w

/-- every entry of field provenance has its value in the document -/
def Truthful (document : Json) (fieldProvenance recorded : Fields) : Prop :=
  ∀ pointer entry, member pointer fieldProvenance = some entry →
    ∃ value, member pointer recorded = some value ∧ HoldsAt document pointer value

/-- the pointers that intake writes to -/
def IntakeFindings.pointers (f : IntakeFindings) : List String :=
  f.writes.map ProvenanceWrite.draftPointer ++ ((f.reduce.map Prod.fst).getD []).map TargetGroup.targetPointer

/-- no pointer leads to another or to the extensions, and the shell has objects on their paths -/
structure Apart (shell : Json) (pointers : List String) : Prop where
  through : ∀ p ∈ pointers, Through (pointerParts p) shell
  unrelated : ∀ p ∈ pointers, ∀ q ∈ pointers, p = q ∨ Unrelated (pointerParts p) (pointerParts q)
  extensions : ∀ p ∈ pointers, Unrelated ["extensions"] (pointerParts p)

/-- what holds of a draft while intake writes to some pointers -/
structure RecordingOk (pointers : List String) (r : Recording) : Prop where
  truthful : Truthful r.document r.fieldProvenance r.recorded
  keys : ∀ p entry, member p r.fieldProvenance = some entry → p ∈ pointers
  through : ∀ p ∈ pointers, Through (pointerParts p) r.document

section

variable {services : Services} {shell : Json} {pointers : List String} {r r' : Recording}

theorem HoldsAt.of_unrelated {lenient : Bool} {document document' new value : Json} {p : List String} {q : String}
    (h : HoldsAt document q value) (hpq : Unrelated p (pointerParts q)) (hp : Through p document)
    (hset : setAt lenient new p document = some document') : HoldsAt document' q value := by
  obtain ⟨w, hw, hsame⟩ := h
  exact ⟨w, valueAt_setAt_of_unrelated hpq hp hset hw, hsame⟩

/-- **A write keeps the other entries truthful.** -/
theorem RecordingOk.write (h : RecordingOk pointers r) {p : String} (hp : p ∈ pointers) {document entry value : Json}
    (hholds : HoldsAt document p value)
    (hothers : ∀ q ∈ pointers, q ≠ p → ∀ v, HoldsAt r.document q v → HoldsAt document q v)
    (hthrough : ∀ q ∈ pointers, Through (pointerParts q) document) :
    RecordingOk pointers (r.write p document entry value) := by
  refine ⟨fun q e hq => ?_, fun q e hq => ?_, hthrough⟩
  · change member q (putMember p entry r.fieldProvenance) = some e at hq
    change ∃ v, member q (putMember p value r.recorded) = some v ∧ HoldsAt document q v
    rw [member_putMember] at hq ⊢
    by_cases hpq : p = q
    · subst hpq
      rw [if_pos rfl]
      exact ⟨value, rfl, hholds⟩
    · rw [if_neg hpq] at hq ⊢
      obtain ⟨v, hv, hheld⟩ := h.truthful q e hq
      exact ⟨v, hv, hothers q (h.keys q e hq) (Ne.symm hpq) v hheld⟩
  · change member q (putMember p entry r.fieldProvenance) = some e at hq
    rw [member_putMember] at hq
    split_ifs at hq with hpq
    · exact hpq ▸ hp
    · exact h.keys q e hq

theorem RecordingOk.set (h : RecordingOk pointers r) (ha : Apart shell pointers) {lenient : Bool} {p : String}
    (hp : p ∈ pointers) {document value : Json} (entry : Json)
    (hset : setAt lenient value (pointerParts p) r.document = some document) :
    RecordingOk pointers (r.write p document entry value) := by
  have hne : pointerParts p ≠ [] := (ha.extensions p hp).symm.ne_nil
  refine h.write hp ⟨value, valueAt_setAt hne (h.through p hp) hset, rfl⟩ (fun q hq hqp v hv => ?_) fun q hq => ?_
  · exact hv.of_unrelated ((ha.unrelated p hp q hq).resolve_left (Ne.symm hqp)) (h.through p hp) hset
  · rcases ha.unrelated p hp q hq with rfl | hpq
    · exact through_setAt_self (h.through p hp) hset
    · exact through_setAt hpq (h.through p hp) hset (h.through q hq)

theorem RecordingOk.commitWrite (h : RecordingOk pointers r) (ha : Apart shell pointers) {w : ProvenanceWrite}
    (hp : w.draftPointer ∈ pointers) (hw : commitWrite services r w = .ok r') : RecordingOk pointers r' := by
  have hvalue : ∀ extra, commitValue services r w extra = .ok r' → RecordingOk pointers r' := by
    intro extra hextra
    obtain ⟨_, -, hextra⟩ := bind_eq_ok.1 hextra
    split at hextra
    · obtain ⟨_, -, hextra⟩ := bind_eq_ok.1 hextra
      obtain ⟨_, -, hextra⟩ := bind_eq_ok.1 hextra
      obtain rfl := Except.ok.inj hextra
      exact h
    · obtain ⟨_, -, hextra⟩ := bind_eq_ok.1 hextra
      obtain ⟨document, hset, hextra⟩ := bind_eq_ok.1 hextra
      obtain rfl := Except.ok.inj hextra
      exact h.set ha hp _ (orRaise_eq_ok.1 hset)
  unfold Drafts.commitWrite at hw
  split_ifs at hw
  · obtain ⟨_, -, hw⟩ := bind_eq_ok.1 hw
    obtain ⟨_, -, hw⟩ := bind_eq_ok.1 hw
    exact hvalue _ hw
  · obtain ⟨_, -, hw⟩ := bind_eq_ok.1 hw
    exact hvalue _ hw

theorem RecordingOk.mergeTargetGroup (h : RecordingOk pointers r) (ha : Apart shell pointers) {g : TargetGroup}
    (hp : g.targetPointer ∈ pointers) (hg : mergeTargetGroup services r g = .ok r') : RecordingOk pointers r' := by
  unfold Drafts.mergeTargetGroup at hg
  dsimp only at hg
  split_ifs at hg with hallowed hagree hempty hsame
  · obtain rfl := Except.ok.inj hg
    exact h
  · obtain ⟨document, hset, hg⟩ := bind_eq_ok.1 hg
    obtain rfl := Except.ok.inj hg
    exact h.set ha hp _ (orRaise_eq_ok.1 hset)
  · obtain rfl := Except.ok.inj hg
    -- the value that was there is the value that is proposed
    cases hexisting : valueAt false (pointerParts g.targetPointer) r.document with
    | none =>
      rw [hexisting] at hempty
      exact absurd rfl hempty
    | some v =>
      refine h.write hp ⟨v, hexisting, (hsame v hexisting).symm⟩ (fun _ _ _ _ hv => hv) h.through
  · obtain rfl := Except.ok.inj hg
    exact h
  · obtain rfl := Except.ok.inj hg
    exact h

theorem RecordingOk.updateExtensions (h : RecordingOk pointers r) (ha : Apart shell pointers) {extensions : Fields}
    {document : Json} (hext : updateExtensions extensions r.document = .ok document) :
    RecordingOk pointers { r with document } := by
  obtain ⟨new, hthrough, hset⟩ : ∃ new, Through ["extensions"] r.document ∧
      setAt true new ["extensions"] r.document = some document := by
    unfold Drafts.updateExtensions at hext
    split at hext
    · next fs hdocument =>
      rw [hdocument]
      split at hext
      · obtain rfl := Except.ok.inj hext
        exact ⟨_, fun _ _ _ hne => absurd rfl hne, rfl⟩
      · cases hext
    · cases hext
  refine ⟨fun q e hq => ?_, h.keys, fun q hq => through_setAt (ha.extensions q hq) hthrough hset (h.through q hq)⟩
  obtain ⟨v, hv, hheld⟩ := h.truthful q e hq
  exact ⟨v, hv, hheld.of_unrelated (ha.extensions q (h.keys q e hq)) hthrough hset⟩

/-- a fold keeps what its steps keep -/
theorem RecordingOk.foldlM {α : Type} {f : Recording → α → Except IntakeError Recording} {xs : List α}
    (hf : ∀ x ∈ xs, ∀ r r', RecordingOk pointers r → f r x = .ok r' → RecordingOk pointers r')
    (h : RecordingOk pointers r) (hr : xs.foldlM f r = .ok r') : RecordingOk pointers r' := by
  induction xs generalizing r with
  | nil =>
    obtain rfl := Except.ok.inj hr
    exact h
  | cons x xs ih =>
    rw [List.foldlM_cons] at hr
    obtain ⟨r₁, hx, hr⟩ := bind_eq_ok.1 hr
    exact ih (fun y hy => hf y (List.mem_cons_of_mem _ hy)) (hf x List.mem_cons_self r r₁ h hx) hr

/-- **Intake records the truth**, where the pointers that it writes to are apart. -/
theorem intakeDraft_truthful {f : IntakeFindings} (ha : Apart f.shell f.pointers) (h : intakeDraft services f = .ok r) :
    Truthful r.document r.fieldProvenance r.recorded := by
  obtain ⟨base, hbase, h⟩ := bind_eq_ok.1 h
  have hwrites : ∀ w ∈ KeyedList.sorted ProvenanceWrite.draftPointer f.writes, w.draftPointer ∈ f.pointers :=
    fun w hw => List.mem_append_left _ (List.mem_map_of_mem (KeyedList.mem_sorted.1 hw))
  have hinit : RecordingOk f.pointers ⟨f.shell, [], []⟩ :=
    ⟨fun _ _ hq => (by cases hq), fun _ _ hq => (by cases hq), ha.through⟩
  have hok : RecordingOk f.pointers base := by
    obtain ⟨committed, hfold, hbase⟩ := bind_eq_ok.1 hbase
    obtain ⟨document, hext, hbase⟩ := bind_eq_ok.1 hbase
    obtain ⟨_, -, hbase⟩ := bind_eq_ok.1 hbase
    obtain rfl := Except.ok.inj hbase
    exact (RecordingOk.foldlM (fun w hw _ _ hr hstep => hr.commitWrite ha (hwrites w hw) hstep) hinit hfold).updateExtensions
      ha hext
  cases hreduce : f.reduce with
  | none =>
    rw [hreduce] at h
    obtain rfl := Except.ok.inj h
    exact hok.truthful
  | some p =>
    obtain ⟨groups, extensions⟩ := p
    rw [hreduce] at h
    have hgroups : ∀ g ∈ groups, g.targetPointer ∈ f.pointers := by
      intro g hg
      refine List.mem_append_right _ ?_
      rw [hreduce]
      exact List.mem_map_of_mem hg
    obtain ⟨merged, hfold, h⟩ := bind_eq_ok.1 h
    obtain ⟨document, hext, h⟩ := bind_eq_ok.1 h
    obtain ⟨_, -, h⟩ := bind_eq_ok.1 h
    obtain rfl := Except.ok.inj h
    exact ((RecordingOk.foldlM (fun g hg _ _ hr hstep => hr.mergeTargetGroup ha (hgroups g hg) hstep) hok
      hfold).updateExtensions ha hext).truthful

end

end AtoService.Drafts
