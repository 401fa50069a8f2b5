/-
What an applied patch leaves alone.

`applyAgentPatch_frame`: sections and controls that no patch targets, questions that are neither listed for resolution
nor added, and every fact but the three confirmation statuses and the provisional impact stay as they are; a target
changes in the fields that its patches name, its state, its evidence and its unresolved reason.
-/
import AtoService.Workspace.Edits

namespace AtoService.Workspace

open AtoService.Py

/-! ## Targets -/

namespace PatchResult

/-- some patch targets the section -/
def TargetsSection (r : PatchResult) (key : String) : Prop :=
  ∃ p ∈ r.patches, p.targetType = .sspSection ∧ p.targetId = key

def TargetsControl (r : PatchResult) (controlId : String) : Prop :=
  ∃ p ∈ r.patches, p.targetType ≠ .sspSection ∧ p.targetId = controlId

/-- some patch of the section names the field -/
def NamesSection (r : PatchResult) (key field : String) : Prop :=
  ∃ p ∈ r.patches, p.targetType = .sspSection ∧ p.targetId = key ∧ (p.change field).isSome

def NamesControl (r : PatchResult) (controlId field : String) : Prop :=
  ∃ p ∈ r.patches, p.targetType ≠ .sspSection ∧ p.targetId = controlId ∧ (p.change field).isSome

/-- the identifier of a question that is added to `c`: one whose key no question of `c` has -/
def AddsQuestion (host : Host) (r : PatchResult) (c : RevisionContent) (id : String) : Prop :=
  ∃ g ∈ r.questionsToAdd, g.questionKey ∉ c.questions.map (questionIdentity host) ∧
    (uuid5 questionNamespace g.questionKey).str = id

end PatchResult

/-- what the patches may make of one section -/
structure SectionPatched (r : PatchResult) (s s' : SectionContent) : Prop where
  untouched : ¬r.TargetsSection s.key → s' = s
  kept : s'.key = s.key ∧ s'.title = s.title
  content : ¬r.NamesSection s.key "content" → s'.content = s.content

/-- what the patches may make of one control -/
structure ControlPatched (r : PatchResult) (x x' : ControlContent) : Prop where
  untouched : ¬r.TargetsControl x.controlId → x' = x
  kept : x'.controlId = x.controlId ∧ x'.title = x.title
  statement : ¬r.NamesControl x.controlId "implementation_statement" →
    x'.implementationStatement = x.implementationStatement
  status : ¬r.NamesControl x.controlId "implementation_status" → x'.implementationStatus = x.implementationStatus
  responsibility : ¬r.NamesControl x.controlId "responsibility" → x'.responsibility = x.responsibility

/-- a question that is listed for resolution is dismissed -/
def resolvedQuestion (r : PatchResult) (q : QuestionContent) : QuestionContent :=
  if q.idKey ∈ r.questionIdsToResolve then { q with state := .dismissed } else q

/-- `c'` is `c` outside of what the patches name -/
structure PatchFrame (host : Host) (r : PatchResult) (c c' : RevisionContent) : Prop where
  sections : KeyedList.Rewrites SectionContent.key (SectionPatched r) c.sections c'.sections
  controls : KeyedList.Rewrites ControlContent.controlId (ControlPatched r) c.controls c'.controls
  questions : ∀ id, ¬r.AddsQuestion host c id → KeyedList.get? QuestionContent.idKey id c'.questions =
    (KeyedList.get? QuestionContent.idKey id c.questions).map (resolvedQuestion r)
  facts : ∀ k ∉ statusKeys, k ≠ provisionalKey → getFact k c'.facts = getFact k c.facts

/-! ## One patch -/

section

variable {host : Host} {r : PatchResult} {c : RevisionContent} {p : TargetedPatch}

theorem SectionPatched.refl (s : SectionContent) : SectionPatched r s s := ⟨fun _ => rfl, ⟨rfl, rfl⟩, fun _ => rfl⟩

theorem ControlPatched.refl (x : ControlContent) : ControlPatched r x x :=
  ⟨fun _ => rfl, ⟨rfl, rfl⟩, fun _ => rfl, fun _ => rfl, fun _ => rfl⟩

theorem getD_of_isNone {o : Option String} {s : String} (h : ¬o.isSome) : o.getD s = s := by
  rw [Option.not_isSome_iff_eq_none.1 h, Option.getD_none]

theorem or_of_isNone {o o' : Option String} (h : ¬o.isSome) : o.or o' = o' := by
  rw [Option.not_isSome_iff_eq_none.1 h, Option.none_or]

theorem patchSection_frame {evidence : List EvidenceLink} {xs ys : List SectionContent} (hp : p ∈ r.patches)
    (ht : p.targetType = .sspSection) (hxs : KeyedList.Rewrites SectionContent.key (SectionPatched r) c.sections xs)
    (h : patchSection p evidence xs = .ok ys) :
    KeyedList.Rewrites SectionContent.key (SectionPatched r) c.sections ys := by
  unfold patchSection at h
  cases hs : getSection p.targetId xs with
  | none => simp [hs] at h
  | some current =>
    simp only [hs, bind_eq_ok, pure_eq_ok, validated_eq_ok] at h
    obtain ⟨s', ⟨rfl, -⟩, rfl⟩ := h
    have hkey : current.key = p.targetId := KeyedList.key_of_get? hs
    refine hxs.put hs hkey fun s _ hsk hw => ?_
    refine ⟨fun hn => absurd ⟨p, hp, ht, hsk.symm⟩ hn, hw.kept, fun hn => ?_⟩
    -- a patch that does not name the content leaves the text that the patches before it left
    have hnone : ¬(p.change "content").isSome := fun hc => hn ⟨p, hp, ht, hsk.symm, hc⟩
    exact (getD_of_isNone hnone).trans (hw.content hn)

theorem patchControl_frame {evidence : List EvidenceLink} {xs ys : List ControlContent} (hp : p ∈ r.patches)
    (ht : p.targetType ≠ .sspSection)
    (hxs : KeyedList.Rewrites ControlContent.controlId (ControlPatched r) c.controls xs)
    (h : patchControl p evidence xs = .ok ys) :
    KeyedList.Rewrites ControlContent.controlId (ControlPatched r) c.controls ys := by
  unfold patchControl at h
  cases hx : getControl p.targetId xs with
  | none => simp [hx] at h
  | some current =>
    simp only [hx, bind_eq_ok, pure_eq_ok, validated_eq_ok] at h
    obtain ⟨x', ⟨rfl, -⟩, rfl⟩ := h
    have hkey : current.controlId = p.targetId := KeyedList.key_of_get? hx
    refine hxs.put hx hkey fun x _ hxk hw => ?_
    have hnone : ∀ field, ¬r.NamesControl x.controlId field → ¬(p.change field).isSome :=
      fun field hn hc => hn ⟨p, hp, ht, hxk.symm, hc⟩
    refine ⟨fun hn => absurd ⟨p, hp, ht, hxk.symm⟩ hn, hw.kept, fun hn => ?_, fun hn => ?_, fun hn => ?_⟩
    · exact (getD_of_isNone (hnone _ hn)).trans (hw.statement hn)
    · exact (or_of_isNone (hnone _ hn)).trans (hw.status hn)
    · exact (or_of_isNone (hnone _ hn)).trans (hw.responsibility hn)

/-- the step lemma of the patches: what one of them leaves of the sections and controls -/
theorem applyPatch_frame {v : Nat} {items items' : List SectionContent × List ControlContent} (hp : p ∈ r.patches)
    (hi : KeyedList.Rewrites SectionContent.key (SectionPatched r) c.sections items.1 ∧
      KeyedList.Rewrites ControlContent.controlId (ControlPatched r) c.controls items.2)
    (h : applyPatch host c.facts v items p = .ok items') :
    KeyedList.Rewrites SectionContent.key (SectionPatched r) c.sections items'.1 ∧
      KeyedList.Rewrites ControlContent.controlId (ControlPatched r) c.controls items'.2 := by
  simp only [applyPatch, bind_eq_ok, ensure_eq_ok] at h
  obtain ⟨-, -, evidence, -, h⟩ := h
  split_ifs at h with ht
  · simp only [bind_eq_ok, pure_eq_ok] at h
    obtain ⟨ys, hys, rfl⟩ := h
    exact ⟨patchSection_frame hp ht hi.1 hys, hi.2⟩
  · simp only [bind_eq_ok, pure_eq_ok] at h
    obtain ⟨ys, hys, rfl⟩ := h
    exact ⟨hi.1, patchControl_frame hp ht hi.2 hys⟩

end

/-! ## Questions -/

section

variable {host : Host} {questions qs : List QuestionContent}

theorem dismissQuestion_ok {id : String} (h : dismissQuestion questions id = .ok qs) :
    ∃ current, KeyedList.get? QuestionContent.idKey id questions = some current ∧
      qs = KeyedList.put QuestionContent.idKey { current with state := .dismissed } questions := by
  unfold dismissQuestion at h
  cases hq : KeyedList.get? QuestionContent.idKey id questions with
  | none => simp [hq] at h
  | some current =>
    simp only [hq, bind_eq_ok, pure_eq_ok, validated_eq_ok] at h
    obtain ⟨_, ⟨rfl, -⟩, rfl⟩ := h
    exact ⟨current, rfl, rfl⟩

/-- the listed questions are dismissed, each with the answer it had -/
theorem dismissQuestions_get? {ids : List String} (h : ids.foldlM dismissQuestion questions = .ok qs) (id : String) :
    KeyedList.get? QuestionContent.idKey id qs = (KeyedList.get? QuestionContent.idKey id questions).map fun q =>
      if id ∈ ids then { q with state := .dismissed } else q := by
  induction ids generalizing questions with
  | nil =>
    obtain rfl := Except.ok.inj h
    simp
  | cons first ids ih =>
    rw [List.foldlM_cons, bind_eq_ok] at h
    obtain ⟨qs₁, h₁, h⟩ := h
    obtain ⟨current, hq, rfl⟩ := dismissQuestion_ok h₁
    have hcurrent : current.idKey = first := KeyedList.key_of_get? hq
    have hkey : ({ current with state := .dismissed } : QuestionContent).idKey = first := hcurrent
    rw [ih h, KeyedList.get?_put]
    by_cases he : first = id
    · subst he
      rw [if_pos hkey, hq]
      simp
    · rw [if_neg fun hk => he (hkey.symm.trans hk)]
      simp [Ne.symm he]

/-- a dismissal changes neither the target nor the text of a question -/
theorem dismissQuestions_identity (host : Host) {ids : List String}
    (h : ids.foldlM dismissQuestion questions = .ok qs) :
    qs.map (questionIdentity host) = questions.map (questionIdentity host) := by
  induction ids generalizing questions with
  | nil =>
    obtain rfl := Except.ok.inj h
    rfl
  | cons first ids ih =>
    rw [List.foldlM_cons, bind_eq_ok] at h
    obtain ⟨qs₁, h₁, h⟩ := h
    obtain ⟨current, hq, rfl⟩ := dismissQuestion_ok h₁
    rw [ih h]
    have hcurrent : current.idKey = first := KeyedList.key_of_get? hq
    exact KeyedList.map_put_of_get? hq hcurrent rfl

/-- an addition writes under the identifiers of the questions that are not passed over -/
theorem addQuestions_get? {skip : GeneratedQuestion → Bool} {gs : List GeneratedQuestion}
    (h : addQuestions skip gs questions = .ok qs) {id : String}
    (hid : ∀ g ∈ gs, skip g = false → (uuid5 questionNamespace g.questionKey).str ≠ id) :
    KeyedList.get? QuestionContent.idKey id qs = KeyedList.get? QuestionContent.idKey id questions := by
  refine foldlM_inv (P := fun qs => KeyedList.get? QuestionContent.idKey id qs =
    KeyedList.get? QuestionContent.idKey id questions) (fun g hg qs qs' hqs hstep => ?_) rfl h
  simp only [bind_eq_ok, pure_eq_ok, openQuestion_eq_ok] at hstep
  obtain ⟨_, ⟨_, -, rfl, -⟩, rfl⟩ := hstep
  obtain ⟨hg, hskip⟩ := List.mem_filter.1 hg
  rw [KeyedList.get?_put]
  exact (if_neg (hid g hg (by simpa using hskip))).trans hqs

end

/-! ## The frame -/

/-- **The frame of a patch**, for every content and every patch result that applies. -/
theorem applyAgentPatch_frame {host : Host} {r : PatchResult} {v : Nat} {c c' : RevisionContent} (hc : c.Unique)
    (h : applyAgentPatch host c r v = .ok c') : PatchFrame host r c c' := by
  simp only [applyAgentPatch, bind_eq_ok, pure_eq_ok, validated_eq_ok, hc.factDict, hc.sectionDict, hc.controlDict,
    hc.questionDict] at h
  obtain ⟨⟨sections, controls⟩, hp, dismissed, hq, qs, hqs, updated, ⟨rfl, hu⟩, rfl⟩ := h
  have hitems := foldlM_inv (fun p hp _ _ hi hstep => applyPatch_frame hp hi hstep)
    ⟨KeyedList.Rewrites.refl fun s _ => SectionPatched.refl s, KeyedList.Rewrites.refl fun x _ => ControlPatched.refl x⟩
    hp
  have m := marked_foldl ((r.patches.filter fun p => p.targetType = .sspSection).map TargetedPatch.targetId)
    { facts := c.facts
      sections := sortSections sections
      controls := sortControls controls
      questions := sortQuestions qs }
  rw [List.foldl_map] at m
  refine ⟨?_, ?_, fun id hadd => ?_, fun k hk hprov => m.frame hc.facts k hk hprov⟩
  · rw [m.sections]
    exact hitems.1.sorted
  · rw [m.controls]
    exact hitems.2.sorted
  · rw [m.questions]
    have hdist : KeyedList.Distinct QuestionContent.idKey qs := by
      have hu := (RevisionContent.uniqueError_eq_none.1 hu).questions
      exact ((KeyedList.sorted_perm qs).map _).nodup_iff.1 hu
    rw [sortQuestions, KeyedList.get?_sorted hdist, addQuestions_get? hqs (fun g hg hskip hid => hadd ?_),
      dismissQuestions_get? hq]
    · cases hk : KeyedList.get? QuestionContent.idKey id c.questions with
      | none => rfl
      | some q =>
        rw [Option.map_some, Option.map_some, resolvedQuestion, KeyedList.key_of_get? hk]
    · refine ⟨g, hg, fun hmem => ?_, hid⟩
      rw [← dismissQuestions_identity host hq, ← List.contains_iff_mem] at hmem
      exact Bool.false_ne_true (hskip.symm.trans hmem)

namespace Small

/-- a section, a control and an open question, with one fact that has evidence -/
def patched : RevisionContent where
  facts := [⟨"evidence.a", .str "text", .extracted, [⟨.ofNat 50, [("page", .int 1)], by decide⟩], .active⟩]
  sections := [⟨"system.purpose", "Purpose", "", .empty, []⟩, ⟨"system.scope", "Scope", "All.", .edited, []⟩]
  controls := [{ controlId := "AC-1", title := "Policy", state := .empty }]
  questions := [⟨.ofNat 60, "Who?", .control, "AC-1", .isso, .opened, none⟩]

def patch : PatchResult where
  patches := [⟨.sspSection, "system.purpose", 1, [("content", "To serve.")], ["evidence.a"]⟩,
    ⟨.control, "AC-1", 1, [("implementation_statement", "A policy.")], ["evidence.a"]⟩]
  questionsToAdd := []
  questionIdsToResolve := [(Uuid.ofNat 60).str]
  changeSummary := "A purpose."

def patchHost : Host := ⟨id, id, fun _ => "", id, fun _ => ""⟩

end Small

theorem applyAgentPatch_frame_small : ∃ c', applyAgentPatch Small.patchHost Small.patched Small.patch 1 = .ok c' ∧
    PatchFrame Small.patchHost Small.patch Small.patched c' := by
  have hok : (applyAgentPatch Small.patchHost Small.patched Small.patch 1).toOption.isSome = true := by decide
  have hu : Small.patched.Unique := RevisionContent.uniqueError_eq_none.1 (by decide)
  cases h : applyAgentPatch Small.patchHost Small.patched Small.patch 1 with
  | error e => simp [h, Except.toOption] at hok
  | ok c' => exact ⟨c', rfl, applyAgentPatch_frame hu h⟩

end AtoService.Workspace
