/-
Citations built from the citable texts of a sealed document, and when they are accepted.

A text is filed under the identifier that its provenance names, or under one made from its key; a statement is filed under
its control as well. A text replaces what was filed under the same name before it (`get?_sources`). A made identifier is a
version 5 UUID, while a citation must name a version 4 one, so no citation of a text without an artifact is accepted
(`madeId_refused`). `citations_accepted_iff` says when every citation that can be built is accepted and no text has
replaced a different one.
-/
import AtoService.Lib.KeyedMerge
import AtoService.Matrix.Citations

namespace AtoService.Matrix

open AtoService.Sealed AtoService.Workspace
open AtoService.JsonText (isDigit)

/-! ## Building -/

/-- `build_evidence_citation(source=source, start_offset=a, end_offset=b)` -/
def buildEvidenceCitation (source : CitableSource) (startOffset endOffset : Nat) : Citation :=
  let excerpt := ((Py.chars source.text).take endOffset).drop startOffset
  [("source_kind", .str "evidence"), ("source_id", .str (lowered source.sourceId)),
    ("source_sha256", .str source.sourceSha256),
    ("chunk_id", .str (deriveChunkId source.sourceSha256 startOffset endOffset excerpt)),
    ("start_offset", .int startOffset), ("end_offset", .int endOffset), ("page_or_section", .null)]

/-! ## Sealed texts and their names -/

/-- a text of a sealed document that can be cited -/
structure SealedText where
  pointer : String
  key : String
  text : String
  isStatement : Bool
deriving DecidableEq, Repr

def sealedStatement (controlId : String) (control : Json) : Option SealedText :=
  (citableText "implementation_statement" control).map fun statement =>
    ⟨"/security_controls/" ++ controlId ++ "/implementation_statement", controlId, statement, true⟩

def sealedSummary (artifactId : String) (evidence : Json) : Option SealedText :=
  (citableText "summary" evidence).map fun summary => ⟨"/evidence/" ++ artifactId ++ "/summary", artifactId, summary, false⟩

/-- statements first, each list in the order of the document -/
def sealedTexts (document : List (String × Json)) : List SealedText :=
  ((sectionItems "security_controls" document).filterMap fun p => sealedStatement p.1 p.2) ++
    (sectionItems "evidence" document).filterMap fun p => sealedSummary p.1 p.2

section

variable (provenance : List (String × Json))

/-- the version 4 identifier that the provenance of the text names -/
def artifactOf (t : SealedText) : Option String :=
  match provenanceText "source_artifact_id" (Json.member t.pointer provenance) with
  | some artifactId => if isUuid4 (Py.chars (lowered artifactId)) then some (lowered artifactId) else none
  | none => none

/-- the identifier that is made from the key of the text -/
def madeId (t : SealedText) : String := (uuid5 urlNamespace ("ato.sealed-source:" ++ t.key)).str

def sourceOf (t : SealedText) : CitableSource := citableSource provenance t.pointer t.key t.text

/-- the names that the text is filed under -/
def namesOf (t : SealedText) : List String :=
  (artifactOf provenance t).getD (madeId t) :: if t.isStatement then [t.key] else []

/-- the last text that is filed under a name -/
def lastNamed (document : List (String × Json)) (name : String) : Option SealedText :=
  (sealedTexts document).reverse.find? fun t => name ∈ namesOf provenance t

/-- different texts have different names, and every text that is last under some name has an artifact, under which its
digest is filed -/
structure Citable (document : List (String × Json)) : Prop where
  texts : ∀ t ∈ sealedTexts document, ∀ t' ∈ sealedTexts document, ∀ name ∈ namesOf provenance t,
    name ∈ namesOf provenance t' → t.text = t'.text
  artifacts : ∀ name t, lastNamed provenance document name = some t →
    ∃ artifactId t', artifactOf provenance t = some artifactId ∧ lastNamed provenance document artifactId = some t' ∧
      (sourceOf provenance t').sourceSha256 = (sourceOf provenance t).sourceSha256

end

/-! ## Identifiers -/

theorem uuid4_version {cs : List Char} (h : isUuid4 cs = true) : cs.getD 14 ' ' = '4' := by
  have hall := (of_decide_eq_true h).2
  simpa using List.all_eq_true.1 hall 14 (by decide)

/-- a version 4 UUID has no capital letter -/
theorem uuid4_lower {cs : List Char} (h : isUuid4 cs = true) : cs.map Char.toLower = cs := by
  obtain ⟨hlength, hall⟩ := of_decide_eq_true h
  have hset : "0123456789abcdef-".toList.all (fun d => d.toLower = d) = true := by decide
  have hlower : ∀ c ∈ cs, Char.toLower c = id c := by
    intro c hc
    obtain ⟨i, hi, rfl⟩ := List.getElem_of_mem hc
    have hchar := List.all_eq_true.1 hall i (List.mem_range.2 (by omega))
    have hget : cs.getD i ' ' = cs[i] := by simp [hi]
    simp only [hget] at hchar
    refine of_decide_eq_true (List.all_eq_true.1 hset cs[i] ?_)
    split_ifs at hchar with hdash hfour hvariant
    · rw [of_decide_eq_true hchar]
      decide
    · rw [of_decide_eq_true hchar]
      decide
    · have hsub : "89ab".toList.all (fun d => "0123456789abcdef-".toList.contains d) = true := by decide
      exact List.contains_iff_mem.1 (List.all_eq_true.1 hsub _ (List.contains_iff_mem.1 hchar))
    · exact List.mem_append_left ['-'] (List.contains_iff_mem.1 hchar)
  rw [List.map_congr_left hlower, List.map_id]

theorem lowered_of_uuid4 {s : String} (h : isUuid4 (Py.chars s) = true) : lowered s = s := by
  rw [lowered, uuid4_lower h, Py.chars_eq, String.ofList_toList]

theorem madeId_version (t : SealedText) : (Py.chars (lowered (lowered (madeId t)))).getD 14 ' ' = '5' := by
  simp only [lowered, Py.chars_eq, String.toList_ofList, madeId, Uuid.str]
  rfl

/-- no citation can name the identifier that is made from a key -/
theorem madeId_refused (t : SealedText) : isUuid4 (Py.chars (lowered (lowered (madeId t)))) = false := by
  by_contra h
  have hfour := uuid4_version (Bool.not_eq_false _ ▸ h)
  rw [madeId_version] at hfour
  exact absurd hfour (by decide)

section

variable (provenance : List (String × Json))

theorem artifactOf_uuid4 {t : SealedText} {artifactId : String} (h : artifactOf provenance t = some artifactId) :
    isUuid4 (Py.chars artifactId) = true := by
  unfold artifactOf at h
  split at h
  · split_ifs at h with huuid
    cases h
    exact huuid
  · cases h

@[simp] theorem sourceId_sourceOf (t : SealedText) :
    (sourceOf provenance t).sourceId = (artifactOf provenance t).getD (madeId t) := by
  have hchars : ∀ s, Py.chars (lowered s) = (Py.chars s).map Char.toLower := by
    intro s
    rw [lowered, Py.chars_eq, String.toList_ofList]
  simp only [sourceOf, citableSource, provenanceSourceId, artifactOf, hchars]
  cases provenanceText "source_artifact_id" (Json.member t.pointer provenance) with
  | none => rfl
  | some artifactId =>
    simp only
    split_ifs <;> rfl

@[simp] theorem text_sourceOf (t : SealedText) : (sourceOf provenance t).text = t.text := rfl

/-! ## Where the texts are filed -/

theorem controlSources_eq (controlId : String) (control : Json) :
    controlSources provenance controlId control =
      (sealedStatement controlId control).toList.flatMap fun t => (namesOf provenance t).map (·, sourceOf provenance t) := by
  unfold controlSources sealedStatement
  cases citableText "implementation_statement" control with
  | none => rfl
  | some statement =>
    simp only [Option.map_some, Option.toList_some, List.flatMap_cons, List.flatMap_nil, List.append_nil, namesOf, if_true,
      List.map_cons, List.map_nil, ← sourceId_sourceOf]
    rfl

theorem evidenceSources_eq (artifactId : String) (evidence : Json) :
    evidenceSources provenance artifactId evidence =
      (sealedSummary artifactId evidence).toList.flatMap fun t => (namesOf provenance t).map (·, sourceOf provenance t) := by
  unfold evidenceSources sealedSummary
  cases citableText "summary" evidence with
  | none => rfl
  | some summary =>
    simp only [Option.map_some, Option.toList_some, List.flatMap_cons, List.flatMap_nil, List.append_nil, namesOf,
      Bool.false_eq_true, if_false, List.map_cons, List.map_nil, ← sourceId_sourceOf]
    rfl

/-- each text is assigned under each of its names -/
theorem sourceAssignments_eq (document : List (String × Json)) :
    sourceAssignments document provenance =
      (sealedTexts document).flatMap fun t => (namesOf provenance t).map (·, sourceOf provenance t) := by
  simp only [sourceAssignments, sealedTexts, List.flatMap_append, controlSources_eq, evidenceSources_eq,
    List.filterMap_eq_flatMap_toList, List.flatMap_assoc]

theorem find?_named (s : CitableSource) (names : List String) (name : String) :
    ((names.map fun n => (n, s)).find? fun p => p.1 == name) = if name ∈ names then some (name, s) else none := by
  induction names with
  | nil => rfl
  | cons n names ih =>
    rw [List.map_cons, List.find?_cons]
    by_cases hn : n = name
    · simp [hn]
    · rw [beq_false_of_ne hn, ih]
      simp [Ne.symm hn]

/-- what is filed under a name is the last text with that name -/
theorem get?_sources (document : List (String × Json)) (name : String) :
    KeyedList.get? Prod.fst name (buildSealedCitableSources document provenance) =
      (lastNamed provenance document name).map fun t => (name, sourceOf provenance t) := by
  rw [buildSealedCitableSources, KeyedList.get?_ofList, KeyedList.get?, sourceAssignments_eq, List.reverse_flatMap,
    List.find?_flatMap, lastNamed]
  induction (sealedTexts document).reverse with
  | nil => rfl
  | cons t ts ih =>
    have hhead : (((namesOf provenance t).map fun n => (n, sourceOf provenance t)).reverse.find? fun p => p.1 == name) =
        if name ∈ namesOf provenance t then some (name, sourceOf provenance t) else none := by
      rw [← List.map_reverse, find?_named]
      simp
    rw [List.findSome?_cons, List.find?_cons, Function.comp_apply, hhead]
    by_cases hname : name ∈ namesOf provenance t
    · simp [hname]
    · rw [if_neg hname, decide_eq_false hname]
      exact ih

end

/-! ## Acceptance -/

theorem validateCitations_single (citation : Citation) (sources : List (String × CitableSource)) :
    validateCitations [citation] sources = .ok () ↔ validateOneCitation citation sources = .ok () := by
  simp only [validateCitations, List.forM_eq_forM, List.forM_cons, List.forM_nil]
  cases validateOneCitation citation sources with
  | error e => simp [bind, Except.bind]
  | ok u => simp [bind, Except.bind, pure, Except.pure]

/-- the text between two offsets -/
def excerpt (source : CitableSource) (startOffset endOffset : Nat) : List Char :=
  ((Py.chars source.text).take endOffset).drop startOffset

/-- a citation that was built is accepted when its source is found again under its identifier -/
theorem validateOneCitation_built {source : CitableSource} {sources : List (String × CitableSource)}
    {startOffset endOffset : Nat} (hsha : Audit.isSha256 source.sourceSha256 = true) (hlt : startOffset < endOffset) :
    validateOneCitation (buildEvidenceCitation source startOffset endOffset) sources = .ok () ↔
      isUuid4 (Py.chars (lowered (lowered source.sourceId))) = true ∧
        ∃ found, citedSource sources (lowered source.sourceId) = some found ∧
          found.sourceSha256 = source.sourceSha256 ∧ endOffset ≤ (Py.chars found.text).length ∧
          deriveChunkId source.sourceSha256 startOffset endOffset (excerpt source startOffset endOffset) =
            deriveChunkId found.sourceSha256 startOffset endOffset (excerpt found startOffset endOffset) := by
  have hkind : citationText "source_kind" (buildEvidenceCitation source startOffset endOffset) = some "evidence" := rfl
  have hdigest : citationText "source_sha256" (buildEvidenceCitation source startOffset endOffset) =
      some source.sourceSha256 := rfl
  have hid : citationText "source_id" (buildEvidenceCitation source startOffset endOffset) =
      some (lowered source.sourceId) := rfl
  have hstart : citationOffset "start_offset" (buildEvidenceCitation source startOffset endOffset) =
      some (startOffset : Int) := rfl
  have hend : citationOffset "end_offset" (buildEvidenceCitation source startOffset endOffset) =
      some (endOffset : Int) := rfl
  have hchunk : citationText "chunk_id" (buildEvidenceCitation source startOffset endOffset) =
      some (deriveChunkId source.sourceSha256 startOffset endOffset (excerpt source startOffset endOffset)) := rfl
  simp only [validateOneCitation, validateEvidenceCitation, hkind, hdigest, hid, hstart, hend, hchunk, hsha,
    Results.bind_eq_ok, Results.ensure_eq_ok, Results.orRaise_eq_ok, Option.some.injEq, exists_eq_left', true_or,
    if_true, exists_const, true_and, Int.toNat_natCast]
  refine and_congr_right fun _ => exists_congr fun found => and_congr_right fun _ => and_congr_right fun _ =>
    and_congr ?_ Iff.rfl
  omega

theorem sha256Hex_isSha256 (cs : List Char) : Audit.isSha256 (Sha.sha256Hex cs) = true :=
  Audit.isSha256_of_hex (Sha.sha256Hex_length cs) (Sha.sha256Hex_digits cs)

section

variable (provenance document : List (String × Json))

theorem isSha256_sourceOf (t : SealedText) : Audit.isSha256 (sourceOf provenance t).sourceSha256 = true := by
  simp only [sourceOf, citableSource, sourceSha256ForPointer]
  cases provenanceText "source_sha256" (Json.member t.pointer provenance) with
  | none => exact sha256Hex_isSha256 _
  | some digest =>
    simp only
    split_ifs with h
    · exact h
    · exact sha256Hex_isSha256 _

theorem hasText_of_mem {t : SealedText} (h : t ∈ sealedTexts document) : Py.hasText t.text = true := by
  have htext : ∀ {field : String} {entry : Json} {text : String}, citableText field entry = some text →
      Py.hasText text = true := by
    intro field entry text hcitable
    simp only [citableText, Option.bind_eq_bind, Option.bind_eq_some_iff] at hcitable
    obtain ⟨_, _, _, _, _, _, hsome⟩ := hcitable
    split_ifs at hsome with hblank
    cases hsome
    exact hblank
  rcases List.mem_append.1 h with h | h
  all_goals
    obtain ⟨p, _, hp⟩ := List.mem_filterMap.1 h
    obtain ⟨text, hcitable, rfl⟩ := Option.map_eq_some_iff.1 hp
    exact htext hcitable

theorem one_le_length {t : SealedText} (h : t ∈ sealedTexts document) : 1 ≤ (Py.chars t.text).length := by
  obtain ⟨c, hc, _⟩ := Py.hasText_iff.1 (hasText_of_mem document h)
  rw [Py.chars_eq]
  exact List.length_pos_of_mem hc

theorem mem_of_lastNamed {name : String} {t : SealedText} (h : lastNamed provenance document name = some t) :
    t ∈ sealedTexts document ∧ name ∈ namesOf provenance t := by
  have hname : decide (name ∈ namesOf provenance t) = true := List.find?_some (p := fun t => name ∈ namesOf provenance t) h
  exact ⟨List.mem_reverse.1 (List.mem_of_find?_eq_some h), of_decide_eq_true hname⟩

/-- every citation that can be built from a source is accepted -/
def AllAccepted : Prop :=
  ∀ p ∈ buildSealedCitableSources document provenance, ∀ startOffset endOffset : Nat, startOffset < endOffset →
    endOffset ≤ (Py.chars p.2.text).length →
      validateCitations [buildEvidenceCitation p.2 startOffset endOffset]
        (buildSealedCitableSources document provenance) = .ok ()

/-- under each of its names, a text is found: no text that differs has replaced it -/
def TextsKept : Prop :=
  ∀ t ∈ sealedTexts document, ∀ name ∈ namesOf provenance t,
    ∃ p, KeyedList.get? Prod.fst name (buildSealedCitableSources document provenance) = some p ∧ p.2.text = t.text

variable {provenance document}

theorem citedSource_artifact {artifactId : String} (h : isUuid4 (Py.chars artifactId) = true) :
    citedSource (buildSealedCitableSources document provenance) artifactId =
      (lastNamed provenance document artifactId).map (sourceOf provenance) := by
  rw [citedSource, lowered_of_uuid4 h, Option.or_self, get?_sources, Option.map_map]
  rfl

/-- what the acceptance of one citation says about a source -/
theorem artifact_of_accepted {t : SealedText} {startOffset endOffset : Nat} (hlt : startOffset < endOffset)
    (h : validateCitations [buildEvidenceCitation (sourceOf provenance t) startOffset endOffset]
      (buildSealedCitableSources document provenance) = .ok ()) :
    ∃ artifactId t', artifactOf provenance t = some artifactId ∧
      lastNamed provenance document artifactId = some t' ∧
      (sourceOf provenance t').sourceSha256 = (sourceOf provenance t).sourceSha256 := by
  rw [validateCitations_single, validateOneCitation_built (isSha256_sourceOf provenance t) hlt, sourceId_sourceOf] at h
  obtain ⟨huuid, found, hfound, hsha, _⟩ := h
  cases hartifact : artifactOf provenance t with
  | none =>
    rw [hartifact, Option.getD_none, madeId_refused] at huuid
    cases huuid
  | some artifactId =>
    have hid := artifactOf_uuid4 provenance hartifact
    rw [hartifact, Option.getD_some, lowered_of_uuid4 hid, citedSource_artifact hid] at hfound
    obtain ⟨t', hlast, rfl⟩ := Option.map_eq_some_iff.1 hfound
    exact ⟨artifactId, t', rfl, hlast, hsha⟩

theorem accepted_of_citable (h : Citable provenance document) : AllAccepted provenance document := by
  rintro ⟨name, source⟩ hp startOffset endOffset hlt hle
  have hget := (KeyedList.get?_eq_some (KeyedList.distinct_ofList _)).2 ⟨hp, rfl⟩
  obtain ⟨t, hlast, heq⟩ := Option.map_eq_some_iff.1 ((get?_sources provenance document name).symm.trans hget)
  cases heq
  obtain ⟨artifactId, t', hartifact, hlast', hsha⟩ := h.artifacts _ t hlast
  have hid := artifactOf_uuid4 provenance hartifact
  have hown : artifactId ∈ namesOf provenance t := by
    rw [namesOf, hartifact]
    exact List.mem_cons_self
  obtain ⟨ht, _⟩ := mem_of_lastNamed provenance document hlast
  obtain ⟨ht', hname⟩ := mem_of_lastNamed provenance document hlast'
  have htext : t'.text = t.text := h.texts t' ht' t ht artifactId hname hown
  rw [validateCitations_single, validateOneCitation_built (isSha256_sourceOf provenance t) hlt, sourceId_sourceOf,
    hartifact, Option.getD_some, lowered_of_uuid4 hid, lowered_of_uuid4 hid, citedSource_artifact hid, hlast']
  refine ⟨hid, _, rfl, hsha, ?_, ?_⟩
  · rw [text_sourceOf, htext]
    exact hle
  · rw [hsha, excerpt, excerpt, text_sourceOf, text_sourceOf, htext]

theorem lastNamed_of_mem {t : SealedText} {name : String} (ht : t ∈ sealedTexts document)
    (hname : name ∈ namesOf provenance t) : ∃ t', lastNamed provenance document name = some t' := by
  refine Option.isSome_iff_exists.1 (List.find?_isSome.2 ⟨t, List.mem_reverse.2 ht, decide_eq_true hname⟩)

/-- exactly when every citation is accepted and no text has replaced a different one -/
theorem citations_accepted_iff (provenance document : List (String × Json)) :
    AllAccepted provenance document ∧ TextsKept provenance document ↔ Citable provenance document := by
  constructor
  · rintro ⟨haccepted, hkept⟩
    refine ⟨fun t ht t' ht' name hname hname' => ?_, fun name t hlast => ?_⟩
    · obtain ⟨p, hp, htext⟩ := hkept t ht name hname
      obtain ⟨p', hp', htext'⟩ := hkept t' ht' name hname'
      rw [hp] at hp'
      cases hp'
      rw [← htext, htext']
    · have hget := get?_sources provenance document name
      rw [hlast, Option.map_some] at hget
      exact artifact_of_accepted (by decide)
        (haccepted _ (KeyedList.mem_of_get? hget) 0 1 (by decide)
          (one_le_length document (mem_of_lastNamed provenance document hlast).1))
  · intro h
    refine ⟨accepted_of_citable h, fun t ht name hname => ?_⟩
    obtain ⟨t', hlast⟩ := lastNamed_of_mem ht hname
    obtain ⟨ht', hname'⟩ := mem_of_lastNamed provenance document hlast
    refine ⟨(name, sourceOf provenance t'), ?_, h.texts t' ht' t ht name hname' hname⟩
    rw [get?_sources, hlast, Option.map_some]

end

def statementDocument : List (String × Json) :=
  [("security_controls", .obj [("AC-2", .obj [("implementation_statement", .str "Accounts are reviewed.")])])]

/-- a statement without an artifact: the citation that is built from its source is refused -/
theorem statement_without_artifact_refused :
    ∃ p ∈ buildSealedCitableSources statementDocument [], p.2.text = "Accounts are reviewed." ∧
      validateCitations [buildEvidenceCitation p.2 0 1] (buildSealedCitableSources statementDocument []) ≠ .ok () := by
  have hlast : lastNamed [] statementDocument "AC-2" =
      some ⟨"/security_controls/AC-2/implementation_statement", "AC-2", "Accounts are reviewed.", true⟩ := by
    have htexts : sealedTexts statementDocument =
        [⟨"/security_controls/AC-2/implementation_statement", "AC-2", "Accounts are reviewed.", true⟩] := by decide
    rw [lastNamed, htexts, List.reverse_singleton, List.find?_singleton, if_pos]
    exact decide_eq_true (List.mem_cons_of_mem _ (List.mem_singleton.2 rfl))
  have hget := get?_sources [] statementDocument "AC-2"
  rw [hlast, Option.map_some] at hget
  refine ⟨_, KeyedList.mem_of_get? hget, rfl, fun haccepted => ?_⟩
  obtain ⟨artifactId, _, hartifact, _⟩ := artifact_of_accepted (by decide) haccepted
  cases hartifact

end AtoService.Matrix
