/-
What the prompt of a batch holds of the sealed texts.

- `packRankedEntries`, `entryById` and the excerpts decide it: `holdsAll_iff` says when every sealed text is in the prompt in
  full. It has to be short enough, alone under its identifier, and packed.
- `pack_perm`: what is packed and what is left out are the entries.
- `holdsCited_of_holdsAll`: a citation that was validated names an entry of such a prompt.
-/
import AtoService.Matrix.Acceptance

namespace AtoService.Matrix

open Results
open AtoService.Sealed (CitableSource citableText controlSources evidenceSources sectionItems sourceAssignments)

/-! ## Packing -/

theorem pack_cons_fits {remaining : Nat} {e : RankedPackEntry} {es : List RankedPackEntry}
    (h : e.tokenEstimate ≤ remaining) : packRankedEntries remaining (e :: es) =
      (e.entryId :: (packRankedEntries (remaining - e.tokenEstimate) es).1,
        (packRankedEntries (remaining - e.tokenEstimate) es).2) := by
  rw [packRankedEntries, if_pos h]

theorem pack_cons_omits {remaining : Nat} {e : RankedPackEntry} {es : List RankedPackEntry}
    (h : ¬e.tokenEstimate ≤ remaining) : packRankedEntries remaining (e :: es) =
      ((packRankedEntries remaining es).1, e.entryId :: (packRankedEntries remaining es).2) := by
  rw [packRankedEntries, if_neg h]

theorem pack_perm (remaining : Nat) (entries : List RankedPackEntry) :
    ((packRankedEntries remaining entries).1 ++ (packRankedEntries remaining entries).2).Perm
      (entries.map RankedPackEntry.entryId) := by
  induction entries generalizing remaining with
  | nil => exact List.Perm.refl _
  | cons e es ih =>
    by_cases hfits : e.tokenEstimate ≤ remaining
    · rw [pack_cons_fits hfits, List.map_cons, List.cons_append]
      exact (ih _).cons _
    · rw [pack_cons_omits hfits, List.map_cons]
      exact List.perm_middle.trans ((ih _).cons _)

/-! ## Prompts -/

section

variable (profile : Profile) (content : SealedContent) (inputBudgetTokens : Nat)

/-- the statements and summaries that can be cited, one for each -/
def sealedSources : List CitableSource :=
  ((sectionItems "security_controls" content.document).flatMap fun p =>
      ((controlSources content.fieldProvenance p.1 p.2).take 1).map Prod.snd) ++
    (sectionItems "evidence" content.document).flatMap fun p =>
      (evidenceSources content.fieldProvenance p.1 p.2).map Prod.snd

/-- every sealed text is in the prompt, in full, also one whose key was assigned again -/
def HoldsAll (bundle : FactBundle) : Prop :=
  ∀ s ∈ sealedSources content, ∃ e ∈ bundle.promptSources,
    e.sourceId = s.sourceId ∧ e.sourceSha256 = s.sourceSha256 ∧ e.text = s.text

/-- the entry that a citation names, in any case of its letters -/
def Names (citation : Citation) (e : PromptEntry) : Prop :=
  ∃ sourceId, citationText "source_id" citation = some sourceId ∧ (e.sourceId = lowered sourceId ∨ e.sourceId = sourceId)

/-- every citation of evidence names an entry of the prompt -/
def HoldsCited (bundle : FactBundle) (citations : List Json) : Prop :=
  ∀ citation, Json.obj citation ∈ citations → citationText "source_kind" citation = some "evidence" →
    ∃ e ∈ bundle.promptSources, Names citation e

def fixedTokens (batch : List String) (assessmentItems : List Json) : Nat :=
  estimateTokensFromObject (fixedPayload profile.profileId (modelIds profile batch) assessmentItems)

/-- the identifiers that the packing of a batch includes -/
def packedIds (batch : List String) (assessmentItems : List Json) : List String :=
  (packRankedEntries (inputBudgetTokens - fixedTokens profile batch assessmentItems)
    (((indexEvidenceSources content).map promptEntry).map fun e => ⟨e.sourceId, estimateTokensFromObject e.dict⟩)).1

/-- no sealed text is longer than an excerpt, texts under one identifier are one text, and the budget has room for each -/
structure PromptComplete (batch : List String) : Prop where
  short : ∀ s ∈ sealedSources content, (Py.chars s.text).length ≤ maxEvidenceExcerptChars
  agree : ∀ s ∈ sealedSources content, ∀ s' ∈ sealedSources content, s.sourceId = s'.sourceId →
    s.sourceSha256 = s'.sourceSha256 ∧ s.text = s'.text
  packed : ∀ assessmentItems, (modelIds profile batch).mapM (assessmentItemForPrompt profile) = .ok assessmentItems →
    ∀ s ∈ sealedSources content, s.sourceId ∈ packedIds profile content inputBudgetTokens batch assessmentItems

end

section

variable {profile : Profile} {content : SealedContent} {inputBudgetTokens : Nat}

/-- the entries of the prompt, by the packing -/
theorem promptSources_of_ok {batch : List String} {bundle : FactBundle}
    (h : buildFactBundle profile (modelIds profile batch) content inputBudgetTokens = .ok bundle) :
    ∃ assessmentItems, (modelIds profile batch).mapM (assessmentItemForPrompt profile) = .ok assessmentItems ∧
      bundle.promptSources = (packedIds profile content inputBudgetTokens batch assessmentItems).filterMap fun k =>
        KeyedList.get? PromptEntry.sourceId k
          (KeyedList.ofList PromptEntry.sourceId ((indexEvidenceSources content).map promptEntry)) := by
  simp only [buildFactBundle, bind_eq_ok, ensure_eq_ok, pure_eq_ok] at h
  obtain ⟨_, -, assessmentItems, hitems, _, -, rfl⟩ := h
  exact ⟨assessmentItems, hitems, rfl⟩

theorem mem_entryById {k : String} {e : PromptEntry} {sources : List EvidenceSource}
    (h : KeyedList.get? PromptEntry.sourceId k (KeyedList.ofList PromptEntry.sourceId (sources.map promptEntry)) = some e) :
    ∃ s ∈ sources, s.sourceId = k ∧ e = promptEntry s := by
  obtain ⟨hmem, hkey⟩ := (KeyedList.get?_eq_some (KeyedList.distinct_ofList _)).1 h
  obtain ⟨s, hs, rfl⟩ := List.mem_map.1 (KeyedList.mem_ofList hmem)
  exact ⟨s, hs, hkey, rfl⟩

theorem promptEntry_text {s : EvidenceSource} (h : (Py.chars s.text).length ≤ maxEvidenceExcerptChars) :
    (promptEntry s).text = s.text := by
  rw [promptEntry, capExcerpt, if_pos h]

theorem length_promptEntry_text (s : EvidenceSource) :
    (Py.chars (promptEntry s).text).length ≤ maxEvidenceExcerptChars := by
  rw [promptEntry, capExcerpt]
  split_ifs with h
  · exact h
  · rw [Py.chars_eq, String.toList_ofList, List.length_take]
    exact min_le_left _ _

theorem mem_sealedSources_of_assigned {p : String × CitableSource}
    (h : p ∈ sourceAssignments content.document content.fieldProvenance) : p.2 ∈ sealedSources content := by
  rw [sourceAssignments, List.mem_append, List.mem_flatMap, List.mem_flatMap] at h
  rw [sealedSources, List.mem_append, List.mem_flatMap, List.mem_flatMap]
  rcases h with ⟨c, hc, hp⟩ | ⟨e, he, hp⟩
  · refine Or.inl ⟨c, hc, ?_⟩
    unfold controlSources at hp ⊢
    cases hstatement : citableText "implementation_statement" c.2 with
    | none =>
      rw [hstatement] at hp
      cases hp
    | some statement =>
      rw [hstatement] at hp
      rcases List.mem_cons.1 hp with rfl | hp
      · exact List.mem_singleton.2 rfl
      · rw [List.mem_singleton.1 hp]
        exact List.mem_singleton.2 rfl
  · exact Or.inr ⟨e, he, List.mem_map_of_mem hp⟩

/-- what is indexed was sealed -/
theorem mem_sealedSources_of_indexed {s : EvidenceSource} (h : s ∈ indexEvidenceSources content) :
    ∃ c ∈ sealedSources content, c.sourceId = s.sourceId ∧ c.sourceSha256 = s.sourceSha256 ∧ c.text = s.text := by
  rw [indexEvidenceSources, List.mem_insertionSort] at h
  obtain ⟨p, hp, rfl⟩ := List.mem_map.1 h
  exact ⟨p.2, mem_sealedSources_of_assigned (KeyedList.mem_ofList hp), rfl, rfl, rfl⟩

/-- **When the prompt holds every sealed text in full.** -/
theorem holdsAll_iff {batch : List String} {bundle : FactBundle}
    (h : buildFactBundle profile (modelIds profile batch) content inputBudgetTokens = .ok bundle) :
    HoldsAll content bundle ↔ PromptComplete profile content inputBudgetTokens batch := by
  obtain ⟨assessmentItems, hitems, hprompt⟩ := promptSources_of_ok h
  constructor
  · intro hall
    have hentry : ∀ s ∈ sealedSources content, ∃ k ∈ packedIds profile content inputBudgetTokens batch assessmentItems,
        ∃ e, KeyedList.get? PromptEntry.sourceId k
          (KeyedList.ofList PromptEntry.sourceId ((indexEvidenceSources content).map promptEntry)) = some e ∧
          k = s.sourceId ∧ e.sourceSha256 = s.sourceSha256 ∧ e.text = s.text := by
      intro s hs
      obtain ⟨e, he, hid, hsha, htext⟩ := hall s hs
      rw [hprompt] at he
      obtain ⟨k, hk, hget⟩ := List.mem_filterMap.1 he
      obtain ⟨-, hkey⟩ := (KeyedList.get?_eq_some (KeyedList.distinct_ofList _)).1 hget
      exact ⟨k, hk, e, hget, hkey.symm.trans hid, hsha, htext⟩
    refine ⟨fun s hs => ?_, fun s hs s' hs' hid => ?_, fun items hitems' s hs => ?_⟩
    · obtain ⟨k, -, e, hget, -, -, htext⟩ := hentry s hs
      obtain ⟨s', -, -, rfl⟩ := mem_entryById hget
      rw [← htext]
      exact length_promptEntry_text s'
    · obtain ⟨k, -, e, hget, hk, hsha, htext⟩ := hentry s hs
      obtain ⟨k', -, e', hget', hk', hsha', htext'⟩ := hentry s' hs'
      rw [hk'] at hget'
      rw [hk, hid, hget'] at hget
      obtain rfl := Option.some.inj hget
      exact ⟨hsha.symm.trans hsha', htext.symm.trans htext'⟩
    · rw [hitems] at hitems'
      obtain rfl := Except.ok.inj hitems'
      obtain ⟨k, hk, e, -, rfl, -, -⟩ := hentry s hs
      exact hk
  · intro hcomplete s hs
    have hpacked := hcomplete.packed assessmentItems hitems s hs
    have hsome : (KeyedList.get? PromptEntry.sourceId s.sourceId
        (KeyedList.ofList PromptEntry.sourceId ((indexEvidenceSources content).map promptEntry))).isSome := by
      have hindexed := (pack_perm _ _).mem_iff.1 (List.mem_append_left _ hpacked)
      rw [List.map_map] at hindexed
      exact KeyedList.get?_isSome.2 (KeyedList.mem_keys_ofList.2 hindexed)
    obtain ⟨e, hget⟩ := Option.isSome_iff_exists.1 hsome
    obtain ⟨s', hs', hid, rfl⟩ := mem_entryById hget
    obtain ⟨c, hc, hcid, hcsha, hctext⟩ := mem_sealedSources_of_indexed hs'
    have hwhole : (promptEntry s').text = s'.text := by
      have hlength := hcomplete.short c hc
      rw [hctext] at hlength
      exact promptEntry_text hlength
    obtain ⟨hsha, htext⟩ := hcomplete.agree c hc s hs (hcid.trans hid)
    refine ⟨promptEntry s', ?_, hid, hcsha.symm.trans hsha, hwhole.trans (hctext.symm.trans htext)⟩
    rw [hprompt]
    exact List.mem_filterMap.2 ⟨s.sourceId, hpacked, hget⟩

theorem mem_sourcesById {sources : List EvidenceSource} {k : String} {p : String × CitableSource}
    (h : KeyedList.get? Prod.fst k (sourcesById sources) = some p) : ∃ s ∈ sources, s.sourceId = k := by
  obtain ⟨hmem, hkey⟩ := (KeyedList.get?_eq_some (KeyedList.distinct_ofList _)).1 h
  obtain ⟨s, hs, rfl⟩ := List.mem_map.1 (KeyedList.mem_ofList hmem)
  exact ⟨s, hs, hkey⟩

/-- a citation of evidence that was validated names one of the sources -/
theorem names_of_validated {sources : List EvidenceSource} {citation : Citation}
    (h : validateOneCitation citation (sourcesById sources) = .ok ())
    (hkind : citationText "source_kind" citation = some "evidence") :
    ∃ s ∈ sources, ∃ sourceId, citationText "source_id" citation = some sourceId ∧
      (s.sourceId = lowered sourceId ∨ s.sourceId = sourceId) := by
  simp only [validateOneCitation, bind_eq_ok, ensure_eq_ok, orRaise_eq_ok] at h
  obtain ⟨_, -, sha, -, _, -, h⟩ := h
  rw [if_pos hkind] at h
  simp only [validateEvidenceCitation, bind_eq_ok, ensure_eq_ok, orRaise_eq_ok] at h
  obtain ⟨sourceId, hid, _, -, source, hsource, -⟩ := h
  rw [citedSource] at hsource
  obtain ⟨p, hp, -⟩ := Option.map_eq_some_iff.1 hsource
  rcases Option.or_eq_some_iff.1 hp with hp | ⟨-, hp⟩
  · obtain ⟨s, hs, hkey⟩ := mem_sourcesById hp
    exact ⟨s, hs, sourceId, hid, Or.inl hkey⟩
  · obtain ⟨s, hs, hkey⟩ := mem_sourcesById hp
    exact ⟨s, hs, sourceId, hid, Or.inr hkey⟩

theorem validateOneCitation_of_validated {sources : List (String × CitableSource)} {citations : List Citation}
    (h : validateCitations citations sources = .ok ()) : ∀ citation ∈ citations, validateOneCitation citation sources = .ok () := by
  induction citations with
  | nil => exact fun _ hmem => absurd hmem List.not_mem_nil
  | cons c citations ih =>
    obtain ⟨_, hhead, htail⟩ := bind_eq_ok.1 h
    intro citation hmem
    rcases List.mem_cons.1 hmem with rfl | hmem
    · exact hhead
    · exact ih htail citation hmem

theorem holdsCited_of_holdsAll {bundle : FactBundle} (hall : HoldsAll content bundle) {citations : List Citation}
    (h : validateCitations citations (sourcesById (indexEvidenceSources content)) = .ok ()) :
    HoldsCited bundle (citations.map Json.obj) := by
  intro citation hmem hkind
  obtain ⟨c, hc, heq⟩ := List.mem_map.1 hmem
  obtain rfl := Json.obj.inj heq
  obtain ⟨s, hs, sourceId, hid, hname⟩ := names_of_validated (validateOneCitation_of_validated h c hc) hkind
  obtain ⟨c, hc, hcid, -, -⟩ := mem_sealedSources_of_indexed hs
  obtain ⟨e, he, hsame, -, -⟩ := hall c hc
  refine ⟨e, he, sourceId, hid, ?_⟩
  rw [hsame, hcid]
  exact hname

end

end AtoService.Matrix
