/-
Greedy packing of ranked entries: what is included and what is left out.

`packRankedEntries` goes through the entries once and takes each that fits in what remains. The two lists share the entries
out between them (`pack_perm`); nothing is left out exactly where all entries together fit (`pack_omits_none_iff`).
-/
import AtoService.Matrix.Prompt

namespace AtoService.Matrix

open Results
open AtoService.Sealed (CitableSource buildSealedCitableSources citableText controlSources evidenceSources sectionItems
  sourceAssignments)

def totalTokens (entries : List RankedPackEntry) : Nat := (entries.map RankedPackEntry.tokenEstimate).sum

/-- what was included and what was left out are the inputs, none twice -/
structure Partitions (inputs included omitted : List String) : Prop where
  all : (included ++ omitted).Perm inputs
  once : (included ++ omitted).Nodup

theorem partitions_iff {inputs included omitted : List String} (h : (included ++ omitted).Perm inputs) :
    Partitions inputs included omitted ↔ inputs.Nodup := by
  constructor
  · intro hpart
    exact hpart.all.nodup_iff.1 hpart.once
  · intro hnodup
    exact ⟨h, h.nodup_iff.2 hnodup⟩

/-- nothing is left out exactly where the entries fit together -/
theorem pack_omits_none_iff (remaining : Nat) (entries : List RankedPackEntry) :
    (packRankedEntries remaining entries).2 = [] ↔ totalTokens entries ≤ remaining := by
  induction entries generalizing remaining with
  | nil => simp [packRankedEntries, totalTokens]
  | cons e es ih =>
    have htotal : totalTokens (e :: es) = e.tokenEstimate + totalTokens es := rfl
    by_cases hfits : e.tokenEstimate ≤ remaining
    · rw [pack_cons_fits hfits, ih, htotal]
      omega
    · rw [pack_cons_omits hfits, htotal]
      exact iff_of_false (List.cons_ne_nil _ _) (by omega)

theorem pack_included_of_fits {remaining : Nat} {entries : List RankedPackEntry} (h : totalTokens entries ≤ remaining) :
    (packRankedEntries remaining entries).1.Perm (entries.map RankedPackEntry.entryId) := by
  have hperm := pack_perm remaining entries
  rwa [(pack_omits_none_iff remaining entries).2 h, List.append_nil] at hperm

/-! ## The matrix -/

section

variable (profile : Profile) (ids : List String) (content : SealedContent) (inputBudgetTokens : Nat)

def sealedIds : List String := (sealedSources content).map CitableSource.sourceId

/-- the identifiers of what is left under the keys; a statement has two of them, and keys are assigned again -/
def keptIds : List String :=
  (buildSealedCitableSources content.document content.fieldProvenance).map fun p => p.2.sourceId

def sourceEntries : List RankedPackEntry :=
  ((indexEvidenceSources content).map promptEntry).map fun e => ⟨e.sourceId, estimateTokensFromObject e.dict⟩

def sourceIds : List String := (indexEvidenceSources content).map EvidenceSource.sourceId

/-- the metadata and all sources fit the budget together -/
def SourcesFit : Prop :=
  ∀ items, ids.mapM (assessmentItemForPrompt profile) = .ok items →
    estimateTokensFromObject (fixedPayload profile.profileId ids items) + totalTokens (sourceEntries content) ≤
      inputBudgetTokens

/-- every sealed text is in the prompt in full where the bundle is called complete; else the prompt and the omitted
identifiers share the sealed texts out -/
structure NoSilentLoss (bundle : FactBundle) : Prop where
  full : bundle.contextComplete = true → ∀ s ∈ sealedSources content, ∃ e ∈ bundle.promptSources,
    e.sourceId = s.sourceId ∧ e.text = s.text
  shared : bundle.contextComplete = false →
    Partitions (sealedIds content) (bundle.promptSources.map PromptEntry.sourceId) bundle.omittedSourceIds

/-- no text is longer than an excerpt, each is left under some key, and those under one identifier are one text -/
structure SourcesWhole : Prop where
  short : ∀ s ∈ sealedSources content, (Py.chars s.text).length ≤ maxEvidenceExcerptChars
  kept : ∀ s ∈ sealedSources content, s.sourceId ∈ keptIds content
  agree : ∀ s ∈ sealedSources content, ∀ s' ∈ sealedSources content, s.sourceId = s'.sourceId → s.text = s'.text

/-- where all sources fit, they are whole; else the sealed texts have distinct identifiers and are kept once each -/
structure NothingLost : Prop where
  full : SourcesFit profile ids content inputBudgetTokens → SourcesWhole content
  distinct : ¬SourcesFit profile ids content inputBudgetTokens →
    (keptIds content).Perm (sealedIds content) ∧ (sealedIds content).Nodup

end

section

variable {profile : Profile} {ids : List String} {content : SealedContent} {inputBudgetTokens : Nat} {bundle : FactBundle}

theorem ids_sourceEntries (content : SealedContent) :
    (sourceEntries content).map RankedPackEntry.entryId = sourceIds content := by
  rw [sourceEntries, List.map_map, List.map_map]
  rfl

theorem sourceIds_perm (content : SealedContent) : (sourceIds content).Perm (keptIds content) := by
  rw [sourceIds, indexEvidenceSources]
  refine ((List.perm_insertionSort _ _).map EvidenceSource.sourceId).trans ?_
  rw [List.map_map]
  exact List.Perm.refl _

/-- the entry of an identifier; the last one, as a dict has it -/
def entryNamed (content : SealedContent) (sourceId : String) : Option PromptEntry :=
  KeyedList.get? PromptEntry.sourceId sourceId
    (KeyedList.ofList PromptEntry.sourceId ((indexEvidenceSources content).map promptEntry))

theorem entryNamed_isSome {sourceId : String} (h : sourceId ∈ sourceIds content) :
    (entryNamed content sourceId).isSome := by
  rw [entryNamed, KeyedList.get?_isSome, KeyedList.mem_keys_ofList, List.map_map]
  exact h

/-- a bundle packs the sources into what the metadata leaves -/
theorem buildFactBundle_packs (h : buildFactBundle profile ids content inputBudgetTokens = .ok bundle) :
    ∃ remaining, (SourcesFit profile ids content inputBudgetTokens ↔ totalTokens (sourceEntries content) ≤ remaining) ∧
      bundle.omittedSourceIds = (packRankedEntries remaining (sourceEntries content)).2 ∧
      bundle.contextComplete = (packRankedEntries remaining (sourceEntries content)).2.isEmpty ∧
      bundle.promptSources = (packRankedEntries remaining (sourceEntries content)).1.filterMap (entryNamed content) := by
  simp only [buildFactBundle, bind_eq_ok, ensure_eq_ok, pure_eq_ok] at h
  obtain ⟨-, -, items, hitems, -, hfixed, rfl⟩ := h
  refine ⟨_, ?_, rfl, rfl, rfl⟩
  constructor
  · intro hfit
    have htotal := hfit items hitems
    omega
  · intro htotal items' hitems'
    rw [hitems] at hitems'
    obtain rfl := Except.ok.inj hitems'
    omega

/-- the identifiers that were included are those of the prompt -/
theorem ids_promptSources {included : List String} (h : ∀ k ∈ included, k ∈ sourceIds content) :
    (included.filterMap (entryNamed content)).map PromptEntry.sourceId = included := by
  induction included with
  | nil => rfl
  | cons k included ih =>
    rw [List.forall_mem_cons] at h
    obtain ⟨e, he⟩ := Option.isSome_iff_exists.1 (entryNamed_isSome h.1)
    have hkey : e.sourceId = k := KeyedList.key_of_get? he
    rw [List.filterMap_cons_some he, List.map_cons, ih h.2, hkey]

/-- a prompt with every identifier has every sealed text in full when the sources are whole -/
theorem prompt_full_iff {included : List String} (h : included.Perm (sourceIds content)) :
    (∀ s ∈ sealedSources content, ∃ e ∈ included.filterMap (entryNamed content),
      e.sourceId = s.sourceId ∧ e.text = s.text) ↔ SourcesWhole content := by
  constructor
  · intro hfull
    have hentry : ∀ s ∈ sealedSources content, ∃ e, s.sourceId ∈ included ∧ entryNamed content s.sourceId = some e ∧
        e.text = s.text := by
      intro s hs
      obtain ⟨e, he, hid, htext⟩ := hfull s hs
      obtain ⟨k, hk, hget⟩ := List.mem_filterMap.1 he
      have hkey : e.sourceId = k := KeyedList.key_of_get? hget
      rw [← hid, hkey]
      exact ⟨e, hk, hget, htext⟩
    refine ⟨fun s hs => ?_, fun s hs => ?_, fun s hs s' hs' hid => ?_⟩
    · obtain ⟨e, -, he, htext⟩ := hentry s hs
      obtain ⟨s', -, -, rfl⟩ := mem_entryById he
      rw [← htext]
      exact length_promptEntry_text s'
    · obtain ⟨e, hk, -, -⟩ := hentry s hs
      exact (sourceIds_perm content).mem_iff.1 (h.mem_iff.1 hk)
    · obtain ⟨e, -, he, htext⟩ := hentry s hs
      obtain ⟨e', -, he', htext'⟩ := hentry s' hs'
      rw [hid, he'] at he
      obtain rfl := Option.some.inj he
      exact htext.symm.trans htext'
  · rintro ⟨hshort, hkept, hagree⟩ s hs
    have hindexed : s.sourceId ∈ sourceIds content := (sourceIds_perm content).mem_iff.2 (hkept s hs)
    obtain ⟨e, he⟩ := Option.isSome_iff_exists.1 (entryNamed_isSome hindexed)
    obtain ⟨s', hs', hid, rfl⟩ := mem_entryById he
    obtain ⟨c, hc, hcid, -, hctext⟩ := mem_sealedSources_of_indexed hs'
    have hwhole : (promptEntry s').text = s'.text := by
      have hlength := hshort c hc
      rw [hctext] at hlength
      exact promptEntry_text hlength
    have hsame : c.text = s.text := hagree c hc s hs (hcid.trans hid)
    refine ⟨promptEntry s', ?_, hid, hwhole.trans (hctext.symm.trans hsame)⟩
    exact List.mem_filterMap.2 ⟨s.sourceId, h.mem_iff.2 hindexed, he⟩

/-- the bundle of a batch loses nothing silently exactly where nothing is lost in its sources -/
theorem noSilentLoss_iff (h : buildFactBundle profile ids content inputBudgetTokens = .ok bundle) :
    NoSilentLoss content bundle ↔ NothingLost profile ids content inputBudgetTokens := by
  obtain ⟨remaining, hfit, homitted, hcomplete, hprompt⟩ := buildFactBundle_packs h
  have hperm := pack_perm remaining (sourceEntries content)
  rw [ids_sourceEntries] at hperm
  have hids : bundle.promptSources.map PromptEntry.sourceId = (packRankedEntries remaining (sourceEntries content)).1 := by
    rw [hprompt]
    exact ids_promptSources fun k hk => hperm.mem_iff.1 (List.mem_append_left _ hk)
  by_cases hfits : SourcesFit profile ids content inputBudgetTokens
  · have hnone := (pack_omits_none_iff remaining (sourceEntries content)).2 (hfit.1 hfits)
    have hincluded := pack_included_of_fits (hfit.1 hfits)
    rw [ids_sourceEntries] at hincluded
    rw [hnone] at hcomplete
    have hiff := prompt_full_iff hincluded
    rw [← hprompt] at hiff
    constructor
    · intro hloss
      exact ⟨fun _ => hiff.1 (hloss.full hcomplete), fun hnot => absurd hfits hnot⟩
    · intro hlost
      refine ⟨fun _ => hiff.2 (hlost.full hfits), fun hnot => ?_⟩
      rw [hcomplete] at hnot
      cases hnot
  · have hsome : (packRankedEntries remaining (sourceEntries content)).2 ≠ [] := by
      intro hnone
      exact hfits (hfit.2 ((pack_omits_none_iff _ _).1 hnone))
    have hincomplete : bundle.contextComplete = false := by
      rw [hcomplete, List.isEmpty_eq_false_iff]
      exact hsome
    have hkept : (bundle.promptSources.map PromptEntry.sourceId ++ bundle.omittedSourceIds).Perm (keptIds content) := by
      rw [hids, homitted]
      exact hperm.trans (sourceIds_perm content)
    constructor
    · intro hloss
      have hpart := hloss.shared hincomplete
      refine ⟨fun hyes => absurd hyes hfits, fun _ => ⟨hkept.symm.trans hpart.all, ?_⟩⟩
      exact hpart.all.nodup_iff.1 hpart.once
    · intro hlost
      refine ⟨fun hyes => ?_, fun _ => ?_⟩
      · rw [hincomplete] at hyes
        cases hyes
      · obtain ⟨hsealed, hnodup⟩ := hlost.distinct hfits
        exact (partitions_iff (hkept.trans hsealed)).2 hnodup

end

end AtoService.Matrix
