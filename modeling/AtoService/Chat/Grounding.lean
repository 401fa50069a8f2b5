/-
Citations of the chat model, and the texts that its prompt held.

A hit of the search carries the citation of a chunk, with offsets into the whole text of an artifact. The check looks a
text up by the identifier of the artifact: in the sealed content, and else in the first hit of the page from that
artifact, whose text is the chunk alone. `filed` is that text, and `citations_grounded_iff` says when the check accepts
the citation of each hit in the prompt, and no citation of anything else.
-/
import AtoService.Chat.Responses
import AtoService.Matrix.Bundle
import AtoService.Matrix.EvidenceCitations
import AtoService.Search.Paging

namespace AtoService.ChatResponse.Grounding

open Json Results
open AtoService.Matrix (Citation RankedPackEntry citationText citedSource lowered lowered_of_uuid4 packRankedEntries)
open AtoService.Sealed (CitableSource buildSealedCitableSources deriveChunkId isUuid4)
open AtoService.Search (PendingSearchChunk)
open AtoService.Search.Paging (chunkRowCitation)

/-! ## Hits -/

/-- a row of the search index, as it was written: the digest of its text and place is its identifier -/
structure IndexedRow where
  chunk : PendingSearchChunk
  artifact_uuid4 : isUuid4 (Py.chars chunk.artifactId) = true
  digest : Audit.isSha256 chunk.artifactSha256 = true
  nonempty : chunk.normalizedStart < chunk.normalizedEnd
  derived : chunk.chunkId =
    deriveChunkId chunk.artifactSha256 chunk.normalizedStart chunk.normalizedEnd chunk.text

/-- a hit, by the row that it is made of; its rank plays no part here -/
abbrev Hit := IndexedRow

namespace IndexedRow

variable (hit : Hit)

def chunkId : String := hit.chunk.chunkId

def artifactId : String := hit.chunk.artifactId

def citation : Citation := chunkRowCitation hit.chunk

def text : List Char := hit.chunk.text

/-- the text of the hit for a source -/
def source : CitableSource := ⟨hit.artifactId, hit.chunk.artifactSha256, String.ofList hit.text⟩

end IndexedRow

def addSource (sources : List (String × CitableSource)) (hit : Hit) : List (String × CitableSource) :=
  if (KeyedList.get? Prod.fst hit.artifactId sources).isSome then sources
  else KeyedList.put Prod.fst (hit.artifactId, hit.source) sources

def sourcesForHits (hits : List Hit) (baseSources : List (String × CitableSource)) : List (String × CitableSource) :=
  hits.foldl addSource baseSources

inductive BudgetError where
  | fixedPrompt
  | authorizedChunk
deriving DecidableEq, Repr

/-- the hits whose chunks fit in the budget, by the tokens that each takes -/
def selectHitsForContextBudget (hitPromptTokens : Hit → Nat) (fixedTokens inputBudgetTokens : Nat) (hits : List Hit) :
    Except BudgetError (List Hit) := do
  ensure (fixedTokens ≤ inputBudgetTokens) .fixedPrompt
  let entries : List RankedPackEntry := hits.map fun hit => ⟨hit.chunkId, hitPromptTokens hit⟩
  let includedIds := (packRankedEntries (inputBudgetTokens - fixedTokens) entries).1
  ensure (hits = [] ∨ includedIds ≠ []) .authorizedChunk
  return hits.filter fun hit => hit.chunkId ∈ includedIds

/-- what the check of an answer looks texts up in: `chat_with_package` adds the hits of the page, and
`_model_grounded_answer` those of the prompt -/
def filteredSources (document provenance : List (String × Json)) (page included : List Hit) :
    List (String × CitableSource) :=
  sourcesForHits included (sourcesForHits page (buildSealedCitableSources document provenance))

/-! ## Grounded citations -/

/-- the text that a citation of evidence cites is in the text of a hit -/
def Within (sources : List (String × CitableSource)) (citation : Citation) (hit : Hit) : Prop :=
  ∃ sourceId source first last firstText lastText, citationText "source_id" citation = some sourceId ∧
    citedSource sources sourceId = some source ∧ offsetAt "start_offset" citation = some (first, firstText) ∧
    offsetAt "end_offset" citation = some (last, lastText) ∧
    ((Py.chars source.text).take last.toNat).drop first.toNat <:+: hit.text

structure Grounded (sources : List (String × CitableSource)) (included : List Hit) : Prop where
  accepts : ∀ hit ∈ included, validateOneCitation sources hit.citation = .ok ()
  within : ∀ citation, citationText "source_kind" citation = some "evidence" →
    validateOneCitation sources citation = .ok () → ∃ hit ∈ included, Within sources citation hit

section

variable (document provenance : List (String × Json)) (page included : List Hit)

/-- the text under a name: of the sealed content, or else of the first hit of the artifact -/
def filed (name : String) : Option CitableSource :=
  ((KeyedList.get? Prod.fst name (buildSealedCitableSources document provenance)).map Prod.snd).or
    ((page.find? fun hit => hit.artifactId = name).map IndexedRow.source)

/-- the text that a citation with this source identifier cites -/
def citedText (sourceId : String) : Option CitableSource :=
  (filed document provenance page (lowered sourceId)).or (filed document provenance page sourceId)

/-- a text has the digest of a hit's artifact and, at the hit's offsets, the text of its chunk identifier -/
def Holds (source : CitableSource) (hit : Hit) : Prop :=
  source.sourceSha256 = hit.chunk.artifactSha256 ∧ hit.chunk.normalizedEnd ≤ (Py.chars source.text).length ∧
    deriveChunkId hit.chunk.artifactSha256 hit.chunk.normalizedStart hit.chunk.normalizedEnd
      (((Py.chars source.text).take hit.chunk.normalizedEnd).drop hit.chunk.normalizedStart) = hit.chunkId

/-- the text under the artifact of each hit in the prompt holds the hit, and a text that can be cited is in one -/
structure Covered : Prop where
  hits : ∀ hit ∈ included, ∃ source, filed document provenance page hit.artifactId = some source ∧ Holds source hit
  texts : ∀ sourceId source, isUuid4 (Py.chars (lowered sourceId)) = true →
    citedText document provenance page sourceId = some source → Audit.isSha256 source.sourceSha256 = true →
    Py.chars source.text ≠ [] → ∃ hit ∈ included, Py.chars source.text <:+: hit.text

end

/-! ## The sources of a page -/

variable {document provenance : List (String × Json)} {page included : List Hit}

theorem get?_addSource (sources : List (String × CitableSource)) (hit : Hit) (name : String) :
    KeyedList.get? Prod.fst name (addSource sources hit) =
      (KeyedList.get? Prod.fst name sources).or
        (if hit.artifactId = name then some (hit.artifactId, hit.source) else none) := by
  unfold addSource
  by_cases hname : hit.artifactId = name
  · rw [if_pos hname, hname]
    split_ifs with hsome
    · obtain ⟨s, hs⟩ := Option.isSome_iff_exists.1 hsome
      rw [hs, Option.some_or]
    · rw [Bool.not_eq_true, Option.isSome_eq_false_iff, Option.isNone_iff_eq_none] at hsome
      rw [KeyedList.get?_put, if_pos rfl, hsome, Option.none_or]
  · rw [if_neg hname, Option.or_none]
    split_ifs
    · rfl
    · rw [KeyedList.get?_put, if_neg hname]

theorem get?_sourcesForHits (hits : List Hit) (sources : List (String × CitableSource)) (name : String) :
    KeyedList.get? Prod.fst name (sourcesForHits hits sources) =
      (KeyedList.get? Prod.fst name sources).or
        ((hits.find? fun hit => hit.artifactId = name).map fun hit => (hit.artifactId, hit.source)) := by
  induction hits generalizing sources with
  | nil => exact (Option.or_none).symm
  | cons hit hits ih =>
    rw [sourcesForHits, List.foldl_cons, ← sourcesForHits, ih, get?_addSource, Option.or_assoc, List.find?_cons]
    congr 1
    by_cases hname : hit.artifactId = name
    · rw [if_pos hname, Option.some_or, decide_eq_true hname]
      rfl
    · rw [if_neg hname, Option.none_or, decide_eq_false hname]

/-- the hits of the prompt are of the page, and add nothing to its sources -/
theorem get?_filteredSources (hsub : included ⊆ page) (name : String) :
    (KeyedList.get? Prod.fst name (filteredSources document provenance page included)).map Prod.snd =
      filed document provenance page name := by
  have hpage : ∀ (x : Option (String × CitableSource)),
      (x.or ((page.find? fun hit => hit.artifactId = name).map fun hit => (hit.artifactId, hit.source))).map Prod.snd =
        (x.map Prod.snd).or ((page.find? fun hit => hit.artifactId = name).map IndexedRow.source) := by
    intro x
    cases x with
    | none => rw [Option.none_or, Option.map_map, Option.map_none, Option.none_or]; rfl
    | some s => rfl
  rw [filteredSources, get?_sourcesForHits, get?_sourcesForHits]
  cases hincluded : included.find? fun hit => hit.artifactId = name with
  | none => rw [Option.map_none, Option.or_none, hpage, filed]
  | some hit =>
    -- a hit of the prompt with that artifact is one of the page
    have hmem := hsub (List.mem_of_find?_eq_some hincluded)
    have hname := List.find?_some hincluded
    cases hfirst : page.find? fun hit => hit.artifactId = name with
    | none => exact absurd hname (List.find?_eq_none.1 hfirst hit hmem)
    | some first =>
      rw [Option.or_assoc, Option.map_some, Option.some_or, filed, ← hpage, hfirst, Option.map_some]

theorem citedSource_filteredSources (hsub : included ⊆ page) (sourceId : String) :
    citedSource (filteredSources document provenance page included) sourceId =
      citedText document provenance page sourceId := by
  rw [citedSource, citedText, ← get?_filteredSources hsub, ← get?_filteredSources hsub]
  cases KeyedList.get? Prod.fst (lowered sourceId) (filteredSources document provenance page included) <;> rfl

theorem included_subset {hitPromptTokens : Hit → Nat} {fixedTokens inputBudgetTokens : Nat}
    (h : selectHitsForContextBudget hitPromptTokens fixedTokens inputBudgetTokens page = .ok included) :
    included ⊆ page := by
  simp only [selectHitsForContextBudget, bind_eq_ok, ensure_eq_ok, pure_eq_ok, exists_const] at h
  obtain ⟨-, -, rfl⟩ := h
  exact fun _ hmem => List.mem_of_mem_filter hmem

/-! ## Accepted citations -/

variable {sources : List (String × CitableSource)}

/-- the citation of a hit is accepted if the text that is found holds the hit -/
theorem accepts_iff (hit : Hit) : validateOneCitation sources hit.citation = .ok () ↔
    ∃ source, citedSource sources hit.artifactId = some source ∧ Holds source hit := by
  have hkind : citationText "source_kind" hit.citation = some "evidence" := rfl
  have hdigest : citationText "source_sha256" hit.citation = some hit.chunk.artifactSha256 := rfl
  have hid : citationText "source_id" hit.citation = some hit.artifactId := rfl
  have hstart : offsetAt "start_offset" hit.citation =
      some ((hit.chunk.normalizedStart : Int), intText hit.chunk.normalizedStart) := rfl
  have hend : offsetAt "end_offset" hit.citation =
      some ((hit.chunk.normalizedEnd : Int), intText hit.chunk.normalizedEnd) := rfl
  have hchunk : citationText "chunk_id" hit.citation = some hit.chunkId := rfl
  have hhash : hashable (member "source_kind" hit.citation) = true := rfl
  have huuid : isUuid4 (Py.chars (lowered hit.artifactId)) = true := by
    rw [show lowered hit.artifactId = hit.artifactId from lowered_of_uuid4 hit.artifact_uuid4]
    exact hit.artifact_uuid4
  simp only [validateOneCitation, validateEvidenceCitation, hkind, hdigest, hid, hstart, hend, hchunk, hhash, huuid,
    hit.digest, bind_eq_ok, ensure_eq_ok, orRaise_eq_ok, Option.some.injEq, exists_eq_left', true_or, if_true,
    exists_const, true_and]
  refine exists_congr fun source => and_congr_right fun _ => ?_
  rw [Holds, intText_of_nonneg (Int.natCast_nonneg _), intText_of_nonneg (Int.natCast_nonneg _), Int.toNat_natCast,
    Int.toNat_natCast]
  constructor
  · rintro ⟨hsha, ⟨-, -, hlast⟩, heq⟩
    refine ⟨hsha, Int.ofNat_le.1 hlast, ?_⟩
    rw [heq, hsha]
    rfl
  · rintro ⟨hsha, hlast, heq⟩
    refine ⟨hsha, ⟨Int.natCast_nonneg _, Int.ofNat_lt.2 hit.nonempty, Int.ofNat_le.2 hlast⟩, ?_⟩
    rw [← heq, hsha]
    rfl

/-- the citation of a whole text -/
def wholeText (sourceId : String) (source : CitableSource) : Citation :=
  [("source_kind", .str "evidence"), ("source_id", .str sourceId), ("source_sha256", .str source.sourceSha256),
    ("start_offset", .int 0), ("end_offset", .int (Py.chars source.text).length),
    ("chunk_id", .str (chunkIdOf source.sourceSha256 (intText 0) (intText (Py.chars source.text).length)
      (Py.chars source.text)))]

theorem accepts_wholeText {sourceId : String} {source : CitableSource}
    (hid : isUuid4 (Py.chars (lowered sourceId)) = true) (hfound : citedSource sources sourceId = some source)
    (hsha : Audit.isSha256 source.sourceSha256 = true) (htext : Py.chars source.text ≠ []) :
    validateOneCitation sources (wholeText sourceId source) = .ok () := by
  have hkind : citationText "source_kind" (wholeText sourceId source) = some "evidence" := rfl
  have hdigest : citationText "source_sha256" (wholeText sourceId source) = some source.sourceSha256 := rfl
  have hsource : citationText "source_id" (wholeText sourceId source) = some sourceId := rfl
  have hstart : offsetAt "start_offset" (wholeText sourceId source) = some (0, intText 0) := rfl
  have hend : offsetAt "end_offset" (wholeText sourceId source) =
      some (((Py.chars source.text).length : Int), intText (Py.chars source.text).length) := rfl
  have hchunk : citationText "chunk_id" (wholeText sourceId source) =
      some (chunkIdOf source.sourceSha256 (intText 0) (intText (Py.chars source.text).length) (Py.chars source.text)) :=
    rfl
  have hhash : hashable (member "source_kind" (wholeText sourceId source)) = true := rfl
  have hpos : 0 < (Py.chars source.text).length := List.length_pos_iff.2 htext
  simp only [validateOneCitation, validateEvidenceCitation, hkind, hdigest, hsource, hstart, hend, hchunk, hhash, hid,
    hfound, hsha, bind_eq_ok, ensure_eq_ok, orRaise_eq_ok, Option.some.injEq, exists_eq_left', true_or, if_true,
    exists_const, true_and, Int.toNat_natCast, Int.toNat_zero, List.drop_zero, List.take_length, le_refl, and_true]
  omega

/-- **Citations are grounded** exactly if the text under the artifact of each hit in the prompt holds the hit, and every
text that can be cited is in the text of one of these hits. -/
theorem citations_grounded_iff (document provenance : List (String × Json)) (page included : List Hit)
    (hitPromptTokens : Hit → Nat) (fixedTokens inputBudgetTokens : Nat)
    (h : selectHitsForContextBudget hitPromptTokens fixedTokens inputBudgetTokens page = .ok included) :
    Grounded (filteredSources document provenance page included) included ↔
      Covered document provenance page included := by
  have hfound : ∀ sourceId, citedSource (filteredSources document provenance page included) sourceId =
      citedText document provenance page sourceId := citedSource_filteredSources (included_subset h)
  have hartifact : ∀ hit : Hit, citedText document provenance page hit.artifactId =
      filed document provenance page hit.artifactId := by
    intro hit
    rw [citedText, show lowered hit.artifactId = hit.artifactId from lowered_of_uuid4 hit.artifact_uuid4,
      Option.or_self]
  have hhits : ∀ hit : Hit,
      validateOneCitation (filteredSources document provenance page included) hit.citation = .ok () ↔
        ∃ source, filed document provenance page hit.artifactId = some source ∧ Holds source hit := by
    intro hit
    rw [accepts_iff, hfound, hartifact]
  constructor
  · intro hgrounded
    refine ⟨fun hit hmem => (hhits hit).1 (hgrounded.accepts hit hmem),
      fun sourceId source hid hsource hsha htext => ?_⟩
    have haccepted := accepts_wholeText hid ((hfound sourceId).trans hsource) hsha htext
    obtain ⟨hit, hmem, sourceId', source', first, last, _, _, hid', hsource', hfirst, hlast, hinfix⟩ :=
      hgrounded.within _ rfl haccepted
    obtain rfl : sourceId = sourceId' := Option.some.inj hid'
    rw [hfound, hsource] at hsource'
    obtain rfl := Option.some.inj hsource'
    obtain ⟨rfl, -⟩ := Prod.mk.inj (Option.some.inj hfirst)
    obtain ⟨rfl, -⟩ := Prod.mk.inj (Option.some.inj hlast)
    refine ⟨hit, hmem, ?_⟩
    rwa [Int.toNat_natCast, Int.toNat_zero, List.drop_zero, List.take_length] at hinfix
  · intro hcovered
    refine ⟨fun hit hmem => (hhits hit).2 (hcovered.hits hit hmem), fun citation hkind haccepted => ?_⟩
    simp only [validateOneCitation, hkind, if_true, bind_eq_ok, ensure_eq_ok, orRaise_eq_ok] at haccepted
    obtain ⟨_, -, _, -, digest, -, _, hsha, hcheck⟩ := haccepted
    simp only [validateEvidenceCitation, bind_eq_ok, ensure_eq_ok, orRaise_eq_ok] at hcheck
    obtain ⟨sourceId, hsourceId, _, hid, source, hsource, _, rfl, ⟨first, firstText⟩, hfirst, ⟨last, lastText⟩,
      hlast, _, ⟨hpos, hlt, hle⟩, -⟩ := hcheck
    have htext : Py.chars source.text ≠ [] := by
      intro hnil
      rw [hnil] at hle
      simp only [List.length_nil, Nat.cast_zero] at hle
      omega
    obtain ⟨hit, hmem, hinfix⟩ :=
      hcovered.texts sourceId source hid ((hfound sourceId).symm.trans hsource) hsha htext
    refine ⟨hit, hmem, sourceId, source, first, last, firstText, lastText, hsourceId, hsource, hfirst, hlast, ?_⟩
    exact ((List.drop_suffix _ _).isInfix.trans (List.take_prefix _ _).isInfix).trans hinfix

/-! ## Pages of one hit -/

namespace Samples

def artifactId : String := "aaaaaaaa-aaaa-4aaa-8aaa-aaaaaaaaaaaa"

def digest : String := String.ofList (List.replicate 64 'a')

/-- the row of a text at an offset -/
def row (start : Nat) (text : List Char) (h : text ≠ []) : IndexedRow where
  chunk :=
    ⟨deriveChunkId digest start (start + text.length) text, "r", artifactId, digest, start, start + text.length, text⟩
  artifact_uuid4 := show isUuid4 (Py.chars artifactId) = true by decide
  digest := show Audit.isSha256 digest = true by decide
  nonempty := Nat.lt_add_of_pos_right (List.length_pos_iff.2 h)
  derived := rfl

/-- the whole text of a short artifact -/
def first : IndexedRow := row 0 ['a'] (by decide)

/-- the second chunk of a long one -/
def second : IndexedRow := row 5500 (List.replicate 501 'b') (by decide)

theorem filed_single (hit : Hit) (name : String) :
    filed [] [] [hit] name = if hit.artifactId = name then some hit.source else none := by
  have hsealed : buildSealedCitableSources [] [] = [] := rfl
  rw [filed, hsealed, show KeyedList.get? Prod.fst name ([] : List (String × CitableSource)) = none from rfl,
    Option.map_none, Option.none_or, List.find?_cons]
  by_cases hname : hit.artifactId = name
  · rw [decide_eq_true hname, if_pos hname]
    rfl
  · rw [decide_eq_false hname, if_neg hname]
    rfl

theorem select_single (hit : Hit) : selectHitsForContextBudget (fun _ => 1) 0 1 [hit] = .ok [hit] := by
  simp [selectHitsForContextBudget, packRankedEntries, ensure, bind, Except.bind, pure, Except.pure]

end Samples

open Samples in
theorem citations_grounded_first : Grounded (filteredSources [] [] [first] [first]) [first] :=
  (citations_grounded_iff [] [] [first] [first] (fun _ => 1) 0 1 (select_single first)).2 (by
    have hsource : ∀ {name source}, filed [] [] [first] name = some source → source = first.source := by
      intro name source h
      rw [filed_single] at h
      split_ifs at h
      exact (Option.some.inj h).symm
    have htext : Py.chars first.source.text = first.text := by decide
    refine ⟨fun hit hmem => ?_, fun sourceId source _ hcited _ _ => ⟨first, List.mem_singleton_self _, ?_⟩⟩
    · obtain rfl := List.mem_singleton.1 hmem
      refine ⟨first.source, by rw [filed_single, if_pos rfl], rfl, ?_, ?_⟩
      · rw [htext]
        decide
      · rw [htext]
        rfl
    · have hsame : source = first.source := by
        rcases Option.or_eq_some_iff.1 hcited with h | ⟨-, h⟩
        · exact hsource h
        · exact hsource h
      rw [hsame, htext])

open Samples in
/-- the citation of a second chunk is refused: the text kept for its artifact is the chunk alone -/
theorem second_chunk_refused : ¬∀ (document provenance : List (String × Json)) (page included : List Hit)
    (hitPromptTokens : Hit → Nat) (fixedTokens inputBudgetTokens : Nat),
      selectHitsForContextBudget hitPromptTokens fixedTokens inputBudgetTokens page = .ok included →
        Grounded (filteredSources document provenance page included) included := by
  intro h
  have hgrounded := h [] [] [second] [second] (fun _ => 1) 0 1 (select_single second)
  obtain ⟨source, hsource, -, hlast, -⟩ := (accepts_iff second).1 (hgrounded.accepts second (List.mem_singleton_self _))
  have hfound : citedSource (filteredSources [] [] [second] [second]) second.artifactId = some second.source := by
    decide +kernel
  rw [hfound, Option.some.injEq] at hsource
  subst hsource
  exact absurd hlast (by decide +kernel)

end AtoService.ChatResponse.Grounding
