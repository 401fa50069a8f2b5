/-
The fact bundle of one artifact: its segments, cut to excerpts and packed into the budget of the model.

A segment is named by its chunk, the artifact and the index. Segments are ranked by their index. The bundle is called
complete where no segment was left out, and an excerpt is marked where it was cut.
-/
import AtoService.Intake.MapResponse
import AtoService.Matrix.Packing

namespace AtoService.MapBundle

open Json JsonSchema Results
open AtoService.IntakeMerge (stableJsonDumps)
open AtoService.MapResponse (SegmentFact segmentChunkId segmentChunkId_injective)
open AtoService.Matrix (RankedPackEntry packRankedEntries estimateTokensFromObject totalTokens Partitions pack_perm
  pack_omits_none_iff partitions_iff)
open AtoService.Workspace (Uuid)

structure ArtifactFacts where
  artifactId : Uuid
  sha256 : String
  filename : Option String
  detectedFormat : String
  segments : List SegmentFact

/-- a segment as the prompt has it -/
structure PromptSegment where
  segmentIndex : Int
  chunkId : String
  text : String
  locatorKind : Json
  extractionMethod : String
  textTruncated : Bool

structure MapFactBundle where
  artifactId : Uuid
  artifactSha256 : String
  filename : Option String
  detectedFormat : String
  includedSegments : List SegmentFact
  omittedChunkIds : List String
  contextComplete : Bool
  factBundleSha256 : String
  /-- `prompt_payload["segments"]` -/
  promptSegments : List PromptSegment

def maxSegmentExcerptChars : Nat := 4000

def minimumBundleReserveTokens : Nat := 256

/-- an excerpt, and whether it was cut -/
def capExcerpt (text : String) : String × Bool :=
  if (Py.chars text).length ≤ maxSegmentExcerptChars then (text, false)
  else (String.ofList ((Py.chars text).take maxSegmentExcerptChars), true)

def locatorKind (s : SegmentFact) : Json := (member "kind" s.locator).getD .null

def fixedPayload (artifact : ArtifactFacts) : Fields :=
  [("artifact_id", .str artifact.artifactId.str), ("sha256", .str artifact.sha256),
    ("filename", (artifact.filename.map Json.str).getD .null), ("detected_format", .str artifact.detectedFormat)]

def fixedTokens (artifact : ArtifactFacts) : Nat := estimateTokensFromObject (.obj (fixedPayload artifact))

/-- what a segment is estimated by -/
def segmentEntry (s : SegmentFact) : Json :=
  .obj [("segment_index", .int s.segmentIndex), ("text", .str (capExcerpt s.text).1), ("locator_kind", locatorKind s),
    ("extraction_method", .str s.extractionMethod)]

def PromptSegment.dict (s : PromptSegment) : Json :=
  .obj [("segment_index", .int s.segmentIndex), ("chunk_id", .str s.chunkId), ("text", .str s.text),
    ("locator_kind", s.locatorKind), ("extraction_method", .str s.extractionMethod),
    ("text_truncated", .bool s.textTruncated)]

section

variable (artifact : ArtifactFacts)

def chunkOf (s : SegmentFact) : String := segmentChunkId artifact.artifactId s.segmentIndex

/-- `sorted(artifact.segments, key=lambda item: item.segment_index)` -/
def rankedSegments : List SegmentFact := artifact.segments.insertionSort fun a b => a.segmentIndex ≤ b.segmentIndex

def rankedEntries : List RankedPackEntry :=
  (rankedSegments artifact).map fun s => ⟨chunkOf artifact s, estimateTokensFromObject (segmentEntry s)⟩

def excerptOf (s : SegmentFact) : SegmentFact :=
  { s with text := (capExcerpt s.text).1, textTruncated := (capExcerpt s.text).2 }

def promptSegment (s : SegmentFact) : PromptSegment :=
  { segmentIndex := s.segmentIndex, chunkId := chunkOf artifact s, text := s.text, locatorKind := locatorKind s
    extractionMethod := s.extractionMethod, textTruncated := s.textTruncated }

/-- `prompt_payload` -/
def promptPayload (promptSegments : List PromptSegment) (omitted : List String) (contextComplete : Bool) : Json :=
  .obj (fixedPayload artifact ++ [("segments", .arr (promptSegments.map PromptSegment.dict)),
    ("omitted_chunk_ids", .arr (omitted.map Json.str)), ("context_complete", .bool contextComplete)])

/-- the segments whose chunks were included, as excerpts -/
def includedSegments (included : List String) : List SegmentFact :=
  ((rankedSegments artifact).filter fun s => chunkOf artifact s ∈ included).map excerptOf

/-- nothing where the `ValueError` of the context limit is raised -/
def buildMapFactBundle (inputBudgetTokens : Nat) : Option MapFactBundle :=
  if inputBudgetTokens < fixedTokens artifact + minimumBundleReserveTokens then none
  else
    let (included, omitted) := packRankedEntries (inputBudgetTokens - fixedTokens artifact) (rankedEntries artifact)
    let promptSegments := (includedSegments artifact included).map (promptSegment artifact)
    some {
      artifactId := artifact.artifactId
      artifactSha256 := artifact.sha256
      filename := artifact.filename
      detectedFormat := artifact.detectedFormat
      includedSegments := includedSegments artifact included
      omittedChunkIds := omitted
      contextComplete := omitted.isEmpty
      factBundleSha256 := Sha.sha256Hex (Py.chars (stableJsonDumps (promptPayload artifact promptSegments omitted
        omitted.isEmpty)))
      promptSegments := promptSegments }

def chunkIds : List String := artifact.segments.map (chunkOf artifact)

/-- the metadata and all segments fit the budget together -/
def SegmentsFit (inputBudgetTokens : Nat) : Prop :=
  fixedTokens artifact + totalTokens (rankedEntries artifact) ≤ inputBudgetTokens

/-- every segment is in the prompt in full where the bundle is called complete; else the prompt and the omitted chunks
share the segments out -/
structure NoSilentLoss (bundle : MapFactBundle) : Prop where
  full : bundle.contextComplete = true → ∀ s ∈ artifact.segments, ∃ e ∈ bundle.promptSegments,
    e.chunkId = chunkOf artifact s ∧ e.text = s.text
  shared : bundle.contextComplete = false →
    Partitions (chunkIds artifact) (bundle.promptSegments.map PromptSegment.chunkId) bundle.omittedChunkIds

/-- where all segments fit, none is longer than an excerpt; else their indices are distinct -/
structure NothingLost (inputBudgetTokens : Nat) : Prop where
  full : SegmentsFit artifact inputBudgetTokens →
    ∀ s ∈ artifact.segments, (Py.chars s.text).length ≤ maxSegmentExcerptChars
  distinct : ¬SegmentsFit artifact inputBudgetTokens → (artifact.segments.map SegmentFact.segmentIndex).Nodup

end

section

variable {artifact : ArtifactFacts} {inputBudgetTokens : Nat} {bundle : MapFactBundle}

theorem rankedSegments_perm : (rankedSegments artifact).Perm artifact.segments := List.perm_insertionSort _ _

theorem ids_rankedEntries : ((rankedEntries artifact).map RankedPackEntry.entryId).Perm (chunkIds artifact) := by
  rw [rankedEntries, List.map_map]
  exact rankedSegments_perm.map _

theorem capExcerpt_of_short {text : String} (h : (Py.chars text).length ≤ maxSegmentExcerptChars) :
    (capExcerpt text).1 = text := by
  rw [capExcerpt, if_pos h]

theorem length_capExcerpt (text : String) : (Py.chars (capExcerpt text).1).length ≤ maxSegmentExcerptChars := by
  unfold capExcerpt
  split_ifs with h
  · exact h
  · rw [Py.chars_eq, String.toList_ofList, List.length_take]
    exact min_le_left _ _

/-- chunks are distinct where the indices are -/
theorem nodup_chunkIds_iff : (chunkIds artifact).Nodup ↔ (artifact.segments.map SegmentFact.segmentIndex).Nodup := by
  have heq : chunkIds artifact =
      (artifact.segments.map SegmentFact.segmentIndex).map (segmentChunkId artifact.artifactId) := by
    rw [chunkIds, List.map_map]
    rfl
  rw [heq, List.nodup_map_iff fun m n => segmentChunkId_injective]

theorem chunks_promptSegments (included : List String) :
    ((includedSegments artifact included).map (promptSegment artifact)).map PromptSegment.chunkId =
      ((rankedSegments artifact).map (chunkOf artifact)).filter fun k => k ∈ included := by
  rw [includedSegments, List.map_map, List.map_map, List.filter_map]
  rfl

/-- the chunks of a prompt are those that were included, when no two segments share one -/
theorem chunks_perm {included omitted : List String} (h : (included ++ omitted).Perm (chunkIds artifact))
    (hnodup : (chunkIds artifact).Nodup) :
    (((rankedSegments artifact).map (chunkOf artifact)).filter fun k => k ∈ included).Perm included := by
  have hranked : ((rankedSegments artifact).map (chunkOf artifact)).Perm (included ++ omitted) :=
    (rankedSegments_perm.map _).trans h.symm
  have hdisjoint : (included ++ omitted).Nodup := h.nodup_iff.2 hnodup
  refine (hranked.filter _).trans ?_
  rw [List.filter_append]
  have hall : (included.filter fun k => k ∈ included) = included := List.filter_eq_self.2 fun k hk => by simpa using hk
  have hnone : (omitted.filter fun k => k ∈ included) = [] := by
    rw [List.filter_eq_nil_iff]
    intro k hk hmem
    exact (List.nodup_append.1 hdisjoint).2.2 k (by simpa using hmem) k hk rfl
  rw [hall, hnone, List.append_nil]

/-- a prompt with every chunk has every segment in full when no excerpt was cut -/
theorem prompt_full_iff {included : List String} (h : ∀ s ∈ artifact.segments, chunkOf artifact s ∈ included) :
    (∀ s ∈ artifact.segments, ∃ e ∈ (includedSegments artifact included).map (promptSegment artifact),
      e.chunkId = chunkOf artifact s ∧ e.text = s.text) ↔
      ∀ s ∈ artifact.segments, (Py.chars s.text).length ≤ maxSegmentExcerptChars := by
  constructor
  · intro hfull s hs
    obtain ⟨e, he, -, htext⟩ := hfull s hs
    obtain ⟨x, hx, rfl⟩ := List.mem_map.1 he
    obtain ⟨s', -, rfl⟩ := List.mem_map.1 hx
    rw [← htext]
    exact length_capExcerpt s'.text
  · intro hshort s hs
    have hranked : s ∈ (rankedSegments artifact).filter fun s => chunkOf artifact s ∈ included :=
      List.mem_filter.2 ⟨rankedSegments_perm.mem_iff.2 hs, by simpa using h s hs⟩
    exact ⟨promptSegment artifact (excerptOf s), List.mem_map_of_mem (List.mem_map_of_mem hranked), rfl,
      capExcerpt_of_short (hshort s hs)⟩

/-- a bundle packs the segments into what the metadata leaves -/
theorem buildMapFactBundle_packs (h : buildMapFactBundle artifact inputBudgetTokens = some bundle) :
    ∃ included omitted, (included ++ omitted).Perm (chunkIds artifact) ∧
      (SegmentsFit artifact inputBudgetTokens ↔ omitted = []) ∧ bundle.omittedChunkIds = omitted ∧
      bundle.contextComplete = omitted.isEmpty ∧
      bundle.promptSegments = (includedSegments artifact included).map (promptSegment artifact) := by
  unfold buildMapFactBundle at h
  split_ifs at h with hbudget
  obtain rfl := Option.some.inj h
  have hperm := pack_perm (inputBudgetTokens - fixedTokens artifact) (rankedEntries artifact)
  refine ⟨_, _, hperm.trans ids_rankedEntries, ?_, rfl, rfl, rfl⟩
  rw [pack_omits_none_iff, SegmentsFit]
  omega

/-- the bundle of an artifact loses nothing silently exactly where nothing is lost in its segments -/
theorem noSilentLoss_iff (h : buildMapFactBundle artifact inputBudgetTokens = some bundle) :
    NoSilentLoss artifact bundle ↔ NothingLost artifact inputBudgetTokens := by
  obtain ⟨included, omitted, hperm, hfit, homitted, hcomplete, hprompt⟩ := buildMapFactBundle_packs h
  by_cases hfits : SegmentsFit artifact inputBudgetTokens
  · have hnone := hfit.1 hfits
    rw [hnone, List.append_nil] at hperm
    rw [hnone] at hcomplete
    have hiff := prompt_full_iff fun s hs => hperm.mem_iff.2 (List.mem_map_of_mem hs)
    rw [← hprompt] at hiff
    constructor
    · intro hloss
      exact ⟨fun _ => hiff.1 (hloss.full hcomplete), fun hnot => absurd hfits hnot⟩
    · intro hlost
      refine ⟨fun _ => hiff.2 (hlost.full hfits), fun hnot => ?_⟩
      rw [hcomplete] at hnot
      cases hnot
  · have hincomplete : bundle.contextComplete = false := by
      rw [hcomplete, List.isEmpty_eq_false_iff]
      exact fun hnone => hfits (hfit.2 hnone)
    constructor
    · intro hloss
      refine ⟨fun hyes => absurd hyes hfits, fun _ => nodup_chunkIds_iff.1 ?_⟩
      have hpart := hloss.shared hincomplete
      exact hpart.all.nodup_iff.1 hpart.once
    · intro hlost
      refine ⟨fun hyes => ?_, fun _ => ?_⟩
      · rw [hincomplete] at hyes
        cases hyes
      · have hnodup := nodup_chunkIds_iff.2 (hlost.distinct hfits)
        rw [hprompt, homitted, chunks_promptSegments]
        exact (partitions_iff (((chunks_perm hperm hnodup).append_right _).trans hperm)).2 hnodup

end

end AtoService.MapBundle
