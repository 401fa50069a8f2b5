/-
The fact bundle of a normalisation proposal: the segments of all artifacts, ranked by relevance and packed into the budget
of the model.

A segment is estimated with the metadata of its artifact, and what it uses is what the prompt adds for it. A segment that
passes the estimate always leaves room: its text is never cut to what remains (`segment_fits`). So a segment is either left
out or there up to the length of an excerpt.

The entries of the target catalog and their search terms are arguments: what is lost does not depend on them.
-/
import AtoService.Intake.MapBundle

namespace AtoService.ProposalBundle

open Json JsonSchema Results
open AtoService.IntakeMerge (stableJsonDumps)
open AtoService.MapBundle (ArtifactFacts maxSegmentExcerptChars capExcerpt locatorKind capExcerpt_of_short length_capExcerpt)
open AtoService.MapResponse (SegmentFact segmentChunkId segmentChunkId_injective)
open AtoService.Matrix (estimateTokensFromObject estimateTokensFromText estimateFields Partitions partitions_iff)
open AtoService.Workspace (Uuid)

/-- the targets that are empty, and what the catalog of the profile says of them -/
structure Targets where
  profileId : String
  emptyTargets : List String
  catalog : List Json
  searchTerms : List String

/-- a segment with its artifact -/
structure Ranked where
  artifact : ArtifactFacts
  segment : SegmentFact

/-- an artifact as the prompt has it -/
structure PromptArtifact where
  artifactId : Uuid
  sha256 : String
  filename : Option String
  detectedFormat : String
  segments : List SegmentFact

structure FactBundle where
  profileId : String
  emptyTargets : List String
  artifacts : List PromptArtifact
  omittedSegmentIds : List String
  factBundleSha256 : String
  contextComplete : Bool

structure ContextLimitExceeded where
  message : String
deriving DecidableEq, Repr

def minimumBundleReserveTokens : Nat := 256

/-- the limits of the model -/
structure ContextLimits where
  contextTokens : Int
  maxOutputTokens : Int
  instructionOverheadTokens : Int

def computeInputTokenBudget (limits : ContextLimits) : Int :=
  let budget := limits.contextTokens - limits.maxOutputTokens - limits.instructionOverheadTokens
  if budget < 1 then 0 else budget

/-! ## Ranking -/

/-- the text holds the term -/
def holdsTerm (text term : List Char) : Bool := text.tails.any fun rest => term.isPrefixOf rest

/-- the terms are distinct; with none the sum is zero -/
def segmentRelevanceScore (casefold : String → String) (searchTerms : List String) (text : String) : Nat :=
  searchTerms.countP fun term => holdsTerm (Py.chars (casefold text)) (Py.chars term)

section

variable (casefold : String → String) (targets : Targets)

def relevance (r : Ranked) : Nat := segmentRelevanceScore casefold targets.searchTerms (capExcerpt r.segment.text).1

/-- `(-relevance, str(artifact_id), segment_index)` is at most that of another -/
def ranksBefore (a b : Ranked) : Bool :=
  let (ra, rb) := (relevance casefold targets a, relevance casefold targets b)
  rb < ra || ra == rb && (a.artifact.artifactId.str < b.artifact.artifactId.str ||
    a.artifact.artifactId.str == b.artifact.artifactId.str && a.segment.segmentIndex ≤ b.segment.segmentIndex)

def segmentsOf (artifacts : List ArtifactFacts) : List Ranked :=
  artifacts.flatMap fun artifact => artifact.segments.map fun segment => ⟨artifact, segment⟩

def allSegments (artifacts : List ArtifactFacts) : List Ranked :=
  (segmentsOf artifacts).insertionSort fun a b => ranksBefore casefold targets a b = true

end

/-! ## Packing -/

def segmentId (r : Ranked) : String := segmentChunkId r.artifact.artifactId r.segment.segmentIndex

/-- the members that the prompt has of a segment -/
def segmentFields (s : SegmentFact) : Fields :=
  [("segment_index", .int s.segmentIndex), ("text", .str s.text), ("locator_kind", locatorKind s),
    ("extraction_method", .str s.extractionMethod), ("text_truncated", .bool s.textTruncated)]

def artifactFields (artifact : ArtifactFacts) : Fields :=
  [("artifact_id", .str artifact.artifactId.str), ("sha256", .str artifact.sha256),
    ("filename", (artifact.filename.map Json.str).getD .null), ("detected_format", .str artifact.detectedFormat)]

def excerptOf (s : SegmentFact) : SegmentFact :=
  { s with text := (capExcerpt s.text).1, textTruncated := (capExcerpt s.text).2 }

/-- what a segment is estimated at before it is taken -/
def segmentTokens (r : Ranked) : Nat :=
  estimateTokensFromObject (.obj (artifactFields r.artifact ++ segmentFields (excerptOf r.segment)))

/-- what a segment uses once it is taken -/
def usedTokens (s : SegmentFact) : Nat := estimateTokensFromObject (.obj (segmentFields s))

/-- the excerpt, or what remains has room for -/
def cutToRemaining (remaining : Int) (s : SegmentFact) : SegmentFact :=
  if remaining - 32 < estimateTokensFromText s.text then
    { s with text := String.ofList ((Py.chars s.text).take
               (max 1 (min ((remaining - 32) * 4) maxSegmentExcerptChars)).toNat)
             textTruncated := true }
  else s

structure Packing where
  remaining : Int
  included : List (Uuid × SegmentFact) := []
  omitted : List String := []
  contextComplete : Bool := true

/-- one round of the loop over the segments -/
def packSegment (p : Packing) (r : Ranked) : Packing :=
  if p.remaining < segmentTokens r then
    { p with omitted := p.omitted ++ [segmentId r], contextComplete := false }
  else
    let included := cutToRemaining p.remaining (excerptOf r.segment)
    let remaining := p.remaining - usedTokens included
    { p with
      remaining := remaining
      included := p.included ++ [(r.artifact.artifactId, included)]
      contextComplete := p.contextComplete && 0 < remaining }

def packSegments (remaining : Int) (segments : List Ranked) : Packing := segments.foldl packSegment { remaining }

/-! ## The bundle -/

/-- `artifact_segments.setdefault(artifact_id, []).append(segment)` -/
def appendTo (artifactId : Uuid) (segment : SegmentFact) : List (Uuid × List SegmentFact) → List (Uuid × List SegmentFact)
  | [] => [(artifactId, [segment])]
  | g :: gs => if g.1 = artifactId then (g.1, g.2 ++ [segment]) :: gs else g :: appendTo artifactId segment gs

def groupSegments (included : List (Uuid × SegmentFact)) : List (Uuid × List SegmentFact) :=
  included.foldl (fun gs p => appendTo p.1 p.2 gs) []

/-- `artifact_lookup[artifact_id]`: the last artifact with the identifier -/
def lookupArtifact (segments : List Ranked) (artifactId : Uuid) : Option ArtifactFacts :=
  (segments.reverse.find? fun r => r.artifact.artifactId = artifactId).map Ranked.artifact

/-- every artifact with segments is found -/
def bundledArtifacts (segments : List Ranked) (included : List (Uuid × SegmentFact)) : List PromptArtifact :=
  ((groupSegments included).insertionSort fun a b => a.1.str ≤ b.1.str).map fun g =>
    let source := lookupArtifact segments g.1
    { artifactId := g.1, sha256 := (source.map ArtifactFacts.sha256).getD ""
      filename := source.bind ArtifactFacts.filename
      detectedFormat := (source.map ArtifactFacts.detectedFormat).getD "", segments := g.2 }

def PromptArtifact.dict (a : PromptArtifact) : Json :=
  .obj [("artifact_id", .str a.artifactId.str), ("sha256", .str a.sha256),
    ("filename", (a.filename.map Json.str).getD .null), ("detected_format", .str a.detectedFormat),
    ("segments", .arr (a.segments.map fun s => .obj (segmentFields s)))]

def fixedPayload (targets : Targets) : Fields :=
  [("profile_id", .str targets.profileId), ("empty_targets", .arr (targets.emptyTargets.map Json.str)),
    ("target_catalog", .arr targets.catalog)]

def promptPayload (targets : Targets) (artifacts : List PromptArtifact) (omitted : List String)
    (contextComplete : Bool) : Json :=
  .obj (fixedPayload targets ++ [("artifacts", .arr (artifacts.map PromptArtifact.dict)),
    ("omitted_segment_ids", .arr (omitted.map Json.str)), ("context_complete", .bool contextComplete)])

def bundleOf (targets : Targets) (artifacts : List PromptArtifact) (omitted : List String) (contextComplete : Bool) :
    FactBundle where
  profileId := targets.profileId
  emptyTargets := targets.emptyTargets
  artifacts := artifacts
  omittedSegmentIds := omitted
  factBundleSha256 := Sha.sha256Hex (Py.chars (stableJsonDumps (promptPayload targets artifacts omitted contextComplete)))
  contextComplete := contextComplete

/-- the estimate of a bundle with one empty segment of the artifact -/
def minimumBundleTokens (targets : Targets) (artifact : ArtifactFacts) : Nat :=
  estimateTokensFromObject (.obj (fixedPayload targets ++ [("artifacts", .arr [.obj (artifactFields artifact ++
    [("segments", .arr [.obj [("segment_index", .int 1), ("text", .str ""), ("locator_kind", .null),
      ("extraction_method", .str "text"), ("text_truncated", .bool false)]])])])]))

section

variable (casefold : String → String) (targets : Targets) (artifacts : List ArtifactFacts)

def fixedTokens : Nat := estimateTokensFromObject (.obj (fixedPayload targets))

def buildFactBundle (limits : ContextLimits) : Except ContextLimitExceeded FactBundle := do
  let inputBudget := computeInputTokenBudget limits
  ensure (minimumBundleReserveTokens ≤ inputBudget)
    ⟨"configured context budget cannot fit the minimum normalize_proposal bundle"⟩
  ensure (fixedTokens targets < inputBudget) ⟨"empty target metadata exceeds normalize_proposal context budget"⟩
  let segments := allSegments casefold targets artifacts
  if segments = [] then return bundleOf targets [] [] true
  else
    ensure (∃ r ∈ segments, minimumBundleTokens targets r.artifact ≤ inputBudget)
      ⟨"minimum single-segment fact bundle exceeds normalize_proposal context budget"⟩
    let p := packSegments (inputBudget - fixedTokens targets) segments
    return bundleOf targets (bundledArtifacts segments p.included) p.omitted p.contextComplete

end

/-! ## What is lost -/

section

variable (casefold : String → String) (targets : Targets) (artifacts : List ArtifactFacts)

/-- each segment fits what those before it leave -/
def FitsIn : Int → List Ranked → Prop
  | _, [] => True
  | remaining, r :: rs => segmentTokens r ≤ remaining ∧ FitsIn (remaining - usedTokens (excerptOf r.segment)) rs

/-- in the order of their ranks, all segments fit what the targets leave -/
def SegmentsFit (limits : ContextLimits) : Prop :=
  FitsIn (computeInputTokenBudget limits - fixedTokens targets) (allSegments casefold targets artifacts)

def segmentIds : List String := (segmentsOf artifacts).map segmentId

/-- the segments of a prompt with their artifacts -/
def promptPairs (artifacts : List PromptArtifact) : List (Uuid × SegmentFact) :=
  artifacts.flatMap fun a => a.segments.map fun s => (a.artifactId, s)

/-- every segment is in the prompt in full where the bundle is called complete; else the prompt and the omitted identifiers
share the segments out -/
structure NoSilentLoss (bundle : FactBundle) : Prop where
  full : bundle.contextComplete = true → ∀ r ∈ segmentsOf artifacts, ∃ p ∈ promptPairs bundle.artifacts,
    p.1 = r.artifact.artifactId ∧ p.2.segmentIndex = r.segment.segmentIndex ∧ p.2.text = r.segment.text
  shared : bundle.contextComplete = false → Partitions (segmentIds artifacts)
    ((promptPairs bundle.artifacts).map fun p => segmentChunkId p.1 p.2.segmentIndex) bundle.omittedSegmentIds

/-- where all segments fit, none is longer than an excerpt; else their identifiers are distinct -/
structure NothingLost (limits : ContextLimits) : Prop where
  full : SegmentsFit casefold targets artifacts limits →
    ∀ r ∈ segmentsOf artifacts, (Py.chars r.segment.text).length ≤ maxSegmentExcerptChars
  distinct : ¬SegmentsFit casefold targets artifacts limits → (segmentIds artifacts).Nodup

end

/-! ### Estimates -/

theorem length_str (u : Uuid) : (Py.chars u.str).length = 36 := by
  have hdigits := u.length_eq
  rw [Uuid.str, Py.chars_eq, String.toList_ofList]
  simp [Uuid.chars, Uuid.hexText, hdigits]

theorem estimateFields_append (fs gs : Fields) : estimateFields (fs ++ gs) = estimateFields fs + estimateFields gs := by
  induction fs with
  | nil => simp [estimateFields]
  | cons p fs ih =>
    rw [List.cons_append, estimateFields, estimateFields, ih]
    omega

/-- the names of the members and the identifier of the artifact -/
theorem estimate_artifactFields (artifact : ArtifactFacts) : 20 ≤ estimateFields (artifactFields artifact) := by
  have hid : estimateTokensFromText artifact.artifactId.str = 9 := by
    rw [estimateTokensFromText, length_str]
    rfl
  have hkeys : estimateTokensFromText "artifact_id" + estimateTokensFromText "sha256" + estimateTokensFromText "filename" +
      estimateTokensFromText "detected_format" = 11 := by decide
  simp only [artifactFields, estimateFields, estimateTokensFromObject, hid]
  omega

theorem estimate_segmentFields (s : SegmentFact) :
    19 + estimateTokensFromText s.text ≤ estimateFields (segmentFields s) := by
  have hkeys : estimateTokensFromText "segment_index" + estimateTokensFromText "text" +
      estimateTokensFromText "locator_kind" + estimateTokensFromText "extraction_method" +
      estimateTokensFromText "text_truncated" = 17 := by decide
  simp only [segmentFields, estimateFields, estimateTokensFromObject]
  omega

/-- a segment that passes its estimate is taken as it is, and leaves room -/
theorem segment_fits {remaining : Int} {r : Ranked} (h : segmentTokens r ≤ remaining) :
    cutToRemaining remaining (excerptOf r.segment) = excerptOf r.segment ∧
      0 < remaining - usedTokens (excerptOf r.segment) := by
  have hartifact := estimate_artifactFields r.artifact
  have hsegment := estimate_segmentFields (excerptOf r.segment)
  have htotal : segmentTokens r = estimateFields (artifactFields r.artifact) +
      estimateFields (segmentFields (excerptOf r.segment)) := by
    rw [segmentTokens, estimateTokensFromObject, estimateFields_append, Matrix.orOne, if_neg (by omega)]
  have hused : usedTokens (excerptOf r.segment) = estimateFields (segmentFields (excerptOf r.segment)) := by
    rw [usedTokens, estimateTokensFromObject, Matrix.orOne, if_neg (by omega)]
  constructor
  · rw [cutToRemaining, if_neg (by omega)]
  · omega

/-! ### The run over the segments -/

theorem packSegment_fits {p : Packing} {r : Ranked} (h : segmentTokens r ≤ p.remaining) :
    packSegment p r = { p with
      remaining := p.remaining - usedTokens (excerptOf r.segment)
      included := p.included ++ [(r.artifact.artifactId, excerptOf r.segment)] } := by
  obtain ⟨hcut, hroom⟩ := segment_fits h
  rw [packSegment, if_neg (not_lt.2 h), hcut]
  simp only [decide_eq_true hroom, Bool.and_true]

/-- a run takes some segments as they are and leaves the others out; it stays complete where all fit -/
theorem packSegments_spec (p : Packing) (segments : List Ranked) :
    ∃ taken left : List Ranked, (taken ++ left).Perm segments ∧
      (segments.foldl packSegment p).included =
        p.included ++ taken.map (fun r => (r.artifact.artifactId, excerptOf r.segment)) ∧
      (segments.foldl packSegment p).omitted = p.omitted ++ left.map segmentId ∧
      (segments.foldl packSegment p).contextComplete = (p.contextComplete && left.isEmpty) ∧
      (left = [] ↔ FitsIn p.remaining segments) := by
  induction segments generalizing p with
  | nil => exact ⟨[], [], List.Perm.refl _, by simp, by simp, by simp, by simp [FitsIn]⟩
  | cons r rs ih =>
    rw [List.foldl_cons]
    obtain ⟨taken, left, hperm, hincluded, homitted, hcomplete, hleft⟩ := ih (packSegment p r)
    by_cases hfits : (segmentTokens r : Int) ≤ p.remaining
    · rw [packSegment_fits hfits] at hincluded homitted hcomplete hleft ⊢
      refine ⟨r :: taken, left, hperm.cons r, ?_, homitted, hcomplete, ?_⟩
      · rw [hincluded, List.map_cons, List.append_assoc, List.singleton_append]
      · rw [hleft, FitsIn]
        exact (and_iff_right hfits).symm
    · have hstep : packSegment p r = { p with omitted := p.omitted ++ [segmentId r], contextComplete := false } := by
        rw [packSegment, if_pos (not_le.1 hfits)]
      rw [hstep] at hincluded homitted hcomplete ⊢
      refine ⟨taken, r :: left, List.perm_middle.trans (hperm.cons r), hincluded, ?_, ?_, ?_⟩
      · rw [homitted, List.map_cons, List.append_assoc, List.singleton_append]
      · simpa using hcomplete
      · rw [FitsIn]
        exact iff_of_false (List.cons_ne_nil _ _) fun h => hfits h.1

/-! ### Groups -/

def pairsOf (groups : List (Uuid × List SegmentFact)) : List (Uuid × SegmentFact) :=
  groups.flatMap fun g => g.2.map fun s => (g.1, s)

theorem pairsOf_cons (g : Uuid × List SegmentFact) (gs : List (Uuid × List SegmentFact)) :
    pairsOf (g :: gs) = (g.2.map fun s => (g.1, s)) ++ pairsOf gs := List.flatMap_cons

theorem pairsOf_appendTo (artifactId : Uuid) (segment : SegmentFact) (groups : List (Uuid × List SegmentFact)) :
    (pairsOf (appendTo artifactId segment groups)).Perm (pairsOf groups ++ [(artifactId, segment)]) := by
  induction groups with
  | nil => exact List.Perm.refl _
  | cons g gs ih =>
    unfold appendTo
    split_ifs with hid
    · have hgroup : pairsOf ((g.1, g.2 ++ [segment]) :: gs) =
          g.2.map (fun s => (g.1, s)) ++ ([(artifactId, segment)] ++ pairsOf gs) := by
        simp [pairsOf, hid]
      rw [hgroup, pairsOf_cons, List.append_assoc]
      exact (List.perm_append_comm).append_left _
    · rw [pairsOf_cons, pairsOf_cons, List.append_assoc]
      exact ih.append_left _

theorem pairsOf_foldl (included : List (Uuid × SegmentFact)) (groups : List (Uuid × List SegmentFact)) :
    (pairsOf (included.foldl (fun gs p => appendTo p.1 p.2 gs) groups)).Perm (pairsOf groups ++ included) := by
  induction included generalizing groups with
  | nil => simp
  | cons p ps ih =>
    rw [List.foldl_cons]
    refine (ih _).trans ?_
    have hstep := (pairsOf_appendTo p.1 p.2 groups).append_right ps
    rwa [List.append_assoc, List.singleton_append] at hstep

/-- the prompt has the segments that were included -/
theorem promptPairs_bundledArtifacts (segments : List Ranked) (included : List (Uuid × SegmentFact)) :
    (promptPairs (bundledArtifacts segments included)).Perm included := by
  have hpairs : promptPairs (bundledArtifacts segments included) =
      pairsOf ((groupSegments included).insertionSort fun a b => a.1.str ≤ b.1.str) := by
    rw [promptPairs, bundledArtifacts, List.flatMap_map]
    rfl
  rw [hpairs]
  refine ((List.perm_insertionSort _ _).flatMap_right _).trans ?_
  exact pairsOf_foldl included []

/-! ### The bundle -/

section

variable {casefold : String → String} {targets : Targets} {artifacts : List ArtifactFacts} {limits : ContextLimits}
  {bundle : FactBundle}

theorem allSegments_perm : (allSegments casefold targets artifacts).Perm (segmentsOf artifacts) :=
  List.perm_insertionSort _ _

/-- a bundle has some segments as excerpts, and the identifiers of the others; none are left out where all fit -/
theorem buildFactBundle_packs (h : buildFactBundle casefold targets artifacts limits = .ok bundle) :
    ∃ taken left : List Ranked, (taken ++ left).Perm (segmentsOf artifacts) ∧
      (promptPairs bundle.artifacts).Perm (taken.map fun r => (r.artifact.artifactId, excerptOf r.segment)) ∧
      bundle.omittedSegmentIds = left.map segmentId ∧ bundle.contextComplete = left.isEmpty ∧
      (left = [] ↔ SegmentsFit casefold targets artifacts limits) := by
  simp only [buildFactBundle, bind_eq_ok, ensure_eq_ok] at h
  obtain ⟨-, -, -, -, h⟩ := h
  split_ifs at h with hnone
  · obtain rfl := pure_eq_ok.1 h
    refine ⟨[], [], ?_, List.Perm.refl _, rfl, rfl, ?_⟩
    · have hperm : (allSegments casefold targets artifacts).Perm (segmentsOf artifacts) := allSegments_perm
      rwa [hnone] at hperm
    · rw [SegmentsFit, hnone]
      exact iff_of_true rfl trivial
  · obtain ⟨-, -, hbundle⟩ := bind_eq_ok.1 h
    obtain rfl := pure_eq_ok.1 hbundle
    obtain ⟨taken, left, hperm, hincluded, homitted, hcomplete, hleft⟩ :=
      packSegments_spec { remaining := computeInputTokenBudget limits - fixedTokens targets }
        (allSegments casefold targets artifacts)
    refine ⟨taken, left, hperm.trans allSegments_perm, ?_, homitted, hcomplete, hleft⟩
    refine (promptPairs_bundledArtifacts _ _).trans ?_
    rw [packSegments, hincluded]
    exact List.Perm.refl _

/-- the bundle of a proposal loses nothing silently exactly where nothing is lost in its segments -/
theorem noSilentLoss_iff (h : buildFactBundle casefold targets artifacts limits = .ok bundle) :
    NoSilentLoss artifacts bundle ↔ NothingLost casefold targets artifacts limits := by
  obtain ⟨taken, left, hperm, hprompt, homitted, hcomplete, hfit⟩ := buildFactBundle_packs h
  by_cases hfits : SegmentsFit casefold targets artifacts limits
  · have hnone := hfit.2 hfits
    rw [hnone] at hcomplete
    rw [hnone, List.append_nil] at hperm
    constructor
    · intro hloss
      refine ⟨fun _ r hr => ?_, fun hnot => absurd hfits hnot⟩
      obtain ⟨p, hp, -, -, htext⟩ := hloss.full hcomplete r hr
      obtain ⟨r', -, rfl⟩ := List.mem_map.1 (hprompt.mem_iff.1 hp)
      rw [← htext]
      exact length_capExcerpt r'.segment.text
    · intro hlost
      refine ⟨fun _ r hr => ?_, fun hnot => ?_⟩
      · have htaken : r ∈ taken := hperm.mem_iff.2 hr
        exact ⟨(r.artifact.artifactId, excerptOf r.segment), hprompt.mem_iff.2 (List.mem_map_of_mem htaken), rfl, rfl,
          capExcerpt_of_short (hlost.full hfits r hr)⟩
      · rw [hcomplete] at hnot
        cases hnot
  · have hincomplete : bundle.contextComplete = false := by
      rw [hcomplete, List.isEmpty_eq_false_iff]
      exact fun hnone => hfits (hfit.1 hnone)
    have hids : (((promptPairs bundle.artifacts).map fun p => segmentChunkId p.1 p.2.segmentIndex) ++
        bundle.omittedSegmentIds).Perm (segmentIds artifacts) := by
      have htaken := hprompt.map fun p => segmentChunkId p.1 p.2.segmentIndex
      rw [List.map_map] at htaken
      rw [homitted]
      refine (htaken.append_right _).trans ?_
      have hall := hperm.map segmentId
      rwa [List.map_append] at hall
    constructor
    · intro hloss
      exact ⟨fun hyes => absurd hyes hfits, fun _ => (partitions_iff hids).1 (hloss.shared hincomplete)⟩
    · intro hlost
      refine ⟨fun hyes => ?_, fun _ => (partitions_iff hids).2 (hlost.distinct hfits)⟩
      rw [hincomplete] at hyes
      cases hyes

end

end AtoService.ProposalBundle
