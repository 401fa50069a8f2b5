/-
Context that is lost on the way to the model, over the three builders of fact bundles.

Each builder ranks what it is given, packs it into the budget and says whether the bundle is complete. That is about the
packing alone: an excerpt that was cut and a source that shares an identifier leave the bundle complete. So a bundle keeps
its context exactly where nothing of that kind happens (`keepsContext_iff`).
-/
import AtoService.Drafts.ProposalBundle

namespace AtoService.ContextLoss

open AtoService.MapBundle (ArtifactFacts)
open AtoService.MapResponse (SegmentFact)

/-- a builder with what it is given -/
inductive Request where
  | map (artifact : ArtifactFacts) (inputBudgetTokens : Nat)
  | proposal (casefold : String → String) (targets : ProposalBundle.Targets) (artifacts : List ArtifactFacts)
      (limits : ProposalBundle.ContextLimits)
  | matrix (profile : Matrix.Profile) (ids : List String) (content : Matrix.SealedContent) (inputBudgetTokens : Nat)

inductive Bundle where
  | map (bundle : MapBundle.MapFactBundle)
  | proposal (bundle : ProposalBundle.FactBundle)
  | matrix (bundle : Matrix.FactBundle)

/-- nothing where the builder raises -/
def Request.build : Request → Option Bundle
  | .map artifact inputBudgetTokens => (MapBundle.buildMapFactBundle artifact inputBudgetTokens).map Bundle.map
  | .proposal casefold targets artifacts limits =>
    (ProposalBundle.buildFactBundle casefold targets artifacts limits).toOption.map Bundle.proposal
  | .matrix profile ids content inputBudgetTokens =>
    (Matrix.buildFactBundle profile ids content inputBudgetTokens).toOption.map Bundle.matrix

/-- a complete bundle has every segment or source in full; in another one the included and the omitted are the inputs, none
twice -/
def Request.KeepsContext : Request → Bundle → Prop
  | .map artifact _, .map bundle => MapBundle.NoSilentLoss artifact bundle
  | .proposal _ _ artifacts _, .proposal bundle => ProposalBundle.NoSilentLoss artifacts bundle
  | .matrix _ _ content _, .matrix bundle => Matrix.NoSilentLoss content bundle
  | _, _ => False

/-- texts are short and identifiers apart, as the builder needs them -/
def Request.NothingLost : Request → Prop
  | .map artifact inputBudgetTokens => MapBundle.NothingLost artifact inputBudgetTokens
  | .proposal casefold targets artifacts limits => ProposalBundle.NothingLost casefold targets artifacts limits
  | .matrix profile ids content inputBudgetTokens => Matrix.NothingLost profile ids content inputBudgetTokens

theorem eq_ok_of_toOption {ε α : Type} {x : Except ε α} {a : α} (h : x.toOption = some a) : x = .ok a := by
  cases x with
  | error e => cases h
  | ok b => rw [Option.some.inj h]

/-- **When a bundle keeps its context**, whichever builder made it. -/
theorem keepsContext_iff (request : Request) (bundle : Bundle) (h : request.build = some bundle) :
    request.KeepsContext bundle ↔ request.NothingLost := by
  cases request with
  | map artifact inputBudgetTokens =>
    obtain ⟨b, hb, rfl⟩ := Option.map_eq_some_iff.1 h
    exact MapBundle.noSilentLoss_iff hb
  | proposal casefold targets artifacts limits =>
    obtain ⟨b, hb, rfl⟩ := Option.map_eq_some_iff.1 h
    exact ProposalBundle.noSilentLoss_iff (eq_ok_of_toOption hb)
  | matrix profile ids content inputBudgetTokens =>
    obtain ⟨b, hb, rfl⟩ := Option.map_eq_some_iff.1 h
    exact Matrix.noSilentLoss_iff (eq_ok_of_toOption hb)

def segmentOf (text : String) : SegmentFact := { segmentIndex := 1, text, locator := [], extractionMethod := "text" }

/-- an artifact with one segment -/
def artifactOf (text : String) : ArtifactFacts where
  artifactId := .ofNat 1
  sha256 := "0000000000000000000000000000000000000000000000000000000000000000"
  filename := none
  detectedFormat := "text"
  segments := [segmentOf text]

theorem fixedTokens_one (text : String) : MapBundle.fixedTokens (artifactOf text) ≤ 100 := by
  have hsame : MapBundle.fixedTokens (artifactOf text) = MapBundle.fixedTokens (artifactOf "") := rfl
  rw [hsame]
  decide

theorem built_of_one (text : String) :
    ∃ bundle, MapBundle.buildMapFactBundle (artifactOf text) 5000 = some bundle := by
  have hfixed := fixedTokens_one text
  rw [MapBundle.buildMapFactBundle, if_neg (by rw [MapBundle.minimumBundleReserveTokens]; omega)]
  exact ⟨_, rfl⟩

theorem orOne_le (n : Nat) : Matrix.orOne n ≤ n + 1 := by
  unfold Matrix.orOne
  split_ifs <;> omega

/-- the names of the members, an excerpt, and one for each other value -/
theorem tokens_segmentEntry (text : String) :
    Matrix.estimateTokensFromObject (MapBundle.segmentEntry (segmentOf text)) ≤ 1100 := by
  have hkeys : Matrix.estimateTokensFromText "segment_index" + Matrix.estimateTokensFromText "text" +
      Matrix.estimateTokensFromText "locator_kind" + Matrix.estimateTokensFromText "extraction_method" +
      Matrix.estimateTokensFromText "text" = 14 := by decide
  have htext : Matrix.estimateTokensFromText (MapBundle.capExcerpt text).1 ≤ 1000 := by
    have hexcerpt := MapBundle.length_capExcerpt text
    rw [MapBundle.maxSegmentExcerptChars] at hexcerpt
    rw [Matrix.estimateTokensFromText, Matrix.charsPerToken]
    omega
  have hkind : MapBundle.locatorKind (segmentOf text) = .null := rfl
  rw [MapBundle.segmentEntry, Matrix.estimateTokensFromObject, hkind]
  refine (orOne_le _).trans ?_
  simp only [Matrix.estimateFields, Matrix.estimateTokensFromObject, segmentOf]
  omega

/-- one excerpt fits 5000 tokens -/
theorem one_fits (text : String) : MapBundle.SegmentsFit (artifactOf text) 5000 := by
  have hfixed := fixedTokens_one text
  have hentry := tokens_segmentEntry text
  have htotal : Matrix.totalTokens (MapBundle.rankedEntries (artifactOf text)) =
      Matrix.estimateTokensFromObject (MapBundle.segmentEntry (segmentOf text)) := rfl
  rw [MapBundle.SegmentsFit, htotal]
  omega

theorem build_one (text : String) : ∃ bundle,
    MapBundle.buildMapFactBundle (artifactOf text) 5000 = some bundle ∧
      (Request.map (artifactOf text) 5000).build = some (.map bundle) := by
  obtain ⟨bundle, h⟩ := built_of_one text
  refine ⟨bundle, h, ?_⟩
  rw [Request.build, h]
  rfl

theorem nothingLost_short : (Request.map (artifactOf "Payroll") 5000).NothingLost where
  full _ s hs := by
    obtain rfl := List.mem_singleton.1 hs
    decide
  distinct hlarge := absurd (one_fits "Payroll") hlarge

theorem keepsContext_short : ∃ bundle, (Request.map (artifactOf "Payroll") 5000).build = some bundle ∧
    ((Request.map (artifactOf "Payroll") 5000).KeepsContext bundle ↔
      (Request.map (artifactOf "Payroll") 5000).NothingLost) ∧
    (Request.map (artifactOf "Payroll") 5000).KeepsContext bundle := by
  obtain ⟨bundle, -, hbuilt⟩ := build_one "Payroll"
  exact ⟨_, hbuilt, keepsContext_iff _ _ hbuilt, (keepsContext_iff _ _ hbuilt).2 nothingLost_short⟩

/-- a segment that is cut is called complete -/
theorem long_lost {text : String} (h : 4000 < (Py.chars text).length) : ∃ bundle,
    (Request.map (artifactOf text) 5000).build = some bundle ∧
      ¬(Request.map (artifactOf text) 5000).KeepsContext bundle := by
  obtain ⟨bundle, hmap, hbuilt⟩ := build_one text
  refine ⟨_, hbuilt, fun hkeeps => ?_⟩
  have hlost := (MapBundle.noSilentLoss_iff hmap).1 hkeeps
  have hshort := hlost.full (one_fits text) _ (List.mem_singleton.2 rfl)
  exact absurd hshort (not_le.2 h)

/-- **A segment of 4001 characters is cut, and the bundle is complete.** -/
theorem long_segment_cut : ¬∀ (request : Request) (bundle : Bundle), request.build = some bundle →
    request.KeepsContext bundle := by
  intro hall
  have hlong : 4000 < (Py.chars (String.ofList (List.replicate 4001 'a'))).length := by
    rw [Py.chars_eq, String.toList_ofList, List.length_replicate]
    decide
  obtain ⟨bundle, hbuilt, hlost⟩ := long_lost hlong
  exact hlost (hall _ _ hbuilt)

end AtoService.ContextLoss
