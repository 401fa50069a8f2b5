/-
The completion percentage of a workspace: `calculate_workspace_metrics`.

The percentage is a quotient rounded twice, to a double and then to an integer, so it is 100 before every required item is
satisfied: `percent_eq_hundred_iff` says from where on. `completion_percent`: it lies between 0 and 100, does not decrease
as more required items are satisfied, and below 200 required items it is 100 exactly when all of them are satisfied.
`completion_rounds_up` is a profile of 200 required items of which one is missing.
-/
import AtoService.Lib.JsonRoundTrip
import AtoService.Workspace.Metrics

namespace AtoService.Workspace

open Binary64

/-! ## The rounded quotient -/

section

variable {satisfied satisfied' total : Nat}

theorem quotient_nonneg : (0 : ℚ) ≤ (100 * satisfied : Nat) / (total : ℚ) := by
  positivity

theorem quotient_le_hundred (h : satisfied ≤ total) : ((100 * satisfied : Nat) : ℚ) / total ≤ 100 := by
  rcases total.eq_zero_or_pos with rfl | hpos
  · simp
  · have hpos' : (0 : ℚ) < total := Nat.cast_pos.2 hpos
    have hle : ((100 * satisfied : Nat) : ℚ) ≤ 100 * total := by
      exact_mod_cast Nat.mul_le_mul_left 100 h
    exact (div_le_iff₀ hpos').2 hle

theorem percent_mono (h : satisfied ≤ satisfied') : percent satisfied total ≤ percent satisfied' total := by
  unfold percent
  split_ifs with htotal
  · exact le_rfl
  · apply halfEven_mono
    apply nearest_mono quotient_nonneg
    gcongr

theorem percent_nonneg : 0 ≤ percent satisfied total := by
  unfold percent
  split_ifs
  · norm_num
  · have hquotient : (0 : ℚ) ≤ (100 * satisfied : Nat) / (total : ℚ) := quotient_nonneg
    have hnearest := nearest_nonneg hquotient
    exact le_halfEven_of_le (by simpa using hnearest)

theorem percent_le_hundred (h : satisfied ≤ total) : percent satisfied total ≤ 100 := by
  unfold percent
  split_ifs
  · exact le_rfl
  · have hnearest := nearest_mono quotient_nonneg (quotient_le_hundred h)
    have hhundred : nearest 100 = 100 := nearest_natCast (n := 100) (by norm_num)
    rw [hhundred] at hnearest
    exact halfEven_le_of_le (by simpa using hnearest)

/-- the doubles from 64 on are `2 ^ -46` apart -/
theorem lastPlace_of_ge {q : ℚ} (hlow : 64 ≤ q) (hhigh : q ≤ 100) : lastPlace q = -46 := by
  have hpos : 0 < q := by linarith
  have hge : (6 : ℤ) ≤ Int.log 2 q := (Int.zpow_le_iff_le_log (by norm_num) hpos).1 (by norm_num; linarith)
  have hlt : Int.log 2 q < 7 := (Int.lt_zpow_iff_log_lt (by norm_num) hpos).1 (by norm_num; linarith)
  unfold lastPlace
  omega

/-- half a place below 99.5 the double is 99.5, which rounds to 100 -/
theorem hundred_le_iff {q : ℚ} (hq : 0 ≤ q) (hhigh : q ≤ 100) :
    100 ≤ halfEven (nearest q) ↔ 199 / 2 - 1 / 2 ^ 47 ≤ q := by
  have hround : 100 ≤ halfEven (nearest q) ↔ 199 / 2 ≤ nearest q := by
    rw [le_halfEven_iff, le_iff_lt_or_eq]
    have heven : Even (100 : ℤ) := by decide
    norm_num [heven]
  rw [hround]
  rcases lt_or_ge q 64 with hlow | hlow
  · have hnearest := nearest_mono hq hlow.le
    have hsixtyFour : nearest 64 = 64 := nearest_natCast (n := 64) (by norm_num)
    rw [hsixtyFour] at hnearest
    constructor
    · intro h
      linarith
    · intro h
      norm_num at h
      linarith
  · have hplace : (0 : ℚ) < 2 ^ (-46 : ℤ) := two_zpow_pos _
    have hgrid : (199 / 2 : ℚ) = ((199 * 2 ^ 45 : ℤ) : ℚ) * 2 ^ (-46 : ℤ) := by norm_num
    have heven : Even (199 * 2 ^ 45 : ℤ) := by decide
    rw [nearest, lastPlace_of_ge hlow hhigh, hgrid, mul_le_mul_iff_left₀ hplace, Int.cast_le, le_halfEven_iff]
    have hscale : q / 2 ^ (-46 : ℤ) = q * 2 ^ 46 := by
      rw [zpow_neg, div_inv_eq_mul]
      norm_cast
    rw [hscale, and_iff_left heven, ← le_iff_lt_or_eq]
    constructor
    · intro h
      norm_num at h ⊢
      linarith
    · intro h
      norm_num at h ⊢
      linarith

/-- **Where the percentage is 100**: from half a place below 99.5 on. -/
theorem percent_eq_hundred_iff (h : satisfied ≤ total) :
    percent satisfied total = 100 ↔ total = 0 ∨ (199 * 2 ^ 46 - 1) * total ≤ 2 ^ 47 * (100 * satisfied) := by
  by_cases htotal : total = 0
  · simp [percent, htotal]
  have hpos : (0 : ℚ) < total := Nat.cast_pos.2 (Nat.pos_of_ne_zero htotal)
  have hupper := percent_le_hundred h
  have hiff : percent satisfied total = 100 ↔ 100 ≤ percent satisfied total := ⟨fun h => h.ge, hupper.antisymm⟩
  rw [hiff, percent, if_neg htotal, hundred_le_iff quotient_nonneg (quotient_le_hundred h), le_div_iff₀ hpos,
    or_iff_right htotal, ← Nat.cast_le (α := ℚ)]
  push_cast
  constructor
  · intro h
    norm_num at h ⊢
    linarith
  · intro h
    norm_num at h ⊢
    linarith

/-- below 200 items one that is missing shows -/
theorem satisfied_eq_of_hundred (hfew : total < 200) (h : satisfied ≤ total) :
    percent satisfied total = 100 ↔ satisfied = total := by
  rw [percent_eq_hundred_iff h]
  omega

end

/-! ## The metrics -/

/-- the facts satisfy the requirement -/
def Satisfied (facts : List FactContent) (r : ProfileRequirement) : Prop :=
  requirementIsSatisfied r (getFact r.key (KeyedList.ofList FactContent.key facts)) = true

section

variable {facts facts' : List FactContent} {requirements : List ProfileRequirement}

/-- the number of required items that the facts satisfy -/
def satisfiedCount (facts : List FactContent) (requirements : List ProfileRequirement) : Nat :=
  (satisfiedRequirementIds (requirements.filter ProfileRequirement.required) facts).length

theorem satisfiedCount_le : satisfiedCount facts requirements ≤ (requirements.filter ProfileRequirement.required).length := by
  rw [satisfiedCount, satisfiedRequirementIds, List.length_map]
  exact List.length_filter_le _ _

theorem satisfiedCount_eq_iff : satisfiedCount facts requirements = (requirements.filter ProfileRequirement.required).length ↔
    ∀ r ∈ requirements, r.required = true → Satisfied facts r := by
  rw [satisfiedCount, satisfiedRequirementIds, List.length_map, List.length_filter_eq_length_iff]
  constructor
  · intro h r hr hrequired
    exact h r (List.mem_filter.2 ⟨hr, hrequired⟩)
  · intro h r hr
    obtain ⟨hr, hrequired⟩ := List.mem_filter.1 hr
    exact h r hr hrequired

theorem satisfiedCount_mono (h : ∀ r ∈ requirements, r.required = true → Satisfied facts r → Satisfied facts' r) :
    satisfiedCount facts requirements ≤ satisfiedCount facts' requirements := by
  simp only [satisfiedCount, satisfiedRequirementIds, List.length_map, ← List.countP_eq_length_filter]
  apply List.countP_mono_left
  intro r hr hsatisfied
  obtain ⟨hr, hrequired⟩ := List.mem_filter.1 hr
  exact h r hr hrequired hsatisfied

end

theorem completion_eq (host : Host) (evidence : List EvidenceMetricRecord) (facts : List FactContent)
    (requirements : List ProfileRequirement) (controls : List ControlContent) (questions : List QuestionContent)
    (links : Nat) :
    (calculateWorkspaceMetrics host evidence facts requirements controls questions links).sspCompletionPercent =
      percent (satisfiedCount facts requirements) (requirements.filter ProfileRequirement.required).length := rfl

/-- **What the completion percentage means.** It lies between 0 and 100; it is 100 when all required items are satisfied,
and otherwise from 99.5 percent on, which takes 200 required items; and it does not decrease as more of them are
satisfied. -/
theorem completion_percent (host : Host) (requirements : List ProfileRequirement)
    (evidence evidence' : List EvidenceMetricRecord) (facts facts' : List FactContent)
    (controls controls' : List ControlContent) (questions questions' : List QuestionContent) (links links' : Nat) :
    let metrics := calculateWorkspaceMetrics host evidence facts requirements controls questions links
    let metrics' := calculateWorkspaceMetrics host evidence' facts' requirements controls' questions' links'
    (0 ≤ metrics.sspCompletionPercent ∧ metrics.sspCompletionPercent ≤ 100) ∧
      (metrics.sspCompletionPercent = 100 ↔ metrics.totalRequiredItems = 0 ∨
        (199 * 2 ^ 46 - 1) * metrics.totalRequiredItems ≤ 2 ^ 47 * (100 * metrics.satisfiedRequiredItems)) ∧
      ((∀ r ∈ requirements, r.required = true → Satisfied facts r) → metrics.sspCompletionPercent = 100) ∧
      (metrics.totalRequiredItems < 200 →
        (metrics.sspCompletionPercent = 100 ↔ ∀ r ∈ requirements, r.required = true → Satisfied facts r)) ∧
      ((∀ r ∈ requirements, r.required = true → Satisfied facts r → Satisfied facts' r) →
        metrics.sspCompletionPercent ≤ metrics'.sspCompletionPercent) := by
  intro metrics metrics'
  have hle : metrics.satisfiedRequiredItems ≤ metrics.totalRequiredItems := satisfiedCount_le
  have hall : metrics.satisfiedRequiredItems = metrics.totalRequiredItems ↔
      ∀ r ∈ requirements, r.required = true → Satisfied facts r := satisfiedCount_eq_iff
  have hhundred := percent_eq_hundred_iff hle
  refine ⟨⟨percent_nonneg, percent_le_hundred hle⟩, hhundred, fun h => hhundred.2 ?_, fun hfew => ?_, fun h => ?_⟩
  · rw [hall.2 h]
    omega
  · rw [← hall]
    exact satisfied_eq_of_hundred hfew hle
  · exact percent_mono (satisfiedCount_mono h)

namespace NearlyComplete

/-- the required text item with the number `n` -/
def item (n : Nat) : ProfileRequirement where
  key := String.ofList (digits n)
  valueType := .string
  required := true
  enumValues := []
  minLength := 1
  evidenceRequiredForAgentValue := true
  structuredKind := none

/-- the text that the ISSO has entered for it -/
def entered (n : Nat) : FactContent where
  key := String.ofList (digits n)
  value := .str "text"
  provenance := .issoEntered

def host : Host := ⟨id, id, fun _ => "", id, fun _ => ""⟩

def facts : List FactContent := (List.range 199).map entered

def requirements : List ProfileRequirement := (List.range 200).map item

/-- the items with a text are satisfied -/
theorem satisfied_item (n : Nat) : Satisfied facts (item n) ↔ n < 199 := by
  have hinj : Function.Injective fun n => FactContent.key (entered n) := by
    intro m n h
    rw [← JsonText.natOf_digits m, String.ofList_injective h, JsonText.natOf_digits]
  have hdistinct : KeyedList.Distinct FactContent.key facts := by
    rw [KeyedList.Distinct, facts, List.map_map]
    exact List.nodup_range.map hinj
  rw [Satisfied, KeyedList.ofList_eq hdistinct]
  by_cases hn : n < 199
  · have hfact : getFact (item n).key facts = some (entered n) :=
      (KeyedList.get?_eq_some hdistinct).2 ⟨List.mem_map.2 ⟨n, List.mem_range.2 hn, rfl⟩, rfl⟩
    have htext : 1 ≤ (Py.strip "text").length := by decide
    rw [hfact]
    simp [requirementIsSatisfied, valueMatches, item, entered, hn, htext]
  · have hfact : getFact (item n).key facts = none := by
      rw [getFact, KeyedList.get?_eq_none]
      intro f hf hkey
      obtain ⟨m, hm, rfl⟩ := List.mem_map.1 hf
      rw [hinj hkey] at hm
      exact hn (List.mem_range.1 hm)
    rw [hfact]
    simp [requirementIsSatisfied, hn]

theorem required_length : (requirements.filter ProfileRequirement.required).length = 200 := by
  rw [List.filter_eq_self.2 (by simp [requirements, item]), requirements, List.length_map, List.length_range]

theorem satisfied_length : satisfiedCount facts requirements = 199 := by
  have hfilter : ((List.range 200).filter fun n =>
      requirementIsSatisfied (item n) (getFact (item n).key (KeyedList.ofList FactContent.key facts))) =
        (List.range 200).filter fun n => decide (n < 199) := by
    refine List.filter_congr fun n _ => ?_
    rw [Bool.eq_iff_iff, decide_eq_true_iff]
    exact satisfied_item n
  rw [satisfiedCount, List.filter_eq_self.2 (by simp [requirements, item]), satisfiedRequirementIds, List.length_map,
    requirements, List.filter_map, List.length_map]
  simp only [Function.comp_def]
  rw [hfilter]
  decide +kernel

end NearlyComplete

/-- 199 of 200 required items are satisfied -/
theorem completion_rounds_up :
    (calculateWorkspaceMetrics NearlyComplete.host [] NearlyComplete.facts NearlyComplete.requirements [] [] 0).sspCompletionPercent = 100 ∧
      ¬∀ r ∈ NearlyComplete.requirements, r.required = true → Satisfied NearlyComplete.facts r := by
  constructor
  · rw [completion_eq, NearlyComplete.satisfied_length, NearlyComplete.required_length]
    exact (percent_eq_hundred_iff (Nat.le_succ 199)).2 (Or.inr (by norm_num))
  · intro h
    have hall := satisfiedCount_eq_iff.2 h
    rw [NearlyComplete.satisfied_length, NearlyComplete.required_length] at hall
    omega

end AtoService.Workspace
