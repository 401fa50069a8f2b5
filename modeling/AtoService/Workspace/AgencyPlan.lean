/-
Mapping plans as texts: `parse_mapping_plan` on a raw response, and on the JSON text of a stored plan.

`parseMappingPlanText` reads a response, with an optional code fence around it, and `parseMappingPlan` checks what it
reads. Reading normalizes: blank space in texts collapses, and a plan that appends its own control table gets the
canonical columns. `plan_reparsed`: whatever response gave a plan, the plan's document gives the same plan again, for
every text that is read as that document.
-/
import AtoService.Lib.JsonAlike
import AtoService.Workspace.AgencyTemplate
import AtoService.Workspace.ModelOutput

namespace AtoService.Workspace.AgencyDocx

open AtoService.Py AtoService.Results
open Json (Alike AlikeMembers)

/-! ## Raw responses -/

/-- the members of the first of the two readings of the response that is JSON -/
def parseJsonObject (raw : String) : Except ContractError (List (String × Json)) :=
  match (JsonText.loads (chars raw)).or (JsonText.loads (chars (stripMarkdownJsonFence raw))) with
  | some (.obj fs) => .ok fs
  | some _ => refuse "response must be a JSON object"
  | none => refuse "response must be strict JSON"

/-- `parse_mapping_plan(raw_text, outline=…, allowed_section_ids=…)` -/
def parseMappingPlanText (raw : String) (outline : TemplateOutline) (allowedSectionIds : List String) :
    Except ContractError MappingPlan := do
  let payload ← parseJsonObject raw
  parseMappingPlan payload outline allowedSectionIds

theorem parseJsonObject_of_loads {raw : String} {fs : List (String × Json)}
    (h : JsonText.loads (chars raw) = some (.obj fs)) : parseJsonObject raw = .ok fs := by
  rw [parseJsonObject, h]
  rfl

/-! ## Bounded texts -/

/-- blank space stands alone, as a blank -/
structure Collapsed (cs : List Char) : Prop where
  blank : ∀ c ∈ cs, isSpace c = true → c = ' '
  alone : cs.IsChain fun a b => isSpace a = false ∨ isSpace b = false

theorem Collapsed.part {cs ds : List Char} (h : Collapsed ds) (hpart : cs <:+: ds) : Collapsed cs :=
  ⟨fun c hc => h.blank c (hpart.subset hc), h.alone.infix hpart⟩

theorem head?_collapse (c : Char) (cs : List Char) :
    (collapse (c :: cs)).head? = some (if isSpace c then ' ' else c) := by
  induction cs generalizing c with
  | nil => by_cases h : isSpace c = true <;> simp [collapse, h]
  | cons d cs ih =>
    by_cases h : isSpace c = true
    · by_cases hd : isSpace d = true
      · simp [collapse, h, hd, ih]
      · simp [collapse, h, hd]
    · simp [collapse, h]

theorem collapsed_collapse (cs : List Char) : Collapsed (collapse cs) := by
  have hblank : isSpace ' ' = true := by decide
  induction cs with
  | nil => exact ⟨by simp [collapse], List.isChain_nil⟩
  | cons c cs ih =>
    cases cs with
    | nil =>
      by_cases h : isSpace c = true
      · exact ⟨by simp [collapse, h], by simp [collapse, h]⟩
      · exact ⟨by simp [collapse, h], by simp [collapse, h]⟩
    | cons d cs =>
      have hhead := head?_collapse d cs
      by_cases h : isSpace c = true
      · by_cases hd : isSpace d = true
        · rw [collapse, if_pos h, if_pos hd]
          exact ih
        · rw [collapse, if_pos h, if_neg hd]
          rw [if_neg hd] at hhead
          refine ⟨?_, List.isChain_cons.2 ⟨fun b hb => Or.inr ?_, ih.alone⟩⟩
          · rintro b (_ | ⟨_, hb⟩) hspace
            · rfl
            · exact ih.blank b hb hspace
          · rw [hhead] at hb
            rw [← Option.some.inj hb]
            simpa using hd
      · rw [collapse, if_neg h]
        refine ⟨?_, List.isChain_cons.2 ⟨fun b _ => Or.inl (by simpa using h), ih.alone⟩⟩
        rintro b (_ | ⟨_, hb⟩) hspace
        · exact absurd hspace h
        · exact ih.blank b hb hspace

theorem collapse_of_collapsed {cs : List Char} (h : Collapsed cs) : collapse cs = cs := by
  induction cs with
  | nil => rfl
  | cons c cs ih =>
    have htail : Collapsed cs := h.part (List.suffix_cons c cs).isInfix
    cases cs with
    | nil =>
      by_cases hc : isSpace c = true
      · rw [collapse, if_pos hc, h.blank c List.mem_cons_self hc]
      · rw [collapse, if_neg hc]
    | cons d cs =>
      by_cases hc : isSpace c = true
      · have hd : ¬isSpace d = true := by
          rcases (List.isChain_cons_cons.1 h.alone).1 with hc' | hd
          · rw [hc] at hc'
            cases hc'
          · simp [hd]
        rw [collapse, if_pos hc, if_neg hd, ih htail, h.blank c List.mem_cons_self hc]
      · rw [collapse, if_neg hc, ih htail]

theorem refuse_ne_ok {α : Type} {a : α} (text : String) : (refuse text : Except ContractError α) ≠ .ok a := by
  intro h
  cases h

/-- a text that `boundedText` returns is returned again, under any name of the field -/
theorem boundedText_fixed {value : Option Json} {fieldName fieldName' : String} {maximum : Nat} {allowEmpty : Bool}
    {t : String} (h : boundedText value fieldName maximum allowEmpty = .ok t) :
    boundedText (some (.str t)) fieldName' maximum allowEmpty = .ok t := by
  unfold boundedText at h
  split at h
  · cases h
  rename_i s _
  have hcollapsed : Collapsed (chars (strip (String.ofList (collapse (chars s))))) := by
    rw [strip, chars_eq (String.ofList _), String.toList_ofList]
    refine (collapsed_collapse (chars s)).part ?_
    rw [chars_eq (String.ofList (collapse (chars s))), String.toList_ofList]
    exact stripChars_infix
  have hfixed : strip (String.ofList (collapse (chars (strip (String.ofList (collapse (chars s))))))) =
      strip (String.ofList (collapse (chars s))) := by
    rw [collapse_of_collapsed hcollapsed, chars_eq, String.ofList_toList, strip_strip]
  dsimp only at h
  generalize strip (String.ofList (collapse (chars s))) = u at h hfixed
  split_ifs at h with hempty hlong
  · exact absurd h (refuse_ne_ok _)
  · exact absurd h (refuse_ne_ok _)
  · obtain rfl := Except.ok.inj h
    rw [boundedText, Option.bind_some, Json.asStr]
    simp only [hfixed]
    rw [if_neg hempty, if_neg hlong]

/-! ## What an accepted plan is like -/

section

variable {outline : TemplateOutline} {refs : List String}

/-- the text is one that `boundedText` returns -/
def Bounded (maximum : Nat) (allowEmpty : Bool) (t : String) : Prop :=
  ∀ fieldName, boundedText (some (.str t)) fieldName maximum allowEmpty = .ok t

theorem bounded_of_boundedText {value : Option Json} {fieldName : String} {maximum : Nat} {allowEmpty : Bool} {t : String}
    (h : boundedText value fieldName maximum allowEmpty = .ok t) : Bounded maximum allowEmpty t :=
  fun _ => boundedText_fixed h

structure PlacementOk (locators refs : List String) (p : TextPlacement) : Prop where
  target : Bounded 128 false p.targetLocator
  source : Bounded 256 false p.sourceRef
  located : p.targetLocator ∈ locators
  allowed : p.sourceRef ∈ refs

structure ExceptionOk (e : MappingException) : Prop where
  code : Bounded maxCodeLength false e.code
  message : Bounded maxMessageLength false e.message

/-- the control table is one that is appended, with the canonical columns, or one of the outline, with columns of it -/
structure ControlTableOk (outline : TemplateOutline) (t : ControlTablePlan) : Prop where
  columns : t.columnMap.map Prod.fst = controlTableColumnNames
  distinct : (t.columnMap.map Prod.snd).Nodup
  appended : t.tableIndex = none → t.columnMap = canonicalAppendColumnMap
  placed : ∀ i ∈ t.tableIndex, i < outline.tableCount ∧ ∀ c ∈ t.columnMap, c.2 < outline.tableColumnCount i

structure PlanOk (outline : TemplateOutline) (refs : List String) (plan : MappingPlan) : Prop where
  placements : ∀ p ∈ plan.textPlacements, PlacementOk outline.locators refs p
  targets : (plan.textPlacements.map TextPlacement.targetLocator).Nodup
  placementsBound : plan.textPlacements.length ≤ maxPlacements
  controlTable : ControlTableOk outline plan.controlTable
  exceptions : ∀ e ∈ plan.exceptions, ExceptionOk e
  exceptionsBound : plan.exceptions.length ≤ maxExceptions
  summary : Bounded maxSummaryLength true plan.summary

theorem parsePlacement_ok {locators : List String} {placements placements' : List TextPlacement}
    {entry : List (String × Json) × Nat} (h : parsePlacement locators refs placements entry = .ok placements') :
    ∃ p, placements' = placements ++ [p] ∧ PlacementOk locators refs p ∧
      p.targetLocator ∉ placements.map TextPlacement.targetLocator := by
  unfold parsePlacement at h
  simp only [Results.bind_eq_ok, Results.ensure_eq_ok, Results.orRaise_eq_ok, Results.pure_eq_ok] at h
  obtain ⟨-, -, target, htarget, sourceRef, hsource, mode, -, -, hlocated, -, hallowed, -, hfresh, rfl⟩ := h
  exact ⟨⟨target, sourceRef, mode⟩, rfl,
    ⟨bounded_of_boundedText htarget, bounded_of_boundedText hsource, hlocated, hallowed⟩, hfresh⟩

theorem parsePlacements_ok {locators : List String} {entries : List (List (String × Json) × Nat)}
    {placements placements' : List TextPlacement}
    (h : entries.foldlM (parsePlacement locators refs) placements = .ok placements')
    (hok : ∀ p ∈ placements, PlacementOk locators refs p)
    (hnodup : (placements.map TextPlacement.targetLocator).Nodup) :
    (∀ p ∈ placements', PlacementOk locators refs p) ∧ (placements'.map TextPlacement.targetLocator).Nodup ∧
      placements'.length = placements.length + entries.length := by
  induction entries generalizing placements with
  | nil =>
    obtain rfl := Results.pure_eq_ok.1 h
    exact ⟨hok, hnodup, rfl⟩
  | cons entry entries ih =>
    rw [List.foldlM_cons] at h
    obtain ⟨mid, hstep, hrest⟩ := Results.bind_eq_ok.1 h
    obtain ⟨p, rfl, hp, hfresh⟩ := parsePlacement_ok hstep
    have hmid : ∀ q ∈ placements ++ [p], PlacementOk locators refs q := by
      intro q hq
      rcases List.mem_append.1 hq with hq | hq
      · exact hok q hq
      · exact List.mem_singleton.1 hq ▸ hp
    have hnodup' : ((placements ++ [p]).map TextPlacement.targetLocator).Nodup := by
      rw [List.map_append, List.nodup_append]
      refine ⟨hnodup, List.nodup_singleton _, ?_⟩
      intro a ha b hb
      obtain rfl : b = p.targetLocator := by simpa using hb
      exact fun hab => hfresh (hab ▸ ha)
    obtain ⟨hall, hdistinct, hlength⟩ := ih hrest hmid hnodup'
    refine ⟨hall, hdistinct, ?_⟩
    rw [hlength, List.length_append, List.length_singleton, List.length_cons]
    omega

theorem length_of_objectList {value : Option Json} {fieldName : String} {maximum : Nat}
    {objects : List (List (String × Json))} (h : objectList value fieldName maximum = .ok objects) :
    objects.length ≤ maximum := by
  have hvalue := objectList_ok h
  by_contra hlong
  have hlong' : maximum < (objects.map Json.obj).length := by
    rw [List.length_map]
    omega
  rw [hvalue, objectList, Option.bind_some, Json.asArr] at h
  simp only [if_pos hlong'] at h
  exact refuse_ne_ok _ h

theorem parseMappingException_bounded {entry : List (String × Json)} {index : Nat} {e : MappingException}
    (h : parseMappingException entry index = .ok e) : ExceptionOk e := by
  simp only [parseMappingException, Results.bind_eq_ok, Results.pure_eq_ok] at h
  obtain ⟨-, -, severity, -, code, hcode, message, hmessage, rfl⟩ := h
  exact ⟨bounded_of_boundedText hcode, bounded_of_boundedText hmessage⟩

theorem parseExceptions_ok {payload : List (String × Json)} {exceptions : List MappingException}
    (h : parseExceptions payload = .ok exceptions) :
    (∀ e ∈ exceptions, ExceptionOk e) ∧ exceptions.length ≤ maxExceptions := by
  unfold parseExceptions at h
  obtain ⟨entries, hentries, h⟩ := Results.bind_eq_ok.1 h
  have hforall := Results.mapM_eq_ok.1 h
  have hlength := hforall.length_eq
  rw [List.length_zipIdx] at hlength
  refine ⟨fun e he => ?_, hlength ▸ length_of_objectList hentries⟩
  obtain ⟨i, hi, rfl⟩ := List.mem_iff_getElem.1 he
  have hentry := (List.forall₂_iff_get.1 hforall).2 i (by rw [List.length_zipIdx, hlength]; exact hi) hi
  exact parseMappingException_bounded hentry

/-- a loop of checks passes when every check does -/
theorem forIn_ensure_eq_ok {α ε : Type} {p : α → Prop} [DecidablePred p] {e : α → ε} {xs : List α} {u : PUnit} :
    (forIn xs PUnit.unit fun x _ => do
      Results.ensure (p x) (e x)
      pure (ForInStep.yield PUnit.unit)) = .ok u ↔ ∀ x ∈ xs, p x := by
  induction xs with
  | nil => simp [Results.pure_eq_ok]
  | cons x xs ih =>
    rw [List.forIn_cons, Results.bind_eq_ok]
    simp only [Results.bind_eq_ok, Results.ensure_eq_ok, Results.pure_eq_ok, List.mem_cons, forall_eq_or_imp]
    constructor
    · rintro ⟨_, ⟨_, hx, rfl⟩, hxs⟩
      exact ⟨hx, ih.1 hxs⟩
    · rintro ⟨hx, hxs⟩
      exact ⟨_, ⟨⟨⟩, hx, rfl⟩, ih.2 hxs⟩

theorem parseTableIndex_ok {value : Option Json} {tableIndex : Option Nat}
    (h : parseTableIndex value outline = .ok tableIndex) : ∀ i ∈ tableIndex, i < outline.tableCount := by
  unfold parseTableIndex at h
  split at h
  · cases h
    simp
  · cases h
    simp
  · split_ifs at h with hlt
    · cases h
      simpa using hlt
    · exact absurd h (refuse_ne_ok _)
  · exact absurd h (refuse_ne_ok _)
  · exact absurd h (refuse_ne_ok _)

theorem controlTableOk_of_parse {value : Option Json} {tableIndex : Option Nat} {columnMap : List (String × Nat)}
    (hindex : ∀ i ∈ tableIndex, i < outline.tableCount)
    (h : parseControlTableColumnMap value outline tableIndex = .ok columnMap) :
    ControlTableOk outline ⟨tableIndex, columnMap⟩ := by
  obtain ⟨hcolumns, hdistinct⟩ := parseControlTableColumnMap_ok h
  unfold parseControlTableColumnMap at h
  cases tableIndex with
  | none =>
    simp only [Results.bind_eq_ok, Results.pure_eq_ok] at h
    obtain ⟨-, -, -, -, -, -, rfl⟩ := h
    exact ⟨hcolumns, hdistinct, fun _ => rfl, by simp⟩
  | some i =>
    simp only [Results.bind_eq_ok, Results.pure_eq_ok, forIn_ensure_eq_ok] at h
    obtain ⟨-, -, -, -, parsed, -, -, -, -, hbounds, rfl⟩ := h
    refine ⟨hcolumns, hdistinct, by simp, ?_⟩
    rintro _ ⟨⟩
    exact ⟨hindex i rfl, hbounds⟩

/-- **What an accepted plan is like.** -/
theorem planOk_of_parse {payload : List (String × Json)} {sectionIds : List String} {plan : MappingPlan}
    (h : parseMappingPlan payload outline sectionIds = .ok plan) :
    PlanOk outline (allowedSourceRefs sectionIds) plan := by
  unfold parseMappingPlan at h
  simp only [Results.bind_eq_ok, Results.ensure_eq_ok, Results.pure_eq_ok] at h
  obtain ⟨-, -, -, -, entries, hentries, placements, hplacements, controlTable, -, -, -, tableIndex, hindex, columnMap,
    hmap, exceptions, hexceptions, summary, hsummary, rfl⟩ := h
  obtain ⟨hplaced, htargets, hlength⟩ := parsePlacements_ok hplacements (by simp) (by simp)
  obtain ⟨hexceptionsOk, hexceptionsBound⟩ := parseExceptions_ok hexceptions
  have hbound := length_of_objectList hentries
  rw [List.length_nil, Nat.zero_add, List.length_zipIdx] at hlength
  exact ⟨hplaced, htargets, hlength ▸ hbound, controlTableOk_of_parse (parseTableIndex_ok hindex) hmap, hexceptionsOk,
    hexceptionsBound, bounded_of_boundedText hsummary⟩

end

/-! ## The document is read again -/

def placementFields (p : TextPlacement) : List (String × Json) :=
  [("target_locator", .str p.targetLocator), ("source_ref", .str p.sourceRef), ("mode", .str p.mode.text)]

def exceptionFields (e : MappingException) : List (String × Json) :=
  [("severity", .str e.severity.text), ("code", .str e.code), ("message", .str e.message)]

def columnFields (columnMap : List (String × Nat)) : List (String × Json) := columnMap.map fun c => (c.1, .int c.2)

def controlTableFields (t : ControlTablePlan) : List (String × Json) :=
  [("table_index", t.tableIndex.elim .null fun i => .int i), ("column_map", .obj (columnFields t.columnMap))]

def planFields (plan : MappingPlan) : List (String × Json) :=
  [("schema_version", .str schemaVersion),
    ("text_placements", .arr (plan.textPlacements.map fun p => .obj (placementFields p))),
    ("control_table", .obj (controlTableFields plan.controlTable)),
    ("exceptions", .arr (plan.exceptions.map fun e => .obj (exceptionFields e))), ("summary", .str plan.summary)]

section

variable {fs gs : List (String × Json)}

theorem requireExactKeys_alike (h : AlikeMembers fs gs) (context : String) :
    requireExactKeys fs (gs.map Prod.fst) context = .ok () := by
  have hmissing : ((gs.map Prod.fst).filter fun k => k ∉ fs.map Prod.fst) = [] := by
    rw [List.filter_eq_nil_iff]
    intro k hk
    simpa using (h.keys k).2 hk
  have hextra : ((fs.map Prod.fst).filter fun k => k ∉ gs.map Prod.fst) = [] := by
    rw [List.filter_eq_nil_iff]
    intro k hk
    simpa using (h.keys k).1 hk
  exact if_pos ⟨hmissing, hextra⟩

theorem member_str (h : AlikeMembers fs gs) {k s : String} (hk : Json.member k gs = some (.str s)) :
    Json.member k fs = some (.str s) := by
  obtain ⟨v, hv, halike⟩ := h.member k _ hk
  rw [hv, halike.str]

theorem objectList_alike {α : Type} {fields : α → List (String × Json)} {xs : List α} {v : Json}
    (h : Alike v (.arr (xs.map fun x => .obj (fields x)))) {maximum : Nat} (hbound : xs.length ≤ maximum)
    (fieldName : String) : ∃ objects, objectList (some v) fieldName maximum = .ok objects ∧
      List.Forall₂ (fun fs x => AlikeMembers fs (fields x)) objects xs := by
  obtain ⟨ys, rfl, hys⟩ := h.arr
  rw [List.forall₂_map_right_iff] at hys
  have hobjects : ∃ objects, ys.mapM Json.asObj = some objects ∧
      List.Forall₂ (fun fs x => AlikeMembers fs (fields x)) objects xs := by
    clear hbound h
    induction hys with
    | nil => exact ⟨[], rfl, List.Forall₂.nil⟩
    | cons hhead htail ih =>
      obtain ⟨fs, rfl, hfs⟩ := hhead.obj
      obtain ⟨objects, hobjects, hforall⟩ := ih
      refine ⟨fs :: objects, ?_, List.Forall₂.cons hfs hforall⟩
      rw [List.mapM_cons, hobjects]
      rfl
  obtain ⟨objects, hobjects, hforall⟩ := hobjects
  refine ⟨objects, ?_, hforall⟩
  have hlength : ¬maximum < ys.length := by
    rw [hys.length_eq]
    omega
  simp only [objectList, Option.bind_some, Json.asArr, if_neg hlength, hobjects]

theorem parsePlacement_alike {locators refs : List String} {p : TextPlacement} (h : AlikeMembers fs (placementFields p))
    (hok : PlacementOk locators refs p) {placements : List TextPlacement}
    (hfresh : p.targetLocator ∉ placements.map TextPlacement.targetLocator) (index : Nat) :
    parsePlacement locators refs placements (fs, index) = .ok (placements ++ [p]) := by
  have hmode : PlacementMode.ofText? p.mode.text = some p.mode := by
    cases p.mode <;> decide
  unfold parsePlacement
  simp only [Results.bind_eq_ok, Results.ensure_eq_ok, Results.orRaise_eq_ok, Results.pure_eq_ok]
  refine ⟨⟨⟩, requireExactKeys_alike h _, p.targetLocator, ?_, p.sourceRef, ?_, p.mode, ?_, ⟨⟩, hok.located, ⟨⟩,
    hok.allowed, ⟨⟩, hfresh, rfl⟩
  · rw [member_str h rfl]
    exact hok.target _
  · rw [member_str h rfl]
    exact hok.source _
  · rw [member_str h rfl]
    exact hmode

theorem parsePlacements_alike {locators refs : List String} {objects : List (List (String × Json))}
    (placements : List TextPlacement) {ps : List TextPlacement}
    (h : List.Forall₂ (fun fs p => AlikeMembers fs (placementFields p)) objects ps)
    (hok : ∀ p ∈ ps, PlacementOk locators refs p)
    (hnodup : ((placements ++ ps).map TextPlacement.targetLocator).Nodup) (start : Nat) :
    (objects.zipIdx start).foldlM (parsePlacement locators refs) placements = .ok (placements ++ ps) := by
  induction h generalizing placements start with
  | nil => simp [pure, Except.pure]
  | @cons fs p objects ps hhead htail ih =>
    have hfresh : p.targetLocator ∉ placements.map TextPlacement.targetLocator := by
      rw [List.map_append, List.nodup_append] at hnodup
      exact fun hmem => hnodup.2.2 _ hmem _ (by simp) rfl
    have hstep := parsePlacement_alike hhead (hok p List.mem_cons_self) hfresh start
    have hrest : ((placements ++ [p] ++ ps).map TextPlacement.targetLocator).Nodup := by
      simpa using hnodup
    rw [List.zipIdx_cons, List.foldlM_cons, Results.bind_eq_ok]
    refine ⟨_, hstep, ?_⟩
    rw [ih _ (fun q hq => hok q (List.mem_cons_of_mem _ hq)) hrest (start + 1)]
    simp

theorem parseMappingException_alike {e : MappingException} (h : AlikeMembers fs (exceptionFields e))
    (hok : ExceptionOk e) (index : Nat) : parseMappingException fs index = .ok e := by
  have hseverity : IssueSeverity.ofText? e.severity.text = some e.severity := IssueSeverity.ofText?_eq_some.2 rfl
  unfold parseMappingException
  simp only [Results.bind_eq_ok, Results.pure_eq_ok]
  refine ⟨⟨⟩, requireExactKeys_alike h _, e.severity, ?_, e.code, ?_, e.message, ?_, rfl⟩
  · rw [member_str h rfl, parseSeverity, Option.bind_some, Json.asStr, Option.bind_some, hseverity]
  · rw [member_str h rfl]
    exact hok.code _
  · rw [member_str h rfl]
    exact hok.message _

theorem parseExceptions_alike {payload : List (String × Json)} {exceptions : List MappingException} {v : Json}
    (hmember : Json.member "exceptions" payload = some v)
    (h : Alike v (.arr (exceptions.map fun e => .obj (exceptionFields e)))) (hok : ∀ e ∈ exceptions, ExceptionOk e)
    (hbound : exceptions.length ≤ maxExceptions) : parseExceptions payload = .ok exceptions := by
  obtain ⟨objects, hobjects, hforall⟩ := objectList_alike h hbound "exceptions"
  rw [parseExceptions, hmember, Results.bind_eq_ok]
  refine ⟨objects, hobjects, Results.mapM_eq_ok.2 ?_⟩
  rw [List.forall₂_iff_get]
  have hlength := hforall.length_eq
  refine ⟨by rw [List.length_zipIdx, hlength], fun i hi hj => ?_⟩
  have hi' : i < objects.length := by rw [hlength]; exact hj
  have hentry : AlikeMembers objects[i] (exceptionFields exceptions[i]) :=
    (List.forall₂_iff_get.1 hforall).2 i hi' hj
  have hparse := parseMappingException_alike hentry (hok _ (List.getElem_mem hj)) i
  simpa using hparse

/-! ### The control table -/

theorem parseColumns_alike (parsed : List (String × Nat)) {cm : List (String × Nat)}
    (hmember : ∀ c ∈ cm, Json.member c.1 fs = some (.int c.2)) (hnodup : ((parsed ++ cm).map Prod.snd).Nodup) :
    (cm.map Prod.fst).foldlM (parseColumn fs) parsed = .ok (parsed ++ cm) := by
  induction cm generalizing parsed with
  | nil => simp [pure, Except.pure]
  | cons c cm ih =>
    have hfresh : c.2 ∉ parsed.map Prod.snd := by
      rw [List.map_append, List.nodup_append] at hnodup
      exact fun hmem => hnodup.2.2 _ hmem _ (by simp) rfl
    have hstep : parseColumn fs parsed c.1 = .ok (parsed ++ [c]) := by
      unfold parseColumn
      simp only [Results.bind_eq_ok, Results.ensure_eq_ok, Results.orRaise_eq_ok, Results.pure_eq_ok]
      refine ⟨c.2, ?_, ⟨⟩, hfresh, rfl⟩
      rw [hmember c List.mem_cons_self]
      rfl
    have hrest : ((parsed ++ [c] ++ cm).map Prod.snd).Nodup := by
      simpa using hnodup
    rw [List.map_cons, List.foldlM_cons, Results.bind_eq_ok]
    refine ⟨_, hstep, ?_⟩
    rw [ih _ (fun d hd => hmember d (List.mem_cons_of_mem _ hd)) hrest]
    simp

theorem parseControlTableColumnMap_alike {outline : TemplateOutline} {t : ControlTablePlan} {v : Json}
    (h : Alike v (.obj (columnFields t.columnMap))) (hok : ControlTableOk outline t) :
    parseControlTableColumnMap (some v) outline t.tableIndex = .ok t.columnMap := by
  obtain ⟨fs, rfl, hfs⟩ := h.obj
  have hkeys : (columnFields t.columnMap).map Prod.fst = controlTableColumnNames := by
    rw [columnFields, List.map_map]
    exact hok.columns
  have hdistinct : KeyedList.Distinct Prod.fst (columnFields t.columnMap) := by
    rw [KeyedList.Distinct, hkeys]
    decide
  have hmember : ∀ c ∈ t.columnMap, Json.member c.1 fs = some (.int c.2) := by
    intro c hc
    have hdoc : Json.member c.1 (columnFields t.columnMap) = some (.int c.2) := by
      have hmem : (c.1, Json.int c.2) ∈ columnFields t.columnMap := List.mem_map.2 ⟨c, hc, rfl⟩
      rw [Json.member, (KeyedList.get?_eq_some hdistinct).2 ⟨hmem, rfl⟩]
      rfl
    obtain ⟨w, hw, halike⟩ := hfs.member c.1 _ hdoc
    rw [hw, halike.int]
  have hparsed := parseColumns_alike [] hmember (by simpa using hok.distinct)
  rw [hok.columns, List.nil_append] at hparsed
  have hexact := requireExactKeys_alike hfs "control_table.column_map"
  rw [hkeys] at hexact
  unfold parseControlTableColumnMap
  cases hindex : t.tableIndex with
  | none =>
    simp only [Results.bind_eq_ok, Results.orRaise_eq_ok, Results.pure_eq_ok]
    exact ⟨fs, rfl, ⟨⟩, hexact, _, hparsed, (hok.appended hindex).symm⟩
  | some i =>
    obtain ⟨-, hbounds⟩ := hok.placed i hindex
    have hcolumn : 0 < outline.tableColumnCount i := by
      have hne : t.columnMap ≠ [] := by
        intro hnil
        have hcolumns := hok.columns
        rw [hnil] at hcolumns
        cases hcolumns
      obtain ⟨c, hc⟩ := List.exists_mem_of_ne_nil _ hne
      exact (Nat.zero_le _).trans_lt (hbounds c hc)
    simp only [Results.bind_eq_ok, Results.orRaise_eq_ok, Results.ensure_eq_ok, Results.pure_eq_ok, forIn_ensure_eq_ok]
    exact ⟨fs, rfl, ⟨⟩, hexact, _, hparsed, ⟨⟩, hcolumn, ⟨⟩, hbounds, rfl⟩

theorem parseTableIndex_alike {outline : TemplateOutline} {tableIndex : Option Nat} {v : Json}
    (h : Alike v (tableIndex.elim .null fun i => .int i)) (hok : ∀ i ∈ tableIndex, i < outline.tableCount) :
    parseTableIndex (some v) outline = .ok tableIndex := by
  cases tableIndex with
  | none => rw [h.null, parseTableIndex]
  | some i =>
    rw [Option.elim_some] at h
    rw [h.int]
    exact if_pos (hok i rfl)

end

/-! ### The plan -/

theorem wellFormed_planFields {outline : TemplateOutline} {refs : List String} {plan : MappingPlan}
    (h : PlanOk outline refs plan) : (Json.obj (planFields plan)).WellFormed := by
  have hcolumns : (Json.obj (columnFields plan.controlTable.columnMap)).WellFormed := by
    have hkeys : (columnFields plan.controlTable.columnMap).map Prod.fst = controlTableColumnNames := by
      rw [columnFields, List.map_map]
      exact h.controlTable.columns
    refine ⟨by rw [KeyedList.Distinct, hkeys]; decide, (Json.wellFormedFields_iff _).2 fun q hq => ?_⟩
    obtain ⟨c, -, rfl⟩ := List.mem_map.1 hq
    trivial
  have hindex : (plan.controlTable.tableIndex.elim Json.null fun i => .int i).WellFormed := by
    cases plan.controlTable.tableIndex <;> trivial
  have hplacements : (Json.arr (plan.textPlacements.map fun p => .obj (placementFields p))).WellFormed := by
    refine (Json.wellFormedItems_iff _).2 fun q hq => ?_
    obtain ⟨p, -, rfl⟩ := List.mem_map.1 hq
    exact ⟨by simp [KeyedList.Distinct, placementFields], trivial, trivial, trivial, trivial⟩
  have hexceptions : (Json.arr (plan.exceptions.map fun e => .obj (exceptionFields e))).WellFormed := by
    refine (Json.wellFormedItems_iff _).2 fun q hq => ?_
    obtain ⟨e, -, rfl⟩ := List.mem_map.1 hq
    exact ⟨by simp [KeyedList.Distinct, exceptionFields], trivial, trivial, trivial, trivial⟩
  have hcontrol : (Json.obj (controlTableFields plan.controlTable)).WellFormed :=
    ⟨by simp [KeyedList.Distinct, controlTableFields], hindex, hcolumns, trivial⟩
  exact ⟨by simp [KeyedList.Distinct, planFields], trivial, hplacements, hcontrol, hexceptions, trivial, trivial⟩

theorem parseMappingPlan_alike {outline : TemplateOutline} {sectionIds : List String} {plan : MappingPlan}
    {fs : List (String × Json)} (h : AlikeMembers fs (planFields plan))
    (hok : PlanOk outline (allowedSourceRefs sectionIds) plan) : parseMappingPlan fs outline sectionIds = .ok plan := by
  obtain ⟨placements, hplacements, hplacementsAlike⟩ := h.member "text_placements" _ rfl
  obtain ⟨control, hcontrol, hcontrolAlike⟩ := h.member "control_table" _ rfl
  obtain ⟨exceptions, hexceptions, hexceptionsAlike⟩ := h.member "exceptions" _ rfl
  obtain ⟨objects, hobjects, hforall⟩ := objectList_alike hplacementsAlike hok.placementsBound "text_placements"
  obtain ⟨controlFields, rfl, hcontrolFields⟩ := hcontrolAlike.obj
  obtain ⟨index, hindex, hindexAlike⟩ := hcontrolFields.member "table_index" _ rfl
  obtain ⟨columns, hcolumns, hcolumnsAlike⟩ := hcontrolFields.member "column_map" _ rfl
  have hrun := parsePlacements_alike [] hforall hok.placements (by simpa using hok.targets) 0
  unfold parseMappingPlan
  simp only [Results.bind_eq_ok, Results.ensure_eq_ok, Results.orRaise_eq_ok, Results.pure_eq_ok]
  refine ⟨⟨⟩, ?_, ⟨⟩, requireExactKeys_alike h _, objects, ?_, plan.textPlacements, hrun, controlFields, ?_, ⟨⟩,
    requireExactKeys_alike hcontrolFields _, plan.controlTable.tableIndex, ?_, plan.controlTable.columnMap, ?_,
    plan.exceptions, ?_, plan.summary, ?_, rfl⟩
  · rw [member_str h rfl]
    rfl
  · rw [hplacements]
    exact hobjects
  · rw [hcontrol]
    rfl
  · rw [hindex]
    exact parseTableIndex_alike hindexAlike fun i hi => (hok.controlTable.placed i hi).1
  · rw [hcolumns]
    exact parseControlTableColumnMap_alike hcolumnsAlike hok.controlTable
  · exact parseExceptions_alike hexceptions hexceptionsAlike hok.exceptions hok.exceptionsBound
  · rw [member_str h rfl]
    exact hok.summary _

/-- a text that is read as the document of a plan -/
theorem parseMappingPlanText_alike {outline : TemplateOutline} {sectionIds : List String} {plan : MappingPlan}
    (hok : PlanOk outline (allowedSourceRefs sectionIds) plan) {text : String} {v : Json}
    (htext : JsonText.loads (chars text) = some v) (h : Alike v (mappingPlanDocument plan)) :
    parseMappingPlanText text outline sectionIds = .ok plan := by
  obtain ⟨fs, rfl, hfs⟩ := h.obj
  rw [parseMappingPlanText, parseJsonObject_of_loads htext]
  exact parseMappingPlan_alike hfs hok

/-- **A stored plan is reusable.** The document of an accepted plan gives the plan again: as it is written, with any
blanks between its parts, and as any other text that is read as the document. -/
theorem plan_reparsed {raw : String} {outline : TemplateOutline} {sectionIds : List String} {plan : MappingPlan}
    (h : parseMappingPlanText raw outline sectionIds = .ok plan) :
    (∀ f, JsonText.Blanks f →
      parseMappingPlanText (String.ofList (Json.dumps f (mappingPlanDocument plan))) outline sectionIds = .ok plan) ∧
    ∀ text v, JsonText.loads (chars text) = some v → v.canon = (mappingPlanDocument plan).canon →
      parseMappingPlanText text outline sectionIds = .ok plan := by
  obtain ⟨payload, -, hparse⟩ := Results.bind_eq_ok.1 h
  have hok := planOk_of_parse hparse
  have hwell := wellFormed_planFields hok
  refine ⟨fun f hf => ?_, fun text v htext hcanon => ?_⟩
  · obtain ⟨v, hread, halike⟩ := Json.alike_of_loads hf hwell
    refine parseMappingPlanText_alike hok ?_ halike
    rw [chars_eq, String.toList_ofList]
    exact hread
  · exact parseMappingPlanText_alike hok htext ⟨JsonText.loads_wellFormed htext, hwell, hcanon⟩

namespace Reread

def outline : TemplateOutline := ⟨[⟨"paragraph:0", "System name"⟩], []⟩

/-- a plan that appends its control table, with columns and blank space that are not as they will be stored -/
def response : Json := .obj [
  ("schema_version", .str "1.0.0"),
  ("text_placements", .arr [.obj [("target_locator", .str " paragraph:0"), ("source_ref", .str "system.display_name"),
    ("mode", .str "replace")]]),
  ("control_table", .obj [("table_index", .null), ("column_map", .obj [("title", .int 0), ("control_id", .int 1),
    ("implementation_status", .int 2), ("responsibility", .int 3), ("implementation_statement", .int 4),
    ("evidence_links", .int 7)])]),
  ("exceptions", .arr []),
  ("summary", .str "One  placement.")]

def raw : String := String.ofList (response.dumps .spaced)

def plan : MappingPlan where
  textPlacements := [⟨"paragraph:0", "system.display_name", .replace⟩]
  controlTable := ⟨none, canonicalAppendColumnMap⟩
  exceptions := []
  summary := "One placement."

theorem parsed : parseMappingPlanText raw outline [] = .ok plan := by
  have hrun : (parseMappingPlanText raw outline []).toOption = some plan := by
    rw [parseMappingPlanText, parseJsonObject, raw, chars_eq (String.ofList _), String.toList_ofList]
    decide +kernel
  cases h : parseMappingPlanText raw outline [] with
  | error e =>
    rw [h] at hrun
    cases hrun
  | ok p =>
    rw [h] at hrun
    exact congrArg Except.ok (Option.some.inj hrun)

end Reread

theorem plan_reparsed_small :
    parseMappingPlanText (String.ofList (Json.dumps .compact (mappingPlanDocument Reread.plan))) Reread.outline [] =
      .ok Reread.plan :=
  (plan_reparsed Reread.parsed).1 .compact JsonText.blanks_compact

end AtoService.Workspace.AgencyDocx
