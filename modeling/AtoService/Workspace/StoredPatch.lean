/-
A proposed patch, from the response to the check before it is applied.

`serializePatchResult` is what the row of a patch stores and `deserializePatchResult` what is read back.
`deserialize_stored`: a JSON round trip gives the patch back, up to the order of its changes.
`validateAppliedPatch_of_parsePatch`: what the parser lets through is what the check before applying asks for, although
the two are separate rule sets. `parsePatchResponse_stored` puts the two together.
-/
import AtoService.Lib.JsonRoundTrip
import AtoService.Workspace.ModelOutput

namespace AtoService.Workspace

open AtoService.Py

/-! ## The stored document -/

def stringsJson (xs : List String) : Json := .arr (xs.map .str)

def TargetedPatch.dump (p : TargetedPatch) : Json :=
  .obj [("target_type", .str p.targetType.value), ("target_id", .str p.targetId),
    ("expected_revision", .int p.expectedRevision), ("changes", .obj (p.changes.map fun c => (c.1, .str c.2))),
    ("supporting_fact_ids", stringsJson p.supportingFactIds)]

def GeneratedQuestion.dump (q : GeneratedQuestion) : Json :=
  .obj [("question_key", .str q.questionKey), ("target_type", .str q.targetType.value), ("target_id", .str q.targetId),
    ("question", .str q.question), ("owner_type", .str q.ownerType)]

/-- `_serialize_patch_result` -/
def serializePatchResult (r : PatchResult) : Json :=
  .obj [("patches", .arr (r.patches.map TargetedPatch.dump)),
    ("questions_to_add", .arr (r.questionsToAdd.map GeneratedQuestion.dump)),
    ("question_ids_to_resolve", stringsJson r.questionIdsToResolve), ("change_summary", .str r.changeSummary)]

/-! ## Reading it

The code looks at no type below the lists; here a value of another type than the one that is written is malformed. -/

def memberStr (key : String) (fs : List (String × Json)) : Option String := (Json.member key fs).bind Json.asStr

def memberArr (key : String) (fs : List (String × Json)) : Option (List Json) := (Json.member key fs).bind Json.asArr

def memberTarget (fs : List (String × Json)) : Option TargetType :=
  (memberStr "target_type" fs).bind fun s =>
    [TargetType.fact, .sspSection, .control].find? fun t => t.value == s

/-- one change of a stored patch -/
def TargetedPatch.readText (c : String × Json) : Option (String × String) := c.2.asStr.map fun s => (c.1, s)

def TargetedPatch.read (v : Json) : Option TargetedPatch := do
  let fs ← v.asObj
  let targetType ← memberTarget fs
  let targetId ← memberStr "target_id" fs
  let expectedRevision ← match Json.member "expected_revision" fs with
    | some (.int n) => some n.toNat
    | _ => none
  let changes ← (Json.member "changes" fs).bind Json.asObj
  let changes ← changes.mapM readText
  let supportingFactIds ← (memberArr "supporting_fact_ids" fs).bind fun xs => xs.mapM Json.asStr
  return ⟨targetType, targetId, expectedRevision, changes, supportingFactIds⟩

def GeneratedQuestion.read (v : Json) : Option GeneratedQuestion := do
  let fs ← v.asObj
  let questionKey ← memberStr "question_key" fs
  let targetType ← memberTarget fs
  let targetId ← memberStr "target_id" fs
  let question ← memberStr "question" fs
  let ownerType ← memberStr "owner_type" fs
  return ⟨questionKey, targetType, targetId, question, ownerType⟩

def PatchResult.read (v : Json) : Option PatchResult := do
  let fs ← v.asObj
  let patches ← (memberArr "patches" fs).bind fun xs => xs.mapM TargetedPatch.read
  let questionsToAdd ← (memberArr "questions_to_add" fs).bind fun xs => xs.mapM GeneratedQuestion.read
  let questionIdsToResolve ← (memberArr "question_ids_to_resolve" fs).bind fun xs => xs.mapM Json.asStr
  let changeSummary ← memberStr "change_summary" fs
  return ⟨patches, questionsToAdd, questionIdsToResolve, changeSummary⟩

/-- `_deserialize_patch_result` -/
def deserializePatchResult (operations : Json) : Except Err PatchResult :=
  match operations with
  | .arr [document] =>
    match PatchResult.read document with
    | some r => .ok r
    | none => raise .agentPatchState "stored agent patch is malformed"
  | _ => raise .agentPatchState "stored agent patch is malformed"

/-! ## The round trip -/

/-- the changes of a patch are a dict -/
def TargetedPatch.IsDict (p : TargetedPatch) : Prop := KeyedList.Distinct Prod.fst p.changes

/-- the patch with its changes in the order of their keys -/
def TargetedPatch.sorted (p : TargetedPatch) : TargetedPatch :=
  { p with changes := KeyedList.sorted Prod.fst p.changes }

def PatchResult.sorted (r : PatchResult) : PatchResult := { r with patches := r.patches.map TargetedPatch.sorted }

/-- two patch results that are equal, where the order of a dict does not count -/
structure PatchResult.Same (r r' : PatchResult) : Prop where
  patches : List.Forall₂ (fun p p' : TargetedPatch => p'.changes.Perm p.changes ∧ { p' with changes := p.changes } = p)
    r.patches r'.patches
  rest : { r' with patches := r.patches } = r

theorem PatchResult.same_sorted (r : PatchResult) : r.Same r.sorted where
  patches := List.forall₂_map_right_iff.2 (List.forall₂_same.2 fun _ _ => ⟨KeyedList.sorted_perm _, rfl⟩)
  rest := rfl

theorem wellFormed_stringsJson (xs : List String) : (stringsJson xs).WellFormed := by
  refine (Json.wellFormedItems_iff _).2 fun v hv => ?_
  obtain ⟨s, -, rfl⟩ := List.mem_map.1 hv
  trivial

theorem canon_stringsJson (xs : List String) : (stringsJson xs).canon = stringsJson xs := by
  rw [stringsJson, Json.canon, Json.canonItems_eq, List.map_map]
  rfl

theorem mapM_asStr (xs : List String) : (xs.map Json.str).mapM Json.asStr = some xs := by
  induction xs with
  | nil => rfl
  | cons x xs ih =>
    rw [List.map_cons, List.mapM_cons, ih]
    rfl

theorem memberTarget_of_member {fs : List (String × Json)} {t : TargetType}
    (h : Json.member "target_type" fs = some (.str t.value)) : memberTarget fs = some t := by
  rw [memberTarget, memberStr, h]
  cases t <;> rfl

namespace TargetedPatch

theorem wellFormed_dump {p : TargetedPatch} (h : p.IsDict) : p.dump.WellFormed := by
  have hchanges : (Json.obj (p.changes.map fun c => (c.1, .str c.2))).WellFormed := by
    refine ⟨?_, (Json.wellFormedFields_iff _).2 fun c hc => ?_⟩
    · rw [KeyedList.Distinct, List.map_map]
      exact h
    · obtain ⟨c', -, rfl⟩ := List.mem_map.1 hc
      trivial
  refine ⟨?_, trivial, trivial, trivial, hchanges, wellFormed_stringsJson _, trivial⟩
  show ["target_type", "target_id", "expected_revision", "changes", "supporting_fact_ids"].Nodup
  decide

theorem canon_changes (cs : List (String × String)) : (Json.obj (cs.map fun c => (c.1, .str c.2))).canon =
    .obj ((KeyedList.sorted Prod.fst cs).map fun c => (c.1, .str c.2)) := by
  have hsorted : KeyedList.sorted Prod.fst (cs.map fun c => (c.1, Json.str c.2)) =
      (KeyedList.sorted Prod.fst cs).map fun c => (c.1, .str c.2) := KeyedList.sorted_map _ (fun _ => rfl) cs
  rw [Json.canon_obj, hsorted, List.map_map]
  rfl

theorem mapM_changes (cs : List (String × String)) :
    (cs.map fun c => (c.1, Json.str c.2)).mapM readText = some cs := by
  induction cs with
  | nil => rfl
  | cons c cs ih =>
    rw [List.map_cons, List.mapM_cons, ih]
    rfl

theorem read_dump {p : TargetedPatch} (h : p.IsDict) : read p.dump.canon = some p.sorted := by
  have hwf := wellFormed_dump h
  unfold dump at hwf ⊢
  rw [Json.canon_obj]
  have hmember := JsonText.member_canon hwf
  generalize hfs : ((KeyedList.sorted Prod.fst _).map fun q : String × Json => (q.1, q.2.canon)) = fs at hmember ⊢
  have htype : Json.member "target_type" fs = some (.str p.targetType.value) := hmember "target_type"
  have hid : Json.member "target_id" fs = some (.str p.targetId) := hmember "target_id"
  have hrevision : Json.member "expected_revision" fs = some (.int p.expectedRevision) := hmember "expected_revision"
  have hchanges : Json.member "changes" fs =
      some (.obj ((KeyedList.sorted Prod.fst p.changes).map fun c => (c.1, .str c.2))) :=
    (hmember "changes").trans (congrArg some (canon_changes p.changes))
  have hfacts : Json.member "supporting_fact_ids" fs = some (stringsJson p.supportingFactIds) :=
    (hmember "supporting_fact_ids").trans (congrArg some (canon_stringsJson _))
  simp only [read, Json.asObj, memberTarget_of_member htype, memberStr, memberArr, hid, hrevision, hchanges, hfacts,
    stringsJson, Json.asStr, Json.asArr, Option.bind_some, mapM_changes, mapM_asStr, bind, Int.toNat_natCast]
  rfl

end TargetedPatch

namespace GeneratedQuestion

theorem wellFormed_dump (q : GeneratedQuestion) : q.dump.WellFormed := by
  refine ⟨?_, trivial, trivial, trivial, trivial, trivial, trivial⟩
  show ["question_key", "target_type", "target_id", "question", "owner_type"].Nodup
  decide

theorem read_dump (q : GeneratedQuestion) : read q.dump.canon = some q := by
  have hwf := wellFormed_dump q
  unfold dump at hwf ⊢
  rw [Json.canon_obj]
  have hmember := JsonText.member_canon hwf
  generalize hfs : ((KeyedList.sorted Prod.fst _).map fun q : String × Json => (q.1, q.2.canon)) = fs at hmember ⊢
  have hkey : Json.member "question_key" fs = some (.str q.questionKey) := hmember "question_key"
  have htype : Json.member "target_type" fs = some (.str q.targetType.value) := hmember "target_type"
  have hid : Json.member "target_id" fs = some (.str q.targetId) := hmember "target_id"
  have hquestion : Json.member "question" fs = some (.str q.question) := hmember "question"
  have howner : Json.member "owner_type" fs = some (.str q.ownerType) := hmember "owner_type"
  simp only [read, Json.asObj, memberTarget_of_member htype, memberStr, hkey, hid, hquestion, howner, Json.asStr,
    Option.bind_some, bind]
  rfl

end GeneratedQuestion

theorem mapM_read {α : Type} {dump : α → Json} {read : Json → Option α} {f : α → α} {xs : List α}
    (h : ∀ x ∈ xs, read (dump x).canon = some (f x)) :
    (xs.map fun x => (dump x).canon).mapM read = some (xs.map f) := by
  induction xs with
  | nil => rfl
  | cons x xs ih =>
    rw [List.map_cons, List.mapM_cons, h x List.mem_cons_self, ih fun y hy => h y (List.mem_cons_of_mem _ hy)]
    rfl

theorem canon_arr {α : Type} (dump : α → Json) (xs : List α) :
    (Json.arr (xs.map dump)).canon = .arr (xs.map fun x => (dump x).canon) := by
  rw [Json.canon, Json.canonItems_eq, List.map_map]
  rfl

theorem wellFormed_serialize {r : PatchResult} (h : ∀ p ∈ r.patches, p.IsDict) :
    (serializePatchResult r).WellFormed := by
  refine ⟨?_, (Json.wellFormedItems_iff _).2 fun v hv => ?_, (Json.wellFormedItems_iff _).2 fun v hv => ?_,
    wellFormed_stringsJson _, trivial, trivial⟩
  · show ["patches", "questions_to_add", "question_ids_to_resolve", "change_summary"].Nodup
    decide
  · obtain ⟨p, hp, rfl⟩ := List.mem_map.1 hv
    exact TargetedPatch.wellFormed_dump (h p hp)
  · obtain ⟨q, -, rfl⟩ := List.mem_map.1 hv
    exact GeneratedQuestion.wellFormed_dump q

theorem PatchResult.read_serialize {r : PatchResult} (h : ∀ p ∈ r.patches, p.IsDict) :
    read (serializePatchResult r).canon = some r.sorted := by
  have hwf := wellFormed_serialize h
  unfold serializePatchResult at hwf ⊢
  rw [Json.canon_obj]
  have hmember := JsonText.member_canon hwf
  generalize hfs : ((KeyedList.sorted Prod.fst _).map fun q : String × Json => (q.1, q.2.canon)) = fs at hmember ⊢
  have hpatches : Json.member "patches" fs = some (.arr (r.patches.map fun p => p.dump.canon)) :=
    (hmember "patches").trans (congrArg some (canon_arr _ _))
  have hquestions : Json.member "questions_to_add" fs = some (.arr (r.questionsToAdd.map fun q => q.dump.canon)) :=
    (hmember "questions_to_add").trans (congrArg some (canon_arr _ _))
  have hresolve : Json.member "question_ids_to_resolve" fs = some (stringsJson r.questionIdsToResolve) :=
    (hmember "question_ids_to_resolve").trans (congrArg some (canon_stringsJson _))
  have hsummary : Json.member "change_summary" fs = some (.str r.changeSummary) := hmember "change_summary"
  have hps := mapM_read (f := TargetedPatch.sorted) fun p hp => TargetedPatch.read_dump (h p hp)
  have hqs : (r.questionsToAdd.map fun q => q.dump.canon).mapM GeneratedQuestion.read =
      some (r.questionsToAdd.map id) := mapM_read fun q _ => GeneratedQuestion.read_dump q
  rw [List.map_id] at hqs
  simp only [read, Json.asObj, memberStr, memberArr, hpatches, hquestions, hresolve, hsummary, stringsJson, Json.asStr,
    Json.asArr, Option.bind_some, mapM_asStr, hps, hqs, bind]
  rfl

/-- **A stored patch is read back** from its text, with its changes in the order of their keys. -/
theorem deserialize_stored {r : PatchResult} (h : ∀ p ∈ r.patches, p.IsDict) {f : Separators} (hf : JsonText.Blanks f) :
    ∃ v, JsonText.loads ((Json.arr [serializePatchResult r]).dumps f) = some v ∧
      deserializePatchResult v = .ok r.sorted := by
  refine ⟨_, JsonText.loads_dumps hf (v := Json.arr [serializePatchResult r]) ⟨wellFormed_serialize h, trivial⟩, ?_⟩
  have harr : (Json.arr [serializePatchResult r]).canon = .arr [(serializePatchResult r).canon] := rfl
  rw [harr, deserializePatchResult, PatchResult.read_serialize h]

/-! ## Loading the control response of a profile -/

def defaultControlResponsePolicy : ControlResponsePolicy where
  implementationStatuses :=
    ["implemented", "partially_implemented", "planned", "not_implemented", "not_applicable", "unknown"]
  responsibilities := ["system_specific", "hybrid", "inherited", "unknown"]
  questionOwnerTypes := ["isso", "agency", "technical", "system_owner"]
  evidenceRequiredForAgentStatement := true

/-- `_validated_enum_collection` -/
def validatedEnumCollection (host : Host) (raw : Json) (label : String) (requireUnknown : Bool) :
    Except Err (List String) :=
  match raw with
  | .arr (item :: items) =>
    let values := (item :: items).map (pyStrOf host)
    if ¬values.Nodup then raise .profileBundle (label ++ " values must be unique")
    else if requireUnknown ∧ "unknown" ∉ values then raise .profileBundle (label ++ " must include 'unknown'")
    else .ok values
  | _ => raise .profileBundle (label ++ " must be a non-empty array")

/-- `_load_control_response` -/
def loadControlResponse (host : Host) (raw : Option (List (String × Json))) : Except Err ControlResponsePolicy :=
  match raw with
  | none => .ok defaultControlResponsePolicy
  | some fs => do
    let implementationStatuses ←
      validatedEnumCollection host (field "implementation_statuses" fs) "control_response.implementation_statuses" true
    let responsibilities ←
      validatedEnumCollection host (field "responsibilities" fs) "control_response.responsibilities" true
    let questionOwnerTypes ←
      validatedEnumCollection host (field "question_owner_types" fs) "control_response.question_owner_types" false
    match field "evidence_required_for_agent_statement" fs with
    | .bool evidenceRequired => return ⟨implementationStatuses, responsibilities, questionOwnerTypes, evidenceRequired⟩
    | _ =>
      raise .profileBundle "control_response.evidence_required_for_agent_statement must be a boolean"

/-- the default of an absent status and of an absent responsibility is a value of the profile -/
structure ControlResponsePolicy.Loaded (r : ControlResponsePolicy) : Prop where
  status : "unknown" ∈ r.implementationStatuses
  responsibility : "unknown" ∈ r.responsibilities

theorem unknown_mem_of_validated {host : Host} {raw : Json} {label : String} {values : List String}
    (h : validatedEnumCollection host raw label true = .ok values) : "unknown" ∈ values := by
  unfold validatedEnumCollection at h
  split at h
  · dsimp only at h
    split_ifs at h with hunique hunknown
    · exact absurd h raise_eq_ok.1
    · obtain rfl := Except.ok.inj h
      exact not_not.1 fun hmissing => hunknown ⟨rfl, hmissing⟩
    · exact absurd h raise_eq_ok.1
  · exact absurd h raise_eq_ok.1

theorem loaded_of_loadControlResponse {host : Host} {raw : Option (List (String × Json))} {r : ControlResponsePolicy}
    (h : loadControlResponse host raw = .ok r) : r.Loaded := by
  unfold loadControlResponse at h
  split at h
  · obtain rfl := Except.ok.inj h
    exact ⟨by decide, by decide⟩
  · obtain ⟨statuses, hstatuses, h⟩ := bind_eq_ok.1 h
    obtain ⟨responsibilities, hresponsibilities, h⟩ := bind_eq_ok.1 h
    obtain ⟨owners, -, h⟩ := bind_eq_ok.1 h
    split at h
    · obtain rfl := pure_eq_ok.1 h
      exact ⟨unknown_mem_of_validated hstatuses, unknown_mem_of_validated hresponsibilities⟩
    · exact absurd h raise_eq_ok.1

/-! ## What the parser lets through -/

section

variable {host : Host} {fresh fresh' : Nat → String} {o : Outline}

/-! ### The identifiers that are drawn

No check looks at an identifier of an entry, so it does not matter what `uuid4` draws. -/

theorem mapM_erased {α β : Type} {g g' : α → Except Err β} {e : β → β} (hg : ∀ p, (g p).map e = (g' p).map e)
    (ps : List α) : (ps.mapM g).map (List.map e) = (ps.mapM g').map (List.map e) := by
  induction ps with
  | nil => rfl
  | cons p ps ih =>
    have hp := hg p
    rw [List.mapM_cons, List.mapM_cons]
    cases h : g p <;> cases h' : g' p <;> rw [h, h'] at hp <;> simp only [Except.map] at hp
    · rw [Except.error.inj hp]
      rfl
    · cases hp
    · cases hp
    · rename_i x x'
      cases ht : ps.mapM g <;> cases ht' : ps.mapM g' <;> rw [ht, ht'] at ih <;> simp only [Except.map] at ih
      · rw [Except.error.inj ih]
        rfl
      · cases ih
      · cases ih
      · show Except.ok ((x :: _).map e) = Except.ok ((x' :: _).map e)
        rw [List.map_cons, List.map_cons, Except.ok.inj hp, Except.ok.inj ih]

/-- the document of a register: its entries are read one by one -/
theorem entries_erased {β : Type} {g g' : Json × Nat → Except Err β} {e : β → β} (hg : ∀ p, (g p).map e = (g' p).map e)
    (key detail detail' : String) (v : Json) :
    Except.map (List.map e) (match v with
      | .obj fs => match (Json.member key fs).getD (.arr []) with
        | .arr entries => entries.zipIdx.mapM g
        | _ => raise .valueError detail
      | _ => raise .valueError detail') =
    Except.map (List.map e) (match v with
      | .obj fs => match (Json.member key fs).getD (.arr []) with
        | .arr entries => entries.zipIdx.mapM g'
        | _ => raise .valueError detail
      | _ => raise .valueError detail') := by
  split
  · split
    · exact mapM_erased hg _
    · rfl
  · rfl

/-- a check that does not look at what is erased -/
theorem bind_erased {α β : Type} {x y : Except Err α} {e : α → α} {v : α → Except Err β}
    (h : x.map e = y.map e) (hv : ∀ a, v (e a) = v a) : x >>= v = y >>= v := by
  cases hx : x <;> cases hy : y <;> rw [hx, hy] at h <;> simp only [Except.map] at h
  · rw [Except.error.inj h]
  · cases h
  · cases h
  · show v _ = v _
    rw [← hv, Except.ok.inj h, hv]

def SystemComponent.erased (c : SystemComponent) : SystemComponent := { c with componentId := "" }

def Interconnection.erased (i : Interconnection) : Interconnection := { i with interconnectionId := "" }

def InformationTypeMapping.erased (m : InformationTypeMapping) : InformationTypeMapping := { m with entryId := "" }

theorem parseComponent_erased (p : Json × Nat) :
    (parseComponent host fresh p).map SystemComponent.erased =
      (parseComponent host fresh' p).map SystemComponent.erased := by
  obtain ⟨v, n⟩ := p
  unfold parseComponent
  split
  · split
    · cases parseEvidenceLinks _ <;> rfl
    · rfl
  · rfl

theorem parseComponentInventory_erased (content : String) :
    (parseComponentInventory host fresh content).map (List.map SystemComponent.erased) =
      (parseComponentInventory host fresh' content).map (List.map SystemComponent.erased) := by
  unfold parseComponentInventory
  split_ifs
  · rfl
  · cases loadsSection content "component inventory must be JSON" with
    | error e => rfl
    | ok v => exact entries_erased parseComponent_erased _ _ _ v

theorem parseInterconnection_erased (p : Json × Nat) :
    (parseInterconnection host fresh p).map Interconnection.erased =
      (parseInterconnection host fresh' p).map Interconnection.erased := by
  obtain ⟨v, n⟩ := p
  unfold parseInterconnection
  split
  · split
    · split
      · cases parseEvidenceLinks _ <;> rfl
      · rfl
    · rfl
  · rfl

theorem parseInterconnectionRegister_erased (content : String) :
    (parseInterconnectionRegister host fresh content).map (List.map Interconnection.erased) =
      (parseInterconnectionRegister host fresh' content).map (List.map Interconnection.erased) := by
  unfold parseInterconnectionRegister
  split_ifs
  · rfl
  · cases loadsSection content "interconnection register must be JSON" with
    | error e => rfl
    | ok v => exact entries_erased parseInterconnection_erased _ _ _ v

theorem parseMapping_erased (p : Json × Nat) :
    (parseMapping host fresh p).map InformationTypeMapping.erased =
      (parseMapping host fresh' p).map InformationTypeMapping.erased := by
  obtain ⟨v, n⟩ := p
  cases v with
  | obj fs =>
    simp only [parseMapping]
    split_ifs
    · rfl
    · cases optionalImpact (Json.member "adjusted_confidentiality" fs) with
      | error e => rfl
      | ok c =>
        cases optionalImpact (Json.member "adjusted_integrity" fs) with
        | error e => rfl
        | ok i =>
          cases optionalImpact (Json.member "adjusted_availability" fs) with
          | error e => rfl
          | ok a => cases parseEvidenceLinks (Json.member "evidence" fs) <;> rfl
  | _ => rfl

theorem parseInformationTypeRegister_erased (content : String) :
    (parseInformationTypeRegister host fresh content).map (List.map InformationTypeMapping.erased) =
      (parseInformationTypeRegister host fresh' content).map (List.map InformationTypeMapping.erased) := by
  unfold parseInformationTypeRegister
  split_ifs
  · rfl
  · cases loadsSection content "information type register must be JSON" with
    | error e => rfl
    | ok v => exact entries_erased parseMapping_erased _ _ _ v

theorem validateComponentInventory_erased (cs : List SystemComponent) :
    validateComponentInventory (cs.map SystemComponent.erased) = validateComponentInventory cs := by
  have herror : componentError ∘ SystemComponent.erased = componentError := rfl
  simp only [validateComponentInventory, List.isEmpty_map, List.findSome?_map, herror]

theorem validateInterconnectionRegister_erased (is : List Interconnection) :
    validateInterconnectionRegister (is.map Interconnection.erased) = validateInterconnectionRegister is := by
  have herror : interconnectionError ∘ Interconnection.erased = interconnectionError := rfl
  simp only [validateInterconnectionRegister, List.isEmpty_map, List.findSome?_map, herror]

theorem mappingError_erased (seen : List String) (m : InformationTypeMapping) :
    mappingError seen m.erased = mappingError seen m := by
  have hadjusted : adjustedError m.erased = adjustedError m := rfl
  have hadjusts : ∀ entry, m.erased.hasAdjustment entry = m.hasAdjustment entry := fun _ => rfl
  have hid : m.erased.catalogIdentifier = m.catalogIdentifier := rfl
  have hdescription : m.erased.description = m.description := rfl
  have hrationale : m.erased.adjustmentRationale = m.adjustmentRationale := rfl
  simp only [mappingError, hadjusted, hadjusts, hid, hdescription, hrationale]

theorem mappingsError_erased (seen : List String) (ms : List InformationTypeMapping) :
    mappingsError seen (ms.map InformationTypeMapping.erased) = mappingsError seen ms := by
  induction ms generalizing seen with
  | nil => rfl
  | cons m ms ih =>
    have hid : m.erased.catalogIdentifier = m.catalogIdentifier := rfl
    rw [List.map_cons, mappingsError, mappingsError, mappingError_erased, hid, ih]

theorem validateInformationTypeRegister_erased (ms : List InformationTypeMapping) :
    validateInformationTypeRegister (ms.map InformationTypeMapping.erased) = validateInformationTypeRegister ms := by
  simp only [validateInformationTypeRegister, List.isEmpty_map, mappingsError_erased]

/-- **The policy of a section** does not look at the identifiers that reading a register draws. -/
theorem validateSectionContentAgainstPolicy_fresh (fresh fresh' : Nat → String) (sectionId content : String)
    (r : SspItemPolicy) :
    validateSectionContentAgainstPolicy host fresh sectionId content r =
      validateSectionContentAgainstPolicy host fresh' sectionId content r := by
  unfold validateSectionContentAgainstPolicy
  split
  · rfl
  · rw [bind_erased (parseComponentInventory_erased content) validateComponentInventory_erased]
  · rw [bind_erased (parseInterconnectionRegister_erased content) validateInterconnectionRegister_erased]
  · rw [bind_erased (parseInformationTypeRegister_erased content) validateInformationTypeRegister_erased]
  · rfl

/-! ### Documents -/

theorem Json.wellFormed_field {fs : List (String × Json)} (h : (Json.obj fs).WellFormed) (key : String) :
    (field key fs).WellFormed := by
  unfold field Json.member
  cases hget : KeyedList.get? Prod.fst key fs with
  | none => trivial
  | some p => exact (Json.wellFormedFields_iff _).1 h.2 p (KeyedList.mem_of_get? hget)

theorem wellFormed_of_parseJsonObject {raw : String} {fs : List (String × Json)} (h : parseJsonObject raw = .ok fs) :
    (Json.obj fs).WellFormed := by
  unfold parseJsonObject at h
  split at h
  · rename_i hread
    obtain rfl := Except.ok.inj h
    rcases Option.or_eq_some_iff.1 hread with hread | ⟨-, hread⟩ <;> exact JsonText.loads_wellFormed hread
  · exact absurd h contractError_eq_ok.1
  · exact absurd h contractError_eq_ok.1

theorem wellFormed_of_objectList {v : Json} {name : String} {maximum : Nat} {entries : List (List (String × Json))}
    (hv : v.WellFormed) (h : objectList v name maximum = .ok entries) : ∀ e ∈ entries, (Json.obj e).WellFormed := by
  unfold objectList at h
  split at h
  · split_ifs at h
    · exact absurd h contractError_eq_ok.1
    · split at h
      · rename_i hobjects
        obtain rfl := Except.ok.inj h
        rw [Json.eq_map_obj (Results.optionMapM_eq_some.1 hobjects)] at hv
        exact fun e he => (Json.wellFormedItems_iff _).1 hv _ (List.mem_map_of_mem he)
      · exact absurd h contractError_eq_ok.1
  · exact absurd h contractError_eq_ok.1

/-! ### Changes -/

/-- what the reader guarantees of one change -/
structure ChangeRead (o : Outline) (c : String × String) : Prop where
  stripped : strip c.2 = c.2
  status : c.1 = "implementation_status" → c.2 ∈ o.policy.controlResponse.implementationStatuses
  responsibility : c.1 = "responsibility" → c.2 ∈ o.policy.controlResponse.responsibilities

theorem readChange_eq_ok {p : String × Json} {c : String × String} (h : readChange o p = .ok c) :
    c.1 = p.1 ∧ ChangeRead o c := by
  unfold readChange at h
  dsimp only at h
  split_ifs at h with hstatus hresponsibility <;> obtain ⟨text, htext, h⟩ := bind_eq_ok.1 h <;>
    obtain rfl := pure_eq_ok.1 h <;> refine ⟨rfl, ?_⟩
  · have hread := readAllowed_eq_ok htext
    exact ⟨hread.2, fun _ => hread.1, fun hkey => absurd (hkey.symm.trans hstatus) (by decide)⟩
  · have hread := readAllowed_eq_ok htext
    exact ⟨hread.2, fun hkey => absurd hkey hstatus, fun _ => hread.1⟩
  · exact ⟨strip_of_readText htext, fun hkey => absurd hkey hstatus, fun hkey => absurd hkey hresponsibility⟩

theorem readChanges_eq_ok {v : Json} {t : TargetType} {changes : List (String × String)} (hv : v.WellFormed)
    (h : readChanges host o v t = .ok changes) :
    KeyedList.Distinct Prod.fst changes ∧ ∀ c ∈ changes, ChangeRead o c := by
  unfold readChanges at h
  split at h
  · dsimp only at h
    split_ifs at h
    · obtain ⟨_, hfail, -⟩ := bind_eq_ok.1 h
      exact absurd hfail contractError_eq_ok.1
    have hkeys {ps : List (String × Json)} {cs : List (String × String)} (hcs : ps.mapM (readChange o) = .ok cs) :
        cs.map Prod.fst = ps.map Prod.fst := by
      rw [mapM_eq_ok] at hcs
      induction hcs with
      | nil => rfl
      | cons hc _ ih => rw [List.map_cons, List.map_cons, ih, (readChange_eq_ok hc).1]
    refine ⟨?_, fun c hc => ?_⟩
    · rw [KeyedList.Distinct, hkeys h]
      exact hv.1
    · obtain ⟨p, -, hp⟩ := exists_of_mem_mapM h hc
      exact (readChange_eq_ok hp).2
  · exact absurd h contractError_eq_ok.1

theorem TargetedPatch.change_sorted {p : TargetedPatch} (h : p.IsDict) (key : String) :
    p.sorted.change key = p.change key := congrArg (Option.map Prod.snd) (KeyedList.get?_sorted h)

theorem TargetedPatch.mem_of_change {p : TargetedPatch} {key s : String} (h : p.change key = some s) :
    (key, s) ∈ p.changes := by
  obtain ⟨c, hc, rfl⟩ := Option.map_eq_some_iff.1 h
  rw [← KeyedList.key_of_get? hc]
  exact KeyedList.mem_of_get? hc

/-! ### Patches -/

theorem validateWorkspaceSectionContent_of_require {id content : String}
    (h : requireSectionPatch host fresh o id content = .ok ()) :
    validateWorkspaceSectionContent host fresh' id content o.policy = .ok () := by
  unfold requireSectionPatch at h
  unfold validateWorkspaceSectionContent
  split_ifs at h ⊢ with htext
  · rfl
  · cases hitem : o.policy.item? id with
    | none =>
      simp only [hitem] at h
      exact absurd h contractError_eq_ok.1
    | some requirement =>
      simp only [hitem] at h
      simp only [validateSectionContentAgainstPolicy_fresh fresh' fresh, h]

theorem orUnknown_mem {s : String} {allowed : List String} (hunknown : "unknown" ∈ allowed) (hstrip : strip s = s)
    (hs : s ∈ allowed) : orUnknown (some s) ∈ allowed := by
  unfold orUnknown
  split
  · exact hunknown
  · exact hunknown
  · rename_i heq
    obtain rfl := Option.some.inj heq
    rwa [hstrip]

theorem orUnknown_change_mem {p : TargetedPatch} {key : String} {allowed : List String} (hunknown : "unknown" ∈ allowed)
    (hread : ∀ s, (key, s) ∈ p.changes → strip s = s ∧ s ∈ allowed) :
    orUnknown (some ((p.change key).getD "unknown")) ∈ allowed := by
  cases h : p.change key with
  | none => exact orUnknown_mem hunknown (by decide) hunknown
  | some s =>
    have hs := hread s (TargetedPatch.mem_of_change h)
    exact orUnknown_mem hunknown hs.1 hs.2

/-- a control patch that the parser lets through -/
theorem validateAppliedPatch_of_control {p : TargetedPatch} (hloaded : o.policy.controlResponse.Loaded)
    (htype : p.targetType ≠ .sspSection) (hids : sortedDifference p.supportingFactIds o.factIds = [])
    (hread : ∀ c ∈ p.changes, ChangeRead o c) (h : requireControlPatch o p = .ok ()) :
    validateAppliedPatch host fresh o.policy o.factIds p = .ok () := by
  have hstatus := orUnknown_change_mem hloaded.status fun s hs =>
    ⟨(hread _ hs).stripped, (hread _ hs).status rfl⟩
  have hresponsibility := orUnknown_change_mem hloaded.responsibility fun s hs =>
    ⟨(hread _ hs).stripped, (hread _ hs).responsibility rfl⟩
  unfold requireControlPatch at h
  dsimp only at h
  split_ifs at h with hoscal _ hfacts
  · obtain ⟨_, hfail, -⟩ := bind_eq_ok.1 h
    exact absurd hfail contractError_eq_ok.1
  · obtain ⟨_, hfail, -⟩ := bind_eq_ok.1 h
    exact absurd hfail contractError_eq_ok.1
  · exact absurd h contractError_eq_ok.1
  · simp only [validateAppliedPatch, hids, List.isEmpty_nil, Bool.not_true, Bool.false_eq_true, if_false, htype,
      validateWorkspaceControlFields, hstatus, hresponsibility, not_true_eq_false,
      validateWorkspaceImplementationStatement, hoscal, hfacts, ite_self, bind, Except.bind]

/-- a section patch that the parser lets through -/
theorem validateAppliedPatch_of_section (fresh : Nat → String) {p : TargetedPatch} (htype : p.targetType = .sspSection)
    (hids : sortedDifference p.supportingFactIds o.factIds = [])
    (hcontent : requireSectionPatch host fresh o p.targetId ((p.change "content").getD "") = .ok ())
    (hfacts : ¬(hasText ((p.change "content").getD "") = true ∧ p.supportingFactIds = [])) :
    validateAppliedPatch host fresh' o.policy o.factIds p = .ok () := by
  have hchecked : validateWorkspaceSectionContent host fresh' p.targetId ((p.change "content").getD "") o.policy =
      .ok () := validateWorkspaceSectionContent_of_require hcontent
  have hgrounded : ¬(hasText ((p.change "content").getD "") && p.supportingFactIds.isEmpty) = true := by
    rwa [Bool.and_eq_true, List.isEmpty_iff]
  simp only [validateAppliedPatch, hids, List.isEmpty_nil, Bool.not_true, Bool.false_eq_true, if_false, htype, if_true,
    hchecked, hgrounded, bind, Except.bind]

/-- **A patch that the parser lets through** is what the check before applying asks for. -/
theorem validateAppliedPatch_of_parsePatch {revisions : Revisions} {entry : List (String × Json)} {p : TargetedPatch}
    (hloaded : o.policy.controlResponse.Loaded) (hentry : (Json.obj entry).WellFormed)
    (h : parsePatch host fresh o revisions entry = .ok p) :
    p.IsDict ∧ validateAppliedPatch host fresh' o.policy o.factIds p = .ok () := by
  unfold parsePatch at h
  obtain ⟨-, -, h⟩ := bind_eq_ok.1 h
  obtain ⟨targetType, -, h⟩ := bind_eq_ok.1 h
  obtain ⟨targetId, -, h⟩ := bind_eq_ok.1 h
  obtain ⟨expectedRevision, -, h⟩ := bind_eq_ok.1 h
  obtain ⟨changes, hchanges, h⟩ := bind_eq_ok.1 h
  obtain ⟨factIds, hfactIds, h⟩ := bind_eq_ok.1 h
  obtain ⟨hdict, hread⟩ := readChanges_eq_ok (Json.wellFormed_field hentry "changes") hchanges
  have hids := sortedDifference_of_readFactIds hfactIds
  dsimp only at h
  split_ifs at h with htype hfacts
  · obtain ⟨_, hcontent, h⟩ := bind_eq_ok.1 h
    obtain rfl := pure_eq_ok.1 h
    refine ⟨KeyedList.distinct_put hdict, ?_⟩
    have hblank : ((⟨targetType, targetId, expectedRevision, KeyedList.put Prod.fst ("content", "") changes,
        factIds⟩ : TargetedPatch).change "content").getD "" = "" := by
      rw [TargetedPatch.change, KeyedList.get?_put, if_pos rfl]
      rfl
    refine validateAppliedPatch_of_section fresh htype hids ?_ ?_ <;> rw [hblank]
    · rfl
    · exact fun hblank => absurd hblank.1 (by decide)
  · obtain ⟨_, hcontent, h⟩ := bind_eq_ok.1 h
    obtain rfl := pure_eq_ok.1 h
    exact ⟨hdict, validateAppliedPatch_of_section fresh htype hids hcontent hfacts⟩
  · obtain ⟨_, hcontrol, h⟩ := bind_eq_ok.1 h
    obtain rfl := pure_eq_ok.1 h
    exact ⟨hdict, validateAppliedPatch_of_control hloaded htype hids hread hcontrol⟩

theorem validateAppliedPatch_sorted {p : TargetedPatch} (h : p.IsDict) (policy : SelectedProfilePolicy)
    (factIds : List String) :
    validateAppliedPatch host fresh policy factIds p.sorted = validateAppliedPatch host fresh policy factIds p := by
  have htype : p.sorted.targetType = p.targetType := rfl
  have hid : p.sorted.targetId = p.targetId := rfl
  have hfacts : p.sorted.supportingFactIds = p.supportingFactIds := rfl
  simp only [validateAppliedPatch, TargetedPatch.change_sorted h, htype, hid, hfacts]

/-! ## The whole path -/

theorem ownerAllowed_of_parseQuestion {entry : List (String × Json)} {q : GeneratedQuestion}
    (h : parseQuestion host o entry = .ok q) : validateWorkspaceQuestionOwner q.ownerType o.policy = .ok () := by
  unfold parseQuestion at h
  obtain ⟨-, -, h⟩ := bind_eq_ok.1 h
  obtain ⟨targetType, -, h⟩ := bind_eq_ok.1 h
  obtain ⟨targetId, -, h⟩ := bind_eq_ok.1 h
  obtain ⟨question, -, h⟩ := bind_eq_ok.1 h
  obtain ⟨ownerType, howner, h⟩ := bind_eq_ok.1 h
  obtain rfl := pure_eq_ok.1 h
  exact if_neg (not_not_intro (readAllowed_eq_ok howner).1)

/-- **A stored patch stays valid.** What the parser accepts for a loaded profile is read back from its stored text,
equal as far as the order of a dict does not count, and the check before applying accepts it. -/
theorem parsePatchResponse_stored {revisions : Revisions} {questionIds : List String} {raw : String} {r : PatchResult}
    {f : Separators} {profile : ResolvedProfile} {document : Option (List (String × Json))} (hf : JsonText.Blanks f)
    (hprofile : o.policy = SelectedProfilePolicy.fromResolved profile)
    (hload : loadControlResponse host document = .ok profile.controlResponse)
    (h : parsePatchResponse host fresh o revisions questionIds raw = .ok r) :
    ∃ v r', JsonText.loads ((Json.arr [serializePatchResult r]).dumps f) = some v ∧
      deserializePatchResult v = .ok r' ∧ r.Same r' ∧
      validateAppliedPatchResult host fresh' r' o.policy o.factIds = .ok () := by
  have hloaded : o.policy.controlResponse.Loaded :=
    hprofile ▸ ⟨(loaded_of_loadControlResponse hload).status, (loaded_of_loadControlResponse hload).responsibility⟩
  unfold parsePatchResponse at h
  obtain ⟨payload, hpayload, h⟩ := bind_eq_ok.1 h
  obtain ⟨-, -, h⟩ := bind_eq_ok.1 h
  obtain ⟨-, -, h⟩ := bind_eq_ok.1 h
  obtain ⟨patchEntries, hentries, h⟩ := bind_eq_ok.1 h
  obtain ⟨questionEntries, -, h⟩ := bind_eq_ok.1 h
  obtain ⟨resolveIds, -, h⟩ := bind_eq_ok.1 h
  dsimp only at h
  split_ifs at h
  · obtain ⟨_, hfail, -⟩ := bind_eq_ok.1 h
    exact absurd hfail contractError_eq_ok.1
  obtain ⟨patches, hpatches, h⟩ := bind_eq_ok.1 h
  obtain ⟨questions, hquestions, h⟩ := bind_eq_ok.1 h
  obtain ⟨-, -, h⟩ := bind_eq_ok.1 h
  obtain ⟨-, -, h⟩ := bind_eq_ok.1 h
  obtain ⟨-, -, h⟩ := bind_eq_ok.1 h
  obtain ⟨changeSummary, -, h⟩ := bind_eq_ok.1 h
  obtain rfl := pure_eq_ok.1 h
  have hwf := wellFormed_of_objectList
    (Json.wellFormed_field (wellFormed_of_parseJsonObject hpayload) "patches") hentries
  have hchecked : ∀ p ∈ patches, p.IsDict ∧ validateAppliedPatch host fresh' o.policy o.factIds p = .ok () := by
    intro p hp
    obtain ⟨entry, hentry, hparse⟩ := exists_of_mem_mapM hpatches hp
    exact validateAppliedPatch_of_parsePatch hloaded (hwf entry hentry) hparse
  obtain ⟨v, hread, hstored⟩ := deserialize_stored (r := ⟨patches, questions, resolveIds, changeSummary⟩)
    (fun p hp => (hchecked p hp).1) hf
  refine ⟨v, _, hread, hstored, PatchResult.same_sorted _, ?_⟩
  rw [validateAppliedPatchResult, bind_eq_ok]
  refine ⟨(), forM_eq_ok.2 fun q hq => ?_, forM_eq_ok.2 fun p hp => ?_⟩
  · obtain ⟨entry, -, hparse⟩ := exists_of_mem_mapM hquestions hq
    exact ownerAllowed_of_parseQuestion hparse
  · obtain ⟨p', hp', rfl⟩ := List.mem_map.1 hp
    rw [validateAppliedPatch_sorted (hchecked p' hp').1]
    exact (hchecked p' hp').2

end

namespace Small

/-- a profile without a control response of its own -/
def defaultsProfile : ResolvedProfile where
  profileId := "agency"
  profileVersion := "1"
  impactLevel := "low"
  sources := []
  controls := [⟨"AC-1", "Policy", "Write a policy."⟩]
  sspRequiredItems := [⟨"system.purpose", "Purpose", .string, some 5, [], true, true, [], none⟩]
  controlResponse := defaultControlResponsePolicy
  standardCoverage := []
  implementationStatementPolicy := ⟨"1", ⟨true, true, true, true, true⟩, ⟨[], [], [], []⟩, []⟩

/-- a section text, the responsibility of a control, and a question -/
def proposal : Json :=
  .obj [("schema_version", .str schemaVersion),
    ("patches", .arr [
      .obj [("target_type", .str "ssp_section"), ("target_id", .str "system.purpose"), ("expected_revision", .int 3),
        ("changes", .obj [("content", .str " It serves mail. ")]),
        ("supporting_fact_ids", stringsJson ["evidence.a"])],
      .obj [("target_type", .str "control"), ("target_id", .str "AC-1"), ("expected_revision", .int 3),
        ("changes", .obj [("responsibility", .str "hybrid"), ("implementation_statement", .str "A policy.")]),
        ("supporting_fact_ids", stringsJson ["evidence.a"])]]),
    ("questions_to_add", .arr [
      .obj [("target_type", .str "control"), ("target_id", .str "AC-1"), ("question", .str "Who signs it?"),
        ("owner_type", .str "agency")]]),
    ("question_ids_to_resolve", stringsJson []), ("change_summary", .str "A purpose.")]

def outline : Outline := .ofProfile defaultsProfile ["evidence.a"]

def responseHost : Host := ⟨id, id, fun _ => "", id, fun _ => ""⟩

def parsed : Except Err PatchResult :=
  parsePatchResponse responseHost (fun _ => "") outline (fun _ _ => some 3) [] (String.ofList (proposal.dumps .compact))

end Small

theorem parsePatchResponse_stored_small : ∃ r, Small.parsed = .ok r ∧ r.patches.length = 2 ∧
    ∃ v r', JsonText.loads ((Json.arr [serializePatchResult r]).dumps .spaced) = some v ∧
      deserializePatchResult v = .ok r' ∧ r.Same r' ∧
      validateAppliedPatchResult Small.responseHost (fun _ => "") r' Small.outline.policy Small.outline.factIds =
        .ok () := by
  have hok : Small.parsed.toOption.any (fun r => r.patches.length = 2) = true := by
    -- the text of a written value is not decoded from its bytes
    rw [Small.parsed, parsePatchResponse, parseJsonObject, Py.chars_eq (String.ofList _), String.toList_ofList]
    decide +kernel
  generalize hres : Small.parsed = res at hok
  cases res with
  | error e => cases hok
  | ok r =>
    have hprofile : Small.outline.policy = SelectedProfilePolicy.fromResolved Small.defaultsProfile := rfl
    have hload : loadControlResponse Small.responseHost none = .ok Small.defaultsProfile.controlResponse := rfl
    exact ⟨r, rfl, of_decide_eq_true hok, parsePatchResponse_stored JsonText.blanks_spaced hprofile hload hres⟩

end AtoService.Workspace
