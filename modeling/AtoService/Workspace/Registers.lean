/-
Structured registers, from what is submitted to what is read back.

`build` makes the registers of a request, with an identifier drawn for each entry that has none. `normalized` is what a
register is after it was written: texts without surrounding blanks, data types without blank ones, locators in the order
of their keys. `parse…_toDict` read one entry back, and `registers_roundTrip_iff` says when everything that was saved is
read back and validates again: a blank text is no data type to the writer, but it is one to the validator.
-/
import AtoService.Lib.JsonRoundTrip
import AtoService.Workspace.Safety

namespace AtoService.Workspace

open AtoService.Py

/-! ## What is submitted -/

/-- a `dict[str, Any]` -/
structure Dict where
  fields : List (String × Json)
  wellFormed : (Json.obj fields).WellFormed

structure EvidenceLinkRequest where
  artifactId : Uuid
  locator : Dict

structure DiagramLinkRequest where
  artifactId : Uuid
  locator : Dict
  label : String := ""

structure SystemComponentRequest where
  componentId : String := ""
  name : String
  purpose : String
  placement : String
  evidence : List EvidenceLinkRequest := []

structure InterconnectionRequest where
  interconnectionId : String := ""
  connectedOrganization : String
  connectedSystem : String
  direction : String
  dataTypes : List String
  interfaceProtocol : String
  connectionOwner : String
  agreementType : String
  agreementId : String := ""
  agreementStatus : String := ""
  agreementExpiration : String := ""
  boundaryProtections : String
  evidence : List EvidenceLinkRequest := []

structure SaveSystemDefinitionRequest where
  boundaryNarrative : String
  diagramLinks : List DiagramLinkRequest := []
  components : List SystemComponentRequest
  interconnections : List InterconnectionRequest

structure InformationTypeMappingRequest where
  entryId : String := ""
  catalogIdentifier : String
  description : String
  adjustedConfidentiality : Option String := none
  adjustedIntegrity : Option String := none
  adjustedAvailability : Option String := none
  adjustmentRationale : String := ""
  evidence : List EvidenceLinkRequest := []

namespace EvidenceLinkRequest

/-- `EvidenceLink(artifact_id=…, locator=…)` -/
def link (r : EvidenceLinkRequest) : Except Err EvidenceLink :=
  if h : r.locator.fields ≠ [] then .ok ⟨r.artifactId, r.locator.fields, h⟩ else raise .validation "locator"

end EvidenceLinkRequest

/-- `str(raw.get(…) or uuid.uuid4())` -/
def idOr (id : String) (drawn : Uuid) : String := if id = "" then drawn.str else id

section

-- `drawn n` is what `uuid4` draws for the `n`-th entry
variable (drawn : Nat → Uuid)

def SystemComponentRequest.build (p : SystemComponentRequest × Nat) : Except Err SystemComponent := do
  let evidence ← p.1.evidence.mapM EvidenceLinkRequest.link
  return ⟨idOr p.1.componentId (drawn p.2), p.1.name, p.1.purpose, p.1.placement, evidence⟩

def InterconnectionRequest.build (p : InterconnectionRequest × Nat) : Except Err Interconnection := do
  let evidence ← p.1.evidence.mapM EvidenceLinkRequest.link
  return {
    interconnectionId := idOr p.1.interconnectionId (drawn p.2)
    connectedOrganization := p.1.connectedOrganization
    connectedSystem := p.1.connectedSystem
    direction := p.1.direction
    dataTypes := p.1.dataTypes
    interfaceProtocol := p.1.interfaceProtocol
    connectionOwner := p.1.connectionOwner
    agreementType := p.1.agreementType
    agreementId := p.1.agreementId
    agreementStatus := p.1.agreementStatus
    agreementExpiration := p.1.agreementExpiration
    boundaryProtections := p.1.boundaryProtections
    evidence }

/-- the registers that `save_system_definition` makes of a request -/
def SaveSystemDefinitionRequest.build (r : SaveSystemDefinitionRequest) : Except Err SystemDefinitionInput := do
  let links := r.diagramLinks.map fun l => (⟨l.artifactId, l.locator.fields, l.label⟩ : DiagramLink)
  let components ← r.components.zipIdx.mapM (SystemComponentRequest.build drawn)
  let interconnections ← (r.interconnections.zipIdx r.components.length).mapM (InterconnectionRequest.build drawn)
  return ⟨⟨r.boundaryNarrative, links⟩, components, interconnections⟩

def InformationTypeMappingRequest.build (p : InformationTypeMappingRequest × Nat) :
    Except Err InformationTypeMapping := do
  let evidence ← p.1.evidence.mapM EvidenceLinkRequest.link
  return ⟨idOr p.1.entryId (drawn p.2), p.1.catalogIdentifier, p.1.description, p.1.adjustedConfidentiality,
    p.1.adjustedIntegrity, p.1.adjustedAvailability, p.1.adjustmentRationale, evidence⟩

/-- the mappings that `save_information_types` makes of a request -/
def buildMappings (rs : List InformationTypeMappingRequest) : Except Err (List InformationTypeMapping) :=
  rs.zipIdx.mapM (InformationTypeMappingRequest.build drawn)

end

/-! ## What is written -/

/-- the locator with its members, at every depth, in the order of their keys -/
def normalizedLocator (l : List (String × Json)) : List (String × Json) :=
  (sortedLocator l).map fun p => (p.1, p.2.canon)

theorem normalizedLocator_ne {l : List (String × Json)} (h : l ≠ []) : normalizedLocator l ≠ [] := by
  intro hn
  have hp : (sortedLocator l).length = l.length := (KeyedList.sorted_perm l).length_eq
  rw [List.map_eq_nil_iff.1 hn] at hp
  exact h (List.eq_nil_of_length_eq_zero hp.symm)

namespace EvidenceLink

def normalized (l : EvidenceLink) : EvidenceLink :=
  ⟨l.artifactId, normalizedLocator l.locator, normalizedLocator_ne l.nonempty⟩

end EvidenceLink

namespace AuthorizationBoundary

def normalized (b : AuthorizationBoundary) : AuthorizationBoundary where
  narrative := strip b.narrative
  diagramLinks := b.diagramLinks.map fun l => ⟨l.artifactId, normalizedLocator l.locator, strip l.label⟩

end AuthorizationBoundary

namespace SystemComponent

def normalized (c : SystemComponent) : SystemComponent :=
  { c with name := strip c.name, purpose := strip c.purpose, evidence := c.evidence.map EvidenceLink.normalized }

end SystemComponent

namespace Interconnection

def normalized (i : Interconnection) : Interconnection where
  interconnectionId := i.interconnectionId
  connectedOrganization := strip i.connectedOrganization
  connectedSystem := strip i.connectedSystem
  direction := i.direction
  dataTypes := (i.dataTypes.filter hasText).map strip
  interfaceProtocol := strip i.interfaceProtocol
  connectionOwner := strip i.connectionOwner
  agreementType := strip i.agreementType
  agreementId := strip i.agreementId
  agreementStatus := strip i.agreementStatus
  agreementExpiration := strip i.agreementExpiration
  boundaryProtections := strip i.boundaryProtections
  evidence := i.evidence.map EvidenceLink.normalized

end Interconnection

namespace InformationTypeMapping

def normalized (m : InformationTypeMapping) : InformationTypeMapping :=
  { m with
    description := strip m.description
    adjustmentRationale := strip m.adjustmentRationale
    evidence := m.evidence.map EvidenceLink.normalized }

end InformationTypeMapping

/-! ## Reading what was written -/

/-- the evidence of an entry has dicts for locators -/
def Dicts (ls : List EvidenceLink) : Prop := ∀ l ∈ ls, (Json.obj l.locator).WellFormed

section

variable {l : List (String × Json)}

theorem wellFormed_sortedLocator (h : (Json.obj l).WellFormed) : (Json.obj (sortedLocator l)).WellFormed := by
  obtain ⟨hd, hv⟩ := h
  refine ⟨KeyedList.distinct_sorted hd, (Json.wellFormedFields_iff _).2 fun p hp => ?_⟩
  exact (Json.wellFormedFields_iff _).1 hv p (KeyedList.mem_sorted.1 hp)

theorem sortedLocator_sortedLocator (l : List (String × Json)) : sortedLocator (sortedLocator l) = sortedLocator l :=
  (KeyedList.sorted_pairwise l).insertionSort_eq

theorem canon_str (s : String) : (Json.str s).canon = .str s := rfl

theorem canon_sortedLocator (l : List (String × Json)) :
    (Json.obj (sortedLocator l)).canon = .obj (normalizedLocator l) := by
  have h := Json.canon_obj (sortedLocator l)
  rw [h]
  exact congrArg (fun m => Json.obj (m.map fun p => (p.1, p.2.canon))) (sortedLocator_sortedLocator l)

end

theorem hasText_dumps (fs : List (String × Json)) :
    hasText (String.ofList ((Json.obj fs).dumps .spaced)) = true := by
  have hhead := Json.dumps_obj .spaced fs
  exact hasText_of_head ((String.toList_ofList).trans hhead) (by decide)

theorem loads_section {v : Json} (hv : v.WellFormed) :
    JsonText.loads (Py.chars (String.ofList (v.dumps .spaced))) = some v.canon := by
  rw [chars_eq, String.toList_ofList]
  exact JsonText.loads_dumps JsonText.blanks_spaced hv

theorem mapM_written {α β : Type} {f : α → Json} {g : Json × Nat → Except Err β} {h : α → β} {xs : List α}
    (hg : ∀ x ∈ xs, ∀ n, g (f x, n) = .ok (h x)) (k : Nat) : ((xs.map f).zipIdx k).mapM g = .ok (xs.map h) := by
  induction xs generalizing k with
  | nil => rfl
  | cons x xs ih =>
    rw [List.map_cons, List.zipIdx_cons, List.mapM_cons, hg x List.mem_cons_self,
      ih (fun y hy => hg y (List.mem_cons_of_mem _ hy))]
    rfl

section

variable {host : Host} {fresh : Nat → String}

theorem truthyStr_id (pyStr : Json → String) {s : String} (hs : s ≠ "") (d : String) :
    truthyStr (some (.str s)) pyStr d = s := by
  unfold truthyStr
  split <;> grind

theorem truthyStr_str (pyStr : Json → String) (s : String) : truthyStr (some (.str s)) pyStr "" = s := by
  by_cases hs : s = ""
  · rw [hs]
    rfl
  · exact truthyStr_id pyStr hs ""

theorem wellFormed_link {u : Uuid} {loc : List (String × Json)} (h : (Json.obj loc).WellFormed) :
    (Json.obj [("artifact_id", .str u.str), ("locator", .obj (sortedLocator loc))]).WellFormed := by
  refine ⟨?_, trivial, wellFormed_sortedLocator h, trivial⟩
  show ["artifact_id", "locator"].Nodup
  decide

theorem uuidOf_str (u : Uuid) : uuidOf u.str = .ok u := by
  rw [uuidOf, Uuid.parse_str]

theorem parseEvidenceLinks_entry {l : EvidenceLink} (h : (Json.obj l.locator).WellFormed) :
    parseEvidenceLinks.entry
      (Json.obj [("artifact_id", .str l.artifactId.str), ("locator", .obj (sortedLocator l.locator))]).canon =
      .ok l.normalized := by
  have hid : Json.member "artifact_id"
      [("artifact_id", .str l.artifactId.str), ("locator", .obj (sortedLocator l.locator))] =
      some (.str l.artifactId.str) := rfl
  have hloc : Json.member "locator"
      [("artifact_id", .str l.artifactId.str), ("locator", .obj (sortedLocator l.locator))] =
      some (.obj (sortedLocator l.locator)) := rfl
  rw [Json.canon_obj]
  simp only [parseEvidenceLinks.entry, JsonText.member_canon (wellFormed_link h), hid, hloc, Option.map_some,
    canon_sortedLocator]
  obtain ⟨p, ps, hn⟩ := List.exists_cons_of_ne_nil (normalizedLocator_ne l.nonempty)
  have hl : l.normalized = ⟨l.artifactId, p :: ps, List.cons_ne_nil p ps⟩ := by
    simp only [EvidenceLink.normalized, hn]
  simp only [hn, hl, canon_str, uuidOf_str]
  rfl

theorem canon_evidenceJson (ls : List EvidenceLink) : (evidenceJson ls).canon = .arr (ls.map fun l =>
    (Json.obj [("artifact_id", .str l.artifactId.str), ("locator", .obj (sortedLocator l.locator))]).canon) := by
  rw [evidenceJson, Json.canon, Json.canonItems_eq, List.map_map]
  rfl

theorem wellFormed_evidenceJson {ls : List EvidenceLink} (h : Dicts ls) : (evidenceJson ls).WellFormed := by
  refine (Json.wellFormedItems_iff _).2 fun v hv => ?_
  obtain ⟨l, hl, rfl⟩ := List.mem_map.1 hv
  exact wellFormed_link (h l hl)

/-- the evidence of an entry is read back -/
theorem parseEvidenceLinks_written {ls : List EvidenceLink} (h : Dicts ls) :
    parseEvidenceLinks (some (evidenceJson ls).canon) = .ok (ls.map EvidenceLink.normalized) := by
  rw [canon_evidenceJson, parseEvidenceLinks]
  induction ls with
  | nil => rfl
  | cons l ls ih =>
    rw [List.map_cons, List.mapM_cons, parseEvidenceLinks_entry (h l List.mem_cons_self),
      ih fun x hx => h x (List.mem_cons_of_mem _ hx)]
    rfl

/-! ## Components -/

namespace SystemComponent

theorem wellFormed {c : SystemComponent} (h : Dicts c.evidence) : (Json.obj c.toDict).WellFormed := by
  refine ⟨?_, trivial, trivial, trivial, trivial, wellFormed_evidenceJson h, trivial⟩
  show ["component_id", "name", "purpose", "placement", "evidence"].Nodup
  decide

theorem parse_toDict {c : SystemComponent} (hid : c.componentId ≠ "") (h : Dicts c.evidence) (n : Nat) :
    parseComponent host fresh ((Json.obj c.toDict).canon, n) = .ok c.normalized := by
  have hname : Json.member "name" c.toDict = some (.str (strip c.name)) := rfl
  have hpurpose : Json.member "purpose" c.toDict = some (.str (strip c.purpose)) := rfl
  have hplacement : Json.member "placement" c.toDict = some (.str c.placement) := rfl
  have hevidence : Json.member "evidence" c.toDict = some (evidenceJson c.evidence) := rfl
  have hcid : Json.member "component_id" c.toDict = some (.str c.componentId) := rfl
  rw [Json.canon_obj]
  simp only [parseComponent, JsonText.member_canon (wellFormed h), hname, hpurpose, hplacement, hevidence, hcid,
    Option.map_some, parseEvidenceLinks_written h, canon_str, truthyStr_id host.pyStr hid]
  rfl

end SystemComponent

/-! ## Interconnections -/

namespace Interconnection

theorem wellFormed {i : Interconnection} (h : Dicts i.evidence) : (Json.obj i.toDict).WellFormed := by
  refine ⟨?_, trivial, trivial, trivial, trivial, ?_, trivial, trivial, trivial, trivial, trivial, trivial, trivial,
    wellFormed_evidenceJson h, trivial⟩
  · show ["interconnection_id", "connected_organization", "connected_system", "direction", "data_types",
      "interface_protocol", "connection_owner", "agreement_type", "agreement_id", "agreement_status",
      "agreement_expiration", "boundary_protections", "evidence"].Nodup
    decide
  · refine (Json.wellFormedItems_iff _).2 fun v hv => ?_
    obtain ⟨t, -, rfl⟩ := List.mem_map.1 hv
    trivial

/-- the data types are read as they were written -/
theorem dataTypes_written (ts : List String) :
    ((((ts.filter hasText).map fun t => Json.str (strip t)).map (pyStrOf host)).filter hasText).map strip =
      (ts.filter hasText).map strip := by
  rw [List.map_map, List.filter_eq_self.2, List.map_map]
  · exact List.map_congr_left fun t _ => strip_strip t
  · intro u hu
    obtain ⟨t, ht, rfl⟩ := List.mem_map.1 hu
    exact (hasText_strip t).trans (List.mem_filter.1 ht).2

theorem parse_toDict {i : Interconnection} (hid : i.interconnectionId ≠ "") (h : Dicts i.evidence) (n : Nat) :
    parseInterconnection host fresh ((Json.obj i.toDict).canon, n) = .ok i.normalized := by
  have htypes : (Json.arr ((i.dataTypes.filter hasText).map fun t => .str (strip t))).canon =
      .arr ((i.dataTypes.filter hasText).map fun t => .str (strip t)) := by
    rw [Json.canon, Json.canonItems_eq, List.map_map]
    rfl
  have htext : ∀ key t, Json.member key i.toDict = some (.str t) →
      truthyStr ((Json.member key i.toDict).map Json.canon) host.pyStr "" = t := by
    intro key t hm
    rw [hm]
    exact truthyStr_str host.pyStr t
  have hcid : Json.member "interconnection_id" i.toDict = some (.str i.interconnectionId) := rfl
  have hdirection : Json.member "direction" i.toDict = some (.str i.direction) := rfl
  have hdata : Json.member "data_types" i.toDict =
      some (.arr ((i.dataTypes.filter hasText).map fun t => .str (strip t))) := rfl
  have hevidence : Json.member "evidence" i.toDict = some (evidenceJson i.evidence) := rfl
  rw [Json.canon_obj]
  simp only [parseInterconnection, JsonText.member_canon (wellFormed h), htext "connected_organization" _ rfl,
    htext "connected_system" _ rfl, htext "interface_protocol" _ rfl, htext "connection_owner" _ rfl,
    htext "agreement_type" _ rfl, htext "agreement_id" _ rfl, htext "agreement_status" _ rfl,
    htext "agreement_expiration" _ rfl, htext "boundary_protections" _ rfl, hcid, hdirection, hdata, hevidence,
    Option.map_some, Option.getD_some, htypes, parseEvidenceLinks_written h, canon_str, dataTypes_written,
    truthyStr_id host.pyStr hid]
  rfl

end Interconnection

/-! ## Boundaries -/

namespace DiagramLink

theorem wellFormed {l : DiagramLink} (h : (Json.obj l.locator).WellFormed) : (Json.obj l.toDict).WellFormed := by
  unfold toDict
  split_ifs
  · refine ⟨?_, trivial, wellFormed_sortedLocator h, trivial, trivial⟩
    show ["artifact_id", "locator", "label"].Nodup
    decide
  · refine ⟨?_, trivial, wellFormed_sortedLocator h, trivial⟩
    show ["artifact_id", "locator"].Nodup
    decide

theorem parse_toDict {l : DiagramLink} (hne : l.locator ≠ []) (h : (Json.obj l.locator).WellFormed) :
    parseAuthorizationBoundary.link host (Json.obj l.toDict).canon =
      .ok ⟨l.artifactId, normalizedLocator l.locator, strip l.label⟩ := by
  have hid : Json.member "artifact_id" l.toDict = some (.str l.artifactId.str) := rfl
  have hloc : Json.member "locator" l.toDict = some (.obj (sortedLocator l.locator)) := rfl
  -- a blank label is not written
  have hlabel : truthyStr ((Json.member "label" l.toDict).map Json.canon) host.pyStr "" = strip l.label := by
    unfold toDict
    split_ifs with ht
    · exact truthyStr_str host.pyStr _
    · have hblank : strip l.label = "" := by simpa [hasText] using ht
      rw [hblank]
      rfl
  obtain ⟨p, ps, hn⟩ := List.exists_cons_of_ne_nil (normalizedLocator_ne hne)
  rw [Json.canon_obj]
  simp only [parseAuthorizationBoundary.link, JsonText.member_canon (wellFormed h), hid, hloc, hlabel, Option.map_some,
    canon_sortedLocator, hn, canon_str, uuidOf_str]
  rfl

end DiagramLink

/-! ## Mappings -/

namespace InformationTypeMapping

/-- the identifiers of the catalog are written without blanks -/
theorem catalogEntry_identifier {id : String} {entry : Sp80060InformationType} (h : catalogEntry id = some entry) :
    strip id = id ∧ id ≠ "" := by
  have hall : ∀ e ∈ loadSp80060Catalog.informationTypes, strip e.identifier = e.identifier ∧ e.identifier ≠ "" := by
    decide
  have hmem := KeyedList.mem_ofList (KeyedList.mem_of_get? h)
  have hkey := KeyedList.key_of_get? h
  exact hkey ▸ hall entry hmem

theorem optionalImpact_written {a : Option String} (h : ∀ s ∈ a, isImpactLevel s = true) :
    optionalImpact (some (optText a).canon) = .ok a := by
  cases a with
  | none => rfl
  | some s =>
    rcases isImpactLevel_iff.1 (h s rfl) with rfl | rfl | rfl
    · rfl
    · rfl
    · rfl

theorem wellFormed {m : InformationTypeMapping} {entry : Sp80060InformationType} (h : Dicts m.evidence) :
    (Json.obj (m.toDict entry)).WellFormed := by
  have hopt : ∀ a, (optText a).WellFormed := by
    intro a
    cases a <;> trivial
  refine ⟨?_, trivial, trivial, trivial, trivial, trivial, trivial, trivial, hopt _, hopt _, hopt _, trivial, trivial,
    trivial, trivial, wellFormed_evidenceJson h, trivial⟩
  show ["entry_id", "catalog_identifier", "catalog_title", "description", "catalog_confidentiality",
    "catalog_integrity", "catalog_availability", "adjusted_confidentiality", "adjusted_integrity",
    "adjusted_availability", "effective_confidentiality", "effective_integrity", "effective_availability",
    "adjustment_rationale", "evidence"].Nodup
  decide

theorem parse_toDict {m : InformationTypeMapping} {entry : Sp80060InformationType} (hid : m.entryId ≠ "")
    (hentry : catalogEntry m.catalogIdentifier = some entry) (h : Dicts m.evidence)
    (hc : ∀ s ∈ m.adjustedConfidentiality, isImpactLevel s = true)
    (hi : ∀ s ∈ m.adjustedIntegrity, isImpactLevel s = true)
    (ha : ∀ s ∈ m.adjustedAvailability, isImpactLevel s = true) (n : Nat) :
    parseMapping host fresh ((Json.obj (m.toDict entry)).canon, n) = .ok m.normalized := by
  obtain ⟨hstrip, hne⟩ := catalogEntry_identifier hentry
  have htext : ∀ key t, Json.member key (m.toDict entry) = some (.str t) →
      truthyStr ((Json.member key (m.toDict entry)).map Json.canon) host.pyStr "" = t := by
    intro key t hm
    rw [hm]
    exact truthyStr_str host.pyStr t
  have hcid : Json.member "entry_id" (m.toDict entry) = some (.str m.entryId) := rfl
  have hmc : Json.member "adjusted_confidentiality" (m.toDict entry) = some (optText m.adjustedConfidentiality) := rfl
  have hmi : Json.member "adjusted_integrity" (m.toDict entry) = some (optText m.adjustedIntegrity) := rfl
  have hma : Json.member "adjusted_availability" (m.toDict entry) = some (optText m.adjustedAvailability) := rfl
  have hevidence : Json.member "evidence" (m.toDict entry) = some (evidenceJson m.evidence) := rfl
  rw [Json.canon_obj]
  simp only [parseMapping, JsonText.member_canon (wellFormed h), htext "catalog_identifier" _ rfl,
    htext "description" _ rfl, htext "adjustment_rationale" _ rfl, hcid, hmc, hmi, hma, hevidence, Option.map_some,
    optionalImpact_written hc, optionalImpact_written hi, optionalImpact_written ha, parseEvidenceLinks_written h,
    hstrip, if_neg hne, canon_str]
  rw [truthyStr_id host.pyStr hid]
  rfl

end InformationTypeMapping

/-! ## Whole registers -/

theorem parseAuthorizationBoundary_written {b : AuthorizationBoundary}
    (h : ∀ l ∈ b.diagramLinks, l.locator ≠ [] ∧ (Json.obj l.locator).WellFormed) :
    parseAuthorizationBoundary host b.toSectionJson = .ok (some b.normalized) := by
  have hwf : b.toDict.WellFormed := by
    refine ⟨?_, trivial, (Json.wellFormedItems_iff _).2 fun v hv => ?_, trivial⟩
    · show ["narrative", "diagram_links"].Nodup
      decide
    · obtain ⟨l, hl, rfl⟩ := List.mem_map.1 hv
      exact DiagramLink.wellFormed (h l hl).2
  have hlinks : (b.diagramLinks.map fun l => (Json.obj l.toDict).canon).mapM (parseAuthorizationBoundary.link host) =
      .ok b.normalized.diagramLinks := by
    unfold AuthorizationBoundary.normalized
    generalize b.diagramLinks = ls at h
    induction ls with
    | nil => rfl
    | cons l ls ih =>
      obtain ⟨hne, hd⟩ := h l List.mem_cons_self
      rw [List.map_cons, List.mapM_cons, DiagramLink.parse_toDict hne hd,
        ih fun x hx => h x (List.mem_cons_of_mem _ hx)]
      rfl
  have hentries : (Json.arr (b.diagramLinks.map fun l => .obj l.toDict)).canon =
      .arr (b.diagramLinks.map fun l => (Json.obj l.toDict).canon) := by
    rw [Json.canon, Json.canonItems_eq, List.map_map]
    rfl
  have hnarrative : Json.member "narrative" [("narrative", .str (strip b.narrative)),
      ("diagram_links", .arr (b.diagramLinks.map fun l => .obj l.toDict))] = some (.str (strip b.narrative)) := rfl
  have hmember : Json.member "diagram_links" [("narrative", .str (strip b.narrative)),
      ("diagram_links", .arr (b.diagramLinks.map fun l => .obj l.toDict))] =
      some (.arr (b.diagramLinks.map fun l => .obj l.toDict)) := rfl
  have htext : hasText b.toSectionJson = true := hasText_dumps _
  have hloads : JsonText.loads (Py.chars b.toSectionJson) = some b.toDict.canon := loads_section hwf
  unfold AuthorizationBoundary.toDict at hwf hloads
  rw [Json.canon_obj] at hloads
  simp only [parseAuthorizationBoundary, htext, hloads, JsonText.member_canon hwf, hnarrative, hmember, Option.map_some,
    Option.getD_some, hentries, canon_str, Bool.not_true, Bool.false_eq_true, if_false]
  exact bind_eq_ok.2 ⟨_, rfl, bind_eq_ok.2 ⟨_, rfl, bind_eq_ok.2 ⟨_, hlinks, rfl⟩⟩⟩

/-- the entries of a register with one member are read one by one -/
theorem parse_entries {α β : Type} {key detail : String} {f : α → Json} {g : Json × Nat → Except Err β} {h : α → β}
    {xs : List α} {parse : Json → Except Err (List β)}
    (hparse : ∀ fs entries, Json.member key fs = some (.arr entries) → parse (.obj fs) = entries.zipIdx.mapM g)
    (hwf : ∀ x ∈ xs, (f x).WellFormed) (hg : ∀ x ∈ xs, ∀ n, g ((f x).canon, n) = .ok (h x)) :
    (loadsSection (String.ofList ((Json.obj [(key, .arr (xs.map f))]).dumps .spaced)) detail >>= parse) =
      .ok (xs.map h) := by
  have hall : (Json.obj [(key, .arr (xs.map f))]).WellFormed := by
    refine ⟨List.nodup_singleton key, (Json.wellFormedItems_iff _).2 fun v hv => ?_, trivial⟩
    obtain ⟨x, hx, rfl⟩ := List.mem_map.1 hv
    exact hwf x hx
  have hload : loadsSection (String.ofList ((Json.obj [(key, .arr (xs.map f))]).dumps .spaced)) detail =
      .ok (Json.obj [(key, .arr (xs.map f))]).canon := by
    rw [loadsSection, loads_section hall]
  have hmember : Json.member key [(key, .arr (xs.map f))] = some (.arr (xs.map f)) := by
    simp [Json.member, KeyedList.get?]
  have hentries : (Json.arr (xs.map f)).canon = .arr (xs.map fun x => (f x).canon) := by
    rw [Json.canon, Json.canonItems_eq, List.map_map]
    rfl
  refine bind_eq_ok.2 ⟨_, hload, ?_⟩
  rw [Json.canon_obj, hparse _ (xs.map fun x => (f x).canon)]
  · exact mapM_written hg 0
  · rw [JsonText.member_canon hall, hmember, Option.map_some, hentries]

theorem parseComponentInventory_written {cs : List SystemComponent}
    (h : ∀ c ∈ cs, c.componentId ≠ "" ∧ Dicts c.evidence) :
    parseComponentInventory host fresh (componentsJson cs) = .ok (cs.map SystemComponent.normalized) := by
  have htext : hasText (componentsJson cs) = true := hasText_dumps _
  rw [parseComponentInventory, htext]
  refine parse_entries (g := parseComponent host fresh) (fun fs entries hm => ?_)
    (fun c hc => SystemComponent.wellFormed (h c hc).2) fun c hc n => ?_
  · simp only [hm, Option.getD_some]
  · exact SystemComponent.parse_toDict (h c hc).1 (h c hc).2 n

theorem parseInterconnectionRegister_written {is : List Interconnection}
    (h : ∀ i ∈ is, i.interconnectionId ≠ "" ∧ Dicts i.evidence) :
    parseInterconnectionRegister host fresh (interconnectionsJson is) = .ok (is.map Interconnection.normalized) := by
  have htext : hasText (interconnectionsJson is) = true := hasText_dumps _
  rw [parseInterconnectionRegister, htext]
  refine parse_entries (g := parseInterconnection host fresh) (fun fs entries hm => ?_)
    (fun i hi => Interconnection.wellFormed (h i hi).2) fun i hi n => ?_
  · simp only [hm, Option.getD_some]
  · exact Interconnection.parse_toDict (h i hi).1 (h i hi).2 n

namespace InformationTypeMapping

/-- what is checked of a mapping on its own -/
def Checked (m : InformationTypeMapping) : Prop :=
  (∃ entry, catalogEntry m.catalogIdentifier = some entry) ∧ adjustedError m = none

theorem adjusted_of_checked {m : InformationTypeMapping} (h : adjustedError m = none) :
    (∀ s ∈ m.adjustedConfidentiality, isImpactLevel s = true) ∧ (∀ s ∈ m.adjustedIntegrity, isImpactLevel s = true) ∧
      ∀ s ∈ m.adjustedAvailability, isImpactLevel s = true := by
  rw [adjustedError, Option.map_eq_none_iff, List.find?_eq_none] at h
  have hlevel : ∀ {a : Option String}, ¬(a.any fun s => !isImpactLevel s) = true → ∀ s ∈ a, isImpactLevel s = true := by
    intro a ha s hs
    rw [Option.mem_def.1 hs] at ha
    simpa using ha
  exact ⟨hlevel (h ("confidentiality", _) (by simp)), hlevel (h ("integrity", _) (by simp)),
    hlevel (h ("availability", _) (by simp))⟩

/-- the entry of a mapping in the text of its register -/
def written (m : InformationTypeMapping) : Json :=
  match catalogEntry m.catalogIdentifier with
  | some entry => .obj (m.toDict entry)
  | none => .null

theorem written_eq {m : InformationTypeMapping} {entry : Sp80060InformationType}
    (h : catalogEntry m.catalogIdentifier = some entry) :
    m.written = .obj (m.toDict entry) ∧ m.toDictOf = .ok m.written := by
  simp [written, toDictOf, h]

end InformationTypeMapping

theorem parseInformationTypeRegister_written {ms : List InformationTypeMapping}
    (h : ∀ m ∈ ms, m.entryId ≠ "" ∧ Dicts m.evidence ∧ m.Checked) : ∃ text, informationTypesJson ms = .ok text ∧
      parseInformationTypeRegister host fresh text = .ok (ms.map InformationTypeMapping.normalized) := by
  have hentries : ms.mapM InformationTypeMapping.toDictOf = .ok (ms.map InformationTypeMapping.written) := by
    refine mapM_eq_ok.2 (List.forall₂_map_right_iff.2 (List.forall₂_same.2 fun m hm => ?_))
    obtain ⟨-, -, ⟨entry, he⟩, -⟩ := h m hm
    exact (InformationTypeMapping.written_eq he).2
  refine ⟨_, bind_eq_ok.2 ⟨_, hentries, rfl⟩, ?_⟩
  rw [parseInformationTypeRegister, hasText_dumps]
  refine parse_entries (g := parseMapping host fresh) (fun fs entries hm => ?_) (fun m hm => ?_) fun m hm n => ?_
  · simp only [hm, Option.getD_some]
  · obtain ⟨-, hd, ⟨entry, he⟩, -⟩ := h m hm
    rw [(InformationTypeMapping.written_eq he).1]
    exact InformationTypeMapping.wellFormed hd
  · obtain ⟨hid, hd, ⟨entry, he⟩, ha⟩ := h m hm
    obtain ⟨hc, hi, hav⟩ := InformationTypeMapping.adjusted_of_checked ha
    rw [(InformationTypeMapping.written_eq he).1]
    exact InformationTypeMapping.parse_toDict hid he hd hc hi hav n

end

/-! ## Validating what was read -/

theorem validateAuthorizationBoundary_normalized {b : AuthorizationBoundary}
    (h : validateAuthorizationBoundary b = .ok ()) :
    validateAuthorizationBoundary b.normalized = .ok () ∧ ∀ l ∈ b.diagramLinks, l.locator ≠ [] := by
  unfold validateAuthorizationBoundary at h ⊢
  split_ifs at h with hlen hloc
  · simp at h
  · simp at h
  · have hne : ∀ l ∈ b.diagramLinks, l.locator ≠ [] := by simpa using hloc
    refine ⟨?_, hne⟩
    have hlen' : ¬(strip b.normalized.narrative).length < 20 := by
      show ¬(strip (strip b.narrative)).length < 20
      rwa [strip_strip]
    have hloc' : ¬(b.normalized.diagramLinks.any fun l => l.locator.isEmpty) = true := by
      simp only [AuthorizationBoundary.normalized, List.any_map, List.any_eq_true, Function.comp_def, List.isEmpty_iff]
      rintro ⟨l, hl, hn⟩
      exact normalizedLocator_ne (hne l hl) hn
    rw [if_neg hlen', if_neg hloc']

theorem validateComponentInventory_normalized {cs : List SystemComponent} (h : validateComponentInventory cs = .ok ()) :
    validateComponentInventory (cs.map SystemComponent.normalized) = .ok () := by
  rw [validateComponentInventory_eq_ok] at h ⊢
  refine ⟨by simpa using h.1, fun c' hc' => ?_⟩
  obtain ⟨c, hc, rfl⟩ := List.mem_map.1 hc'
  rw [← h.2 c hc]
  simp only [componentError, SystemComponent.normalized, hasText_strip]
  rfl

theorem interconnectionError_normalized {i : Interconnection} (h : interconnectionError i = none) :
    interconnectionError i.normalized = none ↔ ∃ t ∈ i.dataTypes, hasText t = true := by
  have hblank : ((i.dataTypes.filter hasText).map strip).isEmpty = true ↔ ¬∃ t ∈ i.dataTypes, hasText t = true := by
    simp
  unfold interconnectionError at h ⊢
  split_ifs at h with htext hdata hdir
  simp only [Interconnection.normalized, List.any_cons, List.any_nil, hasText_strip, hblank] at htext ⊢
  rw [if_neg htext]
  by_cases hex : ∃ t ∈ i.dataTypes, hasText t = true
  · simp [hex, hdir]
  · simp [hex]

/-- **The validator and the writer of interconnections**: what was accepted is accepted again when no interconnection
has blank data types only. -/
theorem validateInterconnectionRegister_normalized {is : List Interconnection}
    (h : validateInterconnectionRegister is = .ok ()) :
    validateInterconnectionRegister (is.map Interconnection.normalized) = .ok () ↔
      ∀ i ∈ is, ∃ t ∈ i.dataTypes, hasText t = true := by
  rw [validateInterconnectionRegister_eq_ok] at h ⊢
  simp only [ne_eq, List.map_eq_nil_iff, h.1, not_false_eq_true, true_and, List.forall_mem_map]
  exact forall₂_congr fun i hi => interconnectionError_normalized (h.2 i hi)

theorem mappingError_normalized (seen : List String) (m : InformationTypeMapping) :
    mappingError seen m.normalized = mappingError seen m := by
  have hadjusted : adjustedError m.normalized = adjustedError m := rfl
  have hadjusts : ∀ entry, m.normalized.hasAdjustment entry = m.hasAdjustment entry := fun _ => rfl
  have hid : m.normalized.catalogIdentifier = m.catalogIdentifier := rfl
  have hdescription : m.normalized.description = strip m.description := rfl
  have hrationale : m.normalized.adjustmentRationale = strip m.adjustmentRationale := rfl
  simp only [mappingError, hadjusted, hadjusts, hid, hdescription, hrationale, hasText_strip]

theorem mappingsError_normalized (seen : List String) (ms : List InformationTypeMapping) :
    mappingsError seen (ms.map InformationTypeMapping.normalized) = mappingsError seen ms := by
  induction ms generalizing seen with
  | nil => rfl
  | cons m ms ih =>
    rw [List.map_cons, mappingsError, mappingsError, mappingError_normalized, ih]
    rfl

theorem checked_of_mappingsError {seen : List String} {ms : List InformationTypeMapping}
    (h : mappingsError seen ms = none) : ∀ m ∈ ms, m.Checked := by
  induction ms generalizing seen with
  | nil => simp
  | cons m ms ih =>
    rw [mappingsError, Option.or_eq_none_iff] at h
    refine List.forall_mem_cons.2 ⟨?_, ih h.2⟩
    have hm := h.1
    unfold mappingError at hm
    cases he : catalogEntry m.catalogIdentifier with
    | none => simp [he] at hm
    | some entry =>
      simp only [he] at hm
      refine ⟨⟨entry, he⟩, ?_⟩
      split_ifs at hm
      · exact (Option.or_eq_none_iff.1 hm).1
      · exact (Option.or_eq_none_iff.1 hm).1

theorem validateInformationTypeRegister_normalized {ms : List InformationTypeMapping}
    (h : validateInformationTypeRegister ms = .ok ()) :
    validateInformationTypeRegister (ms.map InformationTypeMapping.normalized) = .ok () ∧ ∀ m ∈ ms, m.Checked := by
  unfold validateInformationTypeRegister at h ⊢
  rw [mappingsError_normalized]
  split_ifs at h with hempty
  · simp at h
  · cases he : mappingsError [] ms with
    | some detail => simp [he] at h
    | none =>
      refine ⟨?_, checked_of_mappingsError he⟩
      rw [if_neg (by simpa using hempty)]

/-! ## What was saved -/

/-- the three registers of a confirmation are read back and validate again -/
structure SystemDefinitionInput.RoundTrips (host : Host) (fresh : Nat → String) (i : SystemDefinitionInput) : Prop where
  boundary : parseAuthorizationBoundary host i.boundary.toSectionJson = .ok (some i.boundary.normalized)
  boundaryValid : validateAuthorizationBoundary i.boundary.normalized = .ok ()
  components : parseComponentInventory host fresh (componentsJson i.components) =
    .ok (i.components.map SystemComponent.normalized)
  componentsValid : validateComponentInventory (i.components.map SystemComponent.normalized) = .ok ()
  interconnections : parseInterconnectionRegister host fresh (interconnectionsJson i.interconnections) =
    .ok (i.interconnections.map Interconnection.normalized)
  interconnectionsValid : validateInterconnectionRegister (i.interconnections.map Interconnection.normalized) = .ok ()

/-- the mappings are read back and validate again -/
structure MappingsRoundTrip (host : Host) (fresh : Nat → String) (ms : List InformationTypeMapping) : Prop where
  mappings : ∃ text, informationTypesJson ms = .ok text ∧
    parseInformationTypeRegister host fresh text = .ok (ms.map InformationTypeMapping.normalized)
  mappingsValid : validateInformationTypeRegister (ms.map InformationTypeMapping.normalized) = .ok ()

/-- what is submitted to be kept as a structured register -/
inductive RegisterRequest where
  | systemDefinition (r : SaveSystemDefinitionRequest)
  | informationTypes (rs : List InformationTypeMappingRequest)

namespace RegisterRequest

/-- the request is saved, in some state of the tables -/
def Accepted (drawn : Nat → Uuid) : RegisterRequest → Prop
  | .systemDefinition r => ∃ i views expected actor revisionId db saved db', r.build drawn = .ok i ∧
      saveSystemDefinition views expected i actor revisionId db = (.ok saved, db')
  | .informationTypes rs => ∃ ms views expected actor revisionId db saved db', buildMappings drawn rs = .ok ms ∧
      saveInformationTypes views expected ms actor revisionId db = (.ok saved, db')

/-- the registers that are made of the request are read back and validate again -/
def RoundTrips (host : Host) (drawn : Nat → Uuid) (fresh : Nat → String) : RegisterRequest → Prop
  | .systemDefinition r => ∀ i, r.build drawn = .ok i → i.RoundTrips host fresh
  | .informationTypes rs => ∀ ms, buildMappings drawn rs = .ok ms → MappingsRoundTrip host fresh ms

/-- every interconnection has a data type that is not blank -/
def NamesDataTypes : RegisterRequest → Prop
  | .systemDefinition r => ∀ x ∈ r.interconnections, ∃ t ∈ x.dataTypes, hasText t = true
  | .informationTypes _ => True

end RegisterRequest

section

variable {drawn : Nat → Uuid}

theorem idOr_ne (id : String) (u : Uuid) : idOr id u ≠ "" := by
  unfold idOr
  split_ifs with h
  · intro hu
    have hempty : Uuid.parse "" = none := by decide
    have hp := Uuid.parse_str u
    rw [hu, hempty] at hp
    exact absurd hp (by simp)
  · exact h

theorem dicts_of_links {rs : List EvidenceLinkRequest} {ls : List EvidenceLink}
    (h : rs.mapM EvidenceLinkRequest.link = .ok ls) : Dicts ls := by
  intro l hl
  obtain ⟨r, -, hr⟩ := exists_of_mem_mapM h hl
  unfold EvidenceLinkRequest.link at hr
  split_ifs at hr with hne
  · obtain rfl := Except.ok.inj hr
    exact r.locator.wellFormed
  · simp at hr

theorem SystemComponentRequest.build_ok {p : SystemComponentRequest × Nat} {c : SystemComponent}
    (h : SystemComponentRequest.build drawn p = .ok c) : c.componentId ≠ "" ∧ Dicts c.evidence := by
  simp only [SystemComponentRequest.build, bind_eq_ok, pure_eq_ok] at h
  obtain ⟨ls, hls, rfl⟩ := h
  exact ⟨idOr_ne _ _, dicts_of_links hls⟩

theorem InterconnectionRequest.build_ok {p : InterconnectionRequest × Nat} {i : Interconnection}
    (h : InterconnectionRequest.build drawn p = .ok i) :
    i.interconnectionId ≠ "" ∧ Dicts i.evidence ∧ i.dataTypes = p.1.dataTypes := by
  simp only [InterconnectionRequest.build, bind_eq_ok, pure_eq_ok] at h
  obtain ⟨ls, hls, rfl⟩ := h
  exact ⟨idOr_ne _ _, dicts_of_links hls, rfl⟩

theorem InformationTypeMappingRequest.build_ok {p : InformationTypeMappingRequest × Nat} {m : InformationTypeMapping}
    (h : InformationTypeMappingRequest.build drawn p = .ok m) : m.entryId ≠ "" ∧ Dicts m.evidence := by
  simp only [InformationTypeMappingRequest.build, bind_eq_ok, pure_eq_ok] at h
  obtain ⟨ls, hls, rfl⟩ := h
  exact ⟨idOr_ne _ _, dicts_of_links hls⟩

/-- the interconnections are made one by one, with the data types that were submitted -/
theorem namesDataTypes_built {rs : List InterconnectionRequest} {is : List Interconnection} {k : Nat}
    (h : (rs.zipIdx k).mapM (InterconnectionRequest.build drawn) = .ok is) :
    (∀ i ∈ is, ∃ t ∈ i.dataTypes, hasText t = true) ↔ ∀ r ∈ rs, ∃ t ∈ r.dataTypes, hasText t = true := by
  have htypes : is.map Interconnection.dataTypes = rs.map InterconnectionRequest.dataTypes := by
    have hmap := map_eq_of_forall₂ (f := fun p : InterconnectionRequest × Nat => p.1.dataTypes)
      (g := Interconnection.dataTypes) (fun p i hp => (InterconnectionRequest.build_ok hp).2.2) (mapM_eq_ok.1 h)
    rw [hmap, ← List.zipIdx_map_fst k rs, List.map_map]
    simp [Function.comp_def]
  have h₁ := List.forall_mem_map (f := Interconnection.dataTypes) (l := is) (P := fun ts => ∃ t ∈ ts, hasText t = true)
  have h₂ := List.forall_mem_map (f := InterconnectionRequest.dataTypes) (l := rs)
    (P := fun ts => ∃ t ∈ ts, hasText t = true)
  rw [← h₁, ← h₂, htypes]

theorem SaveSystemDefinitionRequest.build_ok {r : SaveSystemDefinitionRequest} {i : SystemDefinitionInput}
    (h : r.build drawn = .ok i) : (∀ l ∈ i.boundary.diagramLinks, (Json.obj l.locator).WellFormed) ∧
      (∀ c ∈ i.components, c.componentId ≠ "" ∧ Dicts c.evidence) ∧
      (∀ x ∈ i.interconnections, x.interconnectionId ≠ "" ∧ Dicts x.evidence) ∧
      ((∀ x ∈ i.interconnections, ∃ t ∈ x.dataTypes, hasText t = true) ↔
        ∀ x ∈ r.interconnections, ∃ t ∈ x.dataTypes, hasText t = true) := by
  simp only [SaveSystemDefinitionRequest.build, bind_eq_ok, pure_eq_ok] at h
  obtain ⟨cs, hcs, is, his, rfl⟩ := h
  refine ⟨fun l hl => ?_, fun c hc => ?_, fun x hx => ?_, namesDataTypes_built his⟩
  · obtain ⟨l', -, rfl⟩ := List.mem_map.1 hl
    exact l'.locator.wellFormed
  · obtain ⟨p, -, hp⟩ := exists_of_mem_mapM hcs hc
    exact SystemComponentRequest.build_ok hp
  · obtain ⟨p, -, hp⟩ := exists_of_mem_mapM his hx
    exact ⟨(InterconnectionRequest.build_ok hp).1, (InterconnectionRequest.build_ok hp).2.1⟩

/-- what a save of registers has validated -/
theorem validated_of_saveSystemDefinition {views : Views} {expected revisionId : Uuid} {i : SystemDefinitionInput}
    {actor : Principal} {db db' : Db} {saved : RevisionRow}
    (h : saveSystemDefinition views expected i actor revisionId db = (.ok saved, db')) :
    validateAuthorizationBoundary i.boundary = .ok () ∧ validateComponentInventory i.components = .ok () ∧
      validateInterconnectionRegister i.interconnections = .ok () := by
  simp only [saveSystemDefinition, Txn.bind_ok, Txn.lift_eq, SystemDefinitionInput.check] at h
  obtain ⟨_, _, -, _, _, -, u, _, ⟨hcheck, -⟩, -⟩ := h
  obtain ⟨_, hb, hcheck⟩ := bind_eq_ok.1 hcheck.symm
  obtain ⟨_, -, hcheck⟩ := bind_eq_ok.1 hcheck
  obtain ⟨_, hc, hcheck⟩ := bind_eq_ok.1 hcheck
  obtain ⟨_, -, hcheck⟩ := bind_eq_ok.1 hcheck
  obtain ⟨_, hi, -⟩ := bind_eq_ok.1 hcheck
  exact ⟨hb, hc, hi⟩

theorem validated_of_saveInformationTypes {views : Views} {expected revisionId : Uuid}
    {ms : List InformationTypeMapping} {actor : Principal} {db db' : Db} {saved : RevisionRow}
    (h : saveInformationTypes views expected ms actor revisionId db = (.ok saved, db')) :
    validateInformationTypeRegister ms = .ok () := by
  simp only [saveInformationTypes, Txn.bind_ok, Txn.lift_eq] at h
  obtain ⟨_, _, -, _, _, -, _, _, -, _, _, ⟨happly, -⟩, -⟩ := h
  obtain ⟨_, hv, -⟩ := bind_eq_ok.1 happly.symm
  exact hv

/-- **When registers round-trip**: everything that is saved is read back as it was normalized, and it validates again
unless an interconnection had blank data types only. -/
theorem registers_roundTrip_iff (host : Host) (drawn : Nat → Uuid) (fresh : Nat → String) {r : RegisterRequest}
    (h : r.Accepted drawn) : r.RoundTrips host drawn fresh ↔ r.NamesDataTypes := by
  cases r with
  | systemDefinition r =>
    obtain ⟨i, views, expected, actor, revisionId, db, saved, db', hi, hs⟩ := h
    obtain ⟨hb, hc, hx⟩ := validated_of_saveSystemDefinition hs
    obtain ⟨hlinks, hcs, his, hnames⟩ := SaveSystemDefinitionRequest.build_ok hi
    obtain ⟨hb', hne⟩ := validateAuthorizationBoundary_normalized hb
    have hvalid := validateInterconnectionRegister_normalized hx
    rw [hnames] at hvalid
    constructor
    · exact fun hround => hvalid.1 (hround i hi).interconnectionsValid
    · intro hn i' hi'
      obtain rfl := Except.ok.inj (hi.symm.trans hi')
      exact {
        boundary := parseAuthorizationBoundary_written fun l hl => ⟨hne l hl, hlinks l hl⟩
        boundaryValid := hb'
        components := parseComponentInventory_written hcs
        componentsValid := validateComponentInventory_normalized hc
        interconnections := parseInterconnectionRegister_written his
        interconnectionsValid := hvalid.2 hn }
  | informationTypes rs =>
    obtain ⟨ms, views, expected, actor, revisionId, db, saved, db', hms, hs⟩ := h
    obtain ⟨hv, hchecked⟩ := validateInformationTypeRegister_normalized (validated_of_saveInformationTypes hs)
    refine iff_of_true (fun ms' hms' => ?_) trivial
    obtain rfl := Except.ok.inj (hms.symm.trans hms')
    refine ⟨parseInformationTypeRegister_written fun m hm => ?_, hv⟩
    obtain ⟨p, -, hp⟩ := exists_of_mem_mapM hms hm
    obtain ⟨hid, hd⟩ := InformationTypeMappingRequest.build_ok hp
    exact ⟨hid, hd, hchecked m hm⟩

end

namespace Small

/-- a confirmation whose only interconnection exchanges the data types `ts` -/
def confirmation (ts : List String) : SaveSystemDefinitionRequest where
  boundaryNarrative := "The boundary of this system."
  components := [{ name := "Server", purpose := "Serves", placement := "inside" }]
  interconnections := [{
    connectedOrganization := "Org"
    connectedSystem := "Peer"
    direction := "inbound"
    dataTypes := ts
    interfaceProtocol := "TLS"
    connectionOwner := "Owner"
    agreementType := "MOU"
    boundaryProtections := "Firewall" }]

/-- what a confirmation saves over the categorized workspace -/
def confirmed (i : SystemDefinitionInput) : Except Err RevisionRow × Db :=
  saveSystemDefinition (fun _ => (runFrom env tables categorized).db) (.ofNat 102) i isso (.ofNat 103)
    (runFrom env tables categorized).db

theorem confirmation_accepted {ts : List String} (h : (match (confirmation ts).build .ofNat with
    | .ok i => (confirmed i).1.isOk
    | .error _ => false) = true) : (RegisterRequest.systemDefinition (confirmation ts)).Accepted .ofNat := by
  cases hi : (confirmation ts).build .ofNat with
  | error e =>
    rw [hi] at h
    exact absurd h Bool.false_ne_true
  | ok i =>
    simp only [hi] at h
    cases hs : (confirmed i).1 with
    | error e =>
      rw [hs] at h
      exact absurd h Bool.false_ne_true
    | ok saved => exact ⟨i, _, _, _, _, _, saved, (confirmed i).2, hi, Prod.ext hs rfl⟩

end Small

theorem registers_roundTrip_mail : (RegisterRequest.systemDefinition (Small.confirmation ["Mail", " "])).RoundTrips
    Small.env.host .ofNat (fun _ => "") :=
  (registers_roundTrip_iff Small.env.host .ofNat (fun _ => "")
    (Small.confirmation_accepted (by decide))).2 (by
      show ∀ x ∈ (Small.confirmation ["Mail", " "]).interconnections, ∃ t ∈ x.dataTypes, hasText t = true
      decide)

/-- a blank data type is accepted, is not written, and is missed when the register is validated again -/
theorem blank_dataType_not_roundTrip : ¬∀ (host : Host) (drawn : Nat → Uuid) (fresh : Nat → String)
    (r : RegisterRequest), r.Accepted drawn → r.RoundTrips host drawn fresh := by
  intro h
  have haccepted : (RegisterRequest.systemDefinition (Small.confirmation [" "])).Accepted .ofNat :=
    Small.confirmation_accepted (by decide)
  have hround := h Small.env.host .ofNat (fun _ => "") _ haccepted
  cases hi : (Small.confirmation [" "]).build .ofNat with
  | error e =>
    have hok : ((Small.confirmation [" "]).build .ofNat).isOk = true := by decide
    rw [hi] at hok
    exact absurd hok Bool.false_ne_true
  | ok i =>
    have hvalid := (hround i hi).interconnectionsValid
    obtain ⟨i', views, expected, actor, revisionId, db, saved, db', hi', hs⟩ := haccepted
    obtain rfl := Except.ok.inj (hi.symm.trans hi')
    have hnames := (validateInterconnectionRegister_normalized (validated_of_saveSystemDefinition hs).2.2).1 hvalid
    obtain ⟨-, -, -, hbuilt⟩ := SaveSystemDefinitionRequest.build_ok hi
    exact absurd (hbuilt.1 hnames) (by decide)

end AtoService.Workspace
