/-
The SP 800-60 information type register kept in `system.data_types`, and the status fact of its confirmation.

`loadSp80060Catalog` is the bundled catalog. `parseInformationTypeRegister` reads a section text,
`applyInformationTypeRegister` checks a register against the catalog, writes it and records the confirmation.
-/
import AtoService.Workspace.SystemDefinition

namespace AtoService.Workspace

open AtoService.Py

namespace InformationTypes

def statusKey : String := "system.information_types_status"

def sectionKey : String := "system.data_types"

end InformationTypes

/-! ## The catalog -/

structure Sp80060InformationType where
  identifier : String
  title : String
  confidentiality : String
  integrity : String
  availability : String
deriving DecidableEq, Repr

structure Sp80060Catalog where
  sourceId : String
  version : String
  informationTypes : List Sp80060InformationType

/-- the bundled `sp800-60-rev2-information-types.json` -/
def loadSp80060Catalog : Sp80060Catalog where
  sourceId := "nist-sp-800-60-rev2"
  version := "2.0.0"
  informationTypes := [
    ⟨"C.3.5.1", "General Support Systems", "low", "low", "low"⟩,
    ⟨"C.3.5.8", "Human Resources", "moderate", "moderate", "low"⟩,
    ⟨"C.3.5.9", "Payroll", "moderate", "moderate", "moderate"⟩,
    ⟨"D.14.1", "Financial Management — Budget Formulation", "moderate", "moderate", "moderate"⟩,
    ⟨"D.14.2", "Financial Management — Grants", "moderate", "moderate", "moderate"⟩,
    ⟨"D.14.3", "Financial Management — Accounting", "moderate", "high", "moderate"⟩,
    ⟨"P.1.1", "Privacy — Personally Identifiable Information", "moderate", "moderate", "low"⟩,
    ⟨"P.1.4", "Privacy — Sensitive Personally Identifiable Information", "high", "moderate", "low"⟩,
    ⟨"U.1.1", "User Productivity — Collaboration and Messaging", "low", "low", "moderate"⟩,
    ⟨"M.2.3", "Mission Delivery — Case Management", "moderate", "moderate", "moderate"⟩,
    ⟨"M.2.5", "Mission Delivery — Citizen Services", "moderate", "moderate", "moderate"⟩,
    ⟨"I.2.1", "Infrastructure — Network Operations", "low", "moderate", "high"⟩,
    ⟨"I.2.2", "Infrastructure — Identity and Access Management", "moderate", "high", "high"⟩,
    ⟨"S.1.1", "Security Management — Audit and Accountability", "moderate", "high", "moderate"⟩,
    ⟨"S.1.2", "Security Management — Vulnerability Management", "moderate", "high", "moderate"⟩]

/-- `catalog.by_identifier().get(identifier)` -/
def catalogEntry (identifier : String) : Option Sp80060InformationType :=
  KeyedList.get? Sp80060InformationType.identifier identifier
    (KeyedList.ofList Sp80060InformationType.identifier loadSp80060Catalog.informationTypes)

/-! ## Mappings -/

structure InformationTypeMapping where
  entryId : String
  catalogIdentifier : String
  description : String
  adjustedConfidentiality : Option String
  adjustedIntegrity : Option String
  adjustedAvailability : Option String
  adjustmentRationale : String
  evidence : List EvidenceLink
deriving Repr

namespace InformationTypeMapping

/-- `adjusted or catalog` -/
def effective (adjusted : Option String) (catalog : String) : String :=
  match adjusted with
  | some "" | none => catalog
  | some s => s

/-- `adjusted and adjusted != catalog` -/
def adjusts (adjusted : Option String) (catalog : String) : Bool :=
  match adjusted with
  | some "" | none => false
  | some s => s != catalog

def hasAdjustment (m : InformationTypeMapping) (entry : Sp80060InformationType) : Bool :=
  adjusts m.adjustedConfidentiality entry.confidentiality || adjusts m.adjustedIntegrity entry.integrity ||
    adjusts m.adjustedAvailability entry.availability

def toDict (m : InformationTypeMapping) (entry : Sp80060InformationType) : List (String × Json) :=
  [("entry_id", .str m.entryId), ("catalog_identifier", .str m.catalogIdentifier),
    ("catalog_title", .str entry.title), ("description", .str (strip m.description)),
    ("catalog_confidentiality", .str entry.confidentiality), ("catalog_integrity", .str entry.integrity),
    ("catalog_availability", .str entry.availability),
    ("adjusted_confidentiality", optText m.adjustedConfidentiality),
    ("adjusted_integrity", optText m.adjustedIntegrity),
    ("adjusted_availability", optText m.adjustedAvailability),
    ("effective_confidentiality", .str (effective m.adjustedConfidentiality entry.confidentiality)),
    ("effective_integrity", .str (effective m.adjustedIntegrity entry.integrity)),
    ("effective_availability", .str (effective m.adjustedAvailability entry.availability)),
    ("adjustment_rationale", .str (strip m.adjustmentRationale)), ("evidence", evidenceJson m.evidence)]

/-- `mapping.to_dict(catalog_entry=by_id[mapping.catalog_identifier])` -/
def toDictOf (m : InformationTypeMapping) : Except Err Json :=
  match catalogEntry m.catalogIdentifier with
  | some entry => .ok (.obj (m.toDict entry))
  | none => raise .keyError m.catalogIdentifier

end InformationTypeMapping

/-! ## Reading -/

/-- `_optional_impact`: a list or an object cannot be looked up in a set -/
def optionalImpact : Option Json → Except Err (Option String)
  | none | some .null | some (.str "") => .ok none
  | some (.str s) =>
    if isImpactLevel s then .ok (some s) else raise .valueError "impact adjustments must be low, moderate, or high"
  | some (.arr _) | some (.obj _) => raise .typeError "unhashable type"
  | some _ => raise .valueError "impact adjustments must be low, moderate, or high"

section

-- `fresh n` is what `uuid4` draws for the `n`-th entry
variable (host : Host) (fresh : Nat → String)

def parseMapping : Json × Nat → Except Err InformationTypeMapping
  | (.obj fs, n) => do
    let text := fun key => truthyStr (Json.member key fs) host.pyStr ""
    let catalogIdentifier := strip (text "catalog_identifier")
    if catalogIdentifier = "" then raise .valueError "catalog_identifier is required"
    let adjustedConfidentiality ← optionalImpact (Json.member "adjusted_confidentiality" fs)
    let adjustedIntegrity ← optionalImpact (Json.member "adjusted_integrity" fs)
    let adjustedAvailability ← optionalImpact (Json.member "adjusted_availability" fs)
    let evidence ← parseEvidenceLinks (Json.member "evidence" fs)
    return {
      entryId := truthyStr (Json.member "entry_id" fs) host.pyStr (fresh n)
      catalogIdentifier := catalogIdentifier
      description := text "description"
      adjustedConfidentiality := adjustedConfidentiality
      adjustedIntegrity := adjustedIntegrity
      adjustedAvailability := adjustedAvailability
      adjustmentRationale := text "adjustment_rationale"
      evidence := evidence }
  | _ => raise .valueError "information type entries must be objects"

def parseInformationTypeRegister (content : String) : Except Err (List InformationTypeMapping) :=
  if !hasText content then .ok []
  else do
    let payload ← loadsSection content "information type register must be JSON"
    match payload with
    | .obj fs =>
      match (Json.member "information_types" fs).getD (.arr []) with
      | .arr entries => entries.zipIdx.mapM (parseMapping host fresh)
      | _ => raise .valueError "information_types must be an array"
    | _ => raise .valueError "information type register must be a JSON object"

end

/-! ## Validation -/

def adjustedError (m : InformationTypeMapping) : Option String :=
  ([("confidentiality", m.adjustedConfidentiality), ("integrity", m.adjustedIntegrity),
      ("availability", m.adjustedAvailability)].find? fun p => p.2.any fun s => !isImpactLevel s).map fun p =>
    "adjusted " ++ p.1 ++ " must be low, moderate, or high"

/-- the checks of one mapping, after the identifiers in `seen` -/
def mappingError (seen : List String) (m : InformationTypeMapping) : Option String :=
  match catalogEntry m.catalogIdentifier with
  | none => some ("unknown SP 800-60 identifier: " ++ m.catalogIdentifier)
  | some entry =>
    if m.catalogIdentifier ∈ seen then some ("duplicate SP 800-60 identifier: " ++ m.catalogIdentifier)
    else if !hasText m.description then some "each information type mapping requires a description"
    else (adjustedError m).or <|
      if m.hasAdjustment entry && !hasText m.adjustmentRationale then
        some "adjustment rationale is required when catalog impacts are adjusted"
      else none

def mappingsError (seen : List String) : List InformationTypeMapping → Option String
  | [] => none
  | m :: ms => (mappingError seen m).or (mappingsError (m.catalogIdentifier :: seen) ms)

def validateInformationTypeRegister (ms : List InformationTypeMapping) : Except Err Unit :=
  if ms.isEmpty then raise .valueError "at least one SP 800-60 information type mapping is required"
  else
    match mappingsError [] ms with
    | some detail => raise .valueError detail
    | none => .ok ()

/-! ## The confirmation -/

def activeInformationTypesStatus (facts : List FactContent) : Option String :=
  knownStatus (activeText InformationTypes.statusKey facts)

def markInformationTypesStaleIfNeeded (content : RevisionContent) (sectionKey : String) : RevisionContent :=
  markConfirmationStale [InformationTypes.sectionKey] InformationTypes.statusKey content sectionKey

/-- the section text of a register -/
def informationTypesJson (ms : List InformationTypeMapping) : Except Err String := do
  let entries ← ms.mapM InformationTypeMapping.toDictOf
  return String.ofList ((Json.obj [("information_types", .arr entries)]).dumps .spaced)

def applyInformationTypeRegister (content : RevisionContent) (ms : List InformationTypeMapping) :
    Except Err RevisionContent := do
  validateInformationTypeRegister ms
  let text ← informationTypesJson ms
  match getSection InformationTypes.sectionKey content.sectionDict with
  | none => raise .valueError "information types section is unavailable"
  | some current => do
    let s ← validated SectionContent.firstError { current with content := text, state := .edited }
    let facts := putFact (.isso InformationTypes.statusKey (.str "confirmed")) content.factDict
    return { content with
      sections := sortSections (putSection s content.sectionDict)
      facts := sortFacts facts }

end AtoService.Workspace
