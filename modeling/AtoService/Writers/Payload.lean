/-
The payload manifest of an export and its digest, for every order in which the database returns the rows.

The manifest lists every file of the bundle with its digest. Two files list the dispositions and the matrix rows, in the
order of the query, which has no `ORDER BY`.

- `payload_hash_order`: the digest is the same for every order when there is at most one row of each kind, and, when no
  two of its texts share a digest, only then.
Witness `payload_hash_depends_on_order`: two dispositions, and a bundle that an approval no longer matches.
-/
import AtoService.Lib.JsonRoundTrip
import AtoService.Lib.Results
import AtoService.Lib.ShaEval

namespace AtoService.Export

open JsonText (member_canon_of_canon_eq member_canon_of_dumps_eq canon_eq_of_dumps_eq blanks_compact blanks_spaced)

/-! ## Texts -/

/-- what `ensure_ascii` writes for a character -/
def asciiEscape (c : Char) : List Char :=
  let unit := fun n : Nat => '\\' :: 'u' :: [n / 4096, n / 256 % 16, n / 16 % 16, n % 16].map hexChar
  if c.toNat < 127 then [c]
  else if c.toNat < 0x10000 then unit c.toNat
  else unit (0xD800 + (c.toNat - 0x10000) / 1024) ++ unit (0xDC00 + (c.toNat - 0x10000) % 1024)

/-- `json.dumps(value, sort_keys=True, separators=...)` -/
def jsonText (f : Separators) (v : Json) : List Char := (v.dumps f).flatMap asciiEscape

def digest (text : List Char) : String := Sha.sha256Hex text

def Ascii (text : List Char) : Prop := ∀ c ∈ text, c.toNat < 127

theorem jsonText_of_ascii {f : Separators} {v : Json} (h : Ascii (v.dumps f)) : jsonText f v = v.dumps f := by
  have hplain : ∀ cs : List Char, (∀ c ∈ cs, c.toNat < 127) → cs.flatMap asciiEscape = cs := by
    intro cs hcs
    induction cs with
    | nil => rfl
    | cons c cs ih =>
      rw [List.flatMap_cons, ih fun d hd => hcs d (List.mem_cons_of_mem _ hd), asciiEscape,
        if_pos (hcs c List.mem_cons_self)]
      rfl
  exact hplain _ h

/-! ## Rows -/

structure DispositionRow where
  matrixRowId : String
  decision : String
  editedSummary : Option String
  notes : Option String
  version : Nat
  decidedBy : Option String
  decidedAt : String
deriving DecidableEq, Repr

structure MatrixRow where
  matrixRowId : String
  assessmentItemId : String
  modelProposedStatus : String
  systemStatus : String
  findingSummary : String
  citations : List Json

def optionalText : Option String → Json
  | none => .null
  | some s => .str s

def DispositionRow.dict (d : DispositionRow) : List (String × Json) :=
  [("matrix_row_id", .str d.matrixRowId), ("decision", .str d.decision), ("edited_summary", optionalText d.editedSummary),
    ("notes", optionalText d.notes), ("version", .int d.version), ("decided_by", optionalText d.decidedBy),
    ("decided_at", .str d.decidedAt)]

def MatrixRow.dict (r : MatrixRow) : List (String × Json) :=
  [("matrix_row_id", .str r.matrixRowId), ("assessment_item_id", .str r.assessmentItemId),
    ("model_proposed_status", .str r.modelProposedStatus), ("system_status", .str r.systemStatus),
    ("finding_summary", .str r.findingSummary), ("citations", .arr r.citations)]

/-- the review, its run and its sealed document -/
structure Bundle where
  profileId : String
  packageRevisionId : String
  runId : String
  reviewRevisionId : String
  authorityManifestId : String
  sealedDocument : List (String × Json)

def dispositionsPath : String := "provenance/dispositions.json"

def matrixPath : String := "machine/assessment-matrix.json"

/-- what the other generators write: README, readiness and validation results, and the artifacts of the profile -/
structure Generators where
  files : Bundle → List DispositionRow → List MatrixRow → List (String × List Char)
  officialSchemaId : Bundle → String → Option String
  /-- none of them writes the lists of rows -/
  disjoint : ∀ b ds rs, ∀ p ∈ files b ds rs, p.1 ≠ dispositionsPath ∧ p.1 ≠ matrixPath

/-! ## Files and manifest -/

def summaryCell (summary : String) : String :=
  String.ofList ((Py.chars summary).map fun c => if c = '|' then '/' else c)

def draftDisclaimer : String :=
  "DRAFT ONLY. This bundle does not constitute an official FedRAMP submission, " ++
    "certification, authorization, or assessor conclusion."

def assessmentMatrixMarkdown (rows : List MatrixRow) : String :=
  String.intercalate "\n" (["# Assessment matrix (draft)", "", draftDisclaimer, "",
    "| Item | Model status | System status | Summary |", "| --- | --- | --- | --- |"] ++
    rows.map fun r => "| " ++ r.assessmentItemId ++ " | " ++ r.modelProposedStatus ++ " | " ++ r.systemStatus ++ " | " ++
      summaryCell r.findingSummary ++ " |") ++ "\n"

def dispositionsJson (ds : List DispositionRow) : List (String × Json) :=
  [("dispositions", .arr (ds.map fun d => .obj d.dict))]

def matrixJson (rs : List MatrixRow) : List (String × Json) := [("rows", .arr (rs.map fun r => .obj r.dict))]

def assessorImports (document : List (String × Json)) : List (String × List Char) :=
  match (Json.member "assessor_inputs" document).bind Json.asObj with
  | none => []
  | some [] => []
  | some inputs => [("provenance/assessor-imports.json", jsonText .spaced (.obj
      [("assessor_inputs", .obj inputs), ("import_only", .bool true), ("owner", .str "assessor")]))]

/-- the contents by path, in the order in which they are assigned -/
def contentAssignments (g : Generators) (b : Bundle) (ds : List DispositionRow) (rs : List MatrixRow) :
    List (String × List Char) :=
  [("machine/package-document.json", jsonText .spaced (.obj b.sealedDocument)),
    ("provenance/review-run.json", jsonText .spaced (.obj
      [("review_revision_id", .str b.reviewRevisionId), ("run_id", .str b.runId)])),
    (dispositionsPath, jsonText .spaced (.obj (dispositionsJson ds))),
    (matrixPath, jsonText .spaced (.obj (matrixJson rs)))] ++
  (if b.profileId = "fisma_agency_security" then []
    else [("human/assessment-matrix.md", Py.chars (assessmentMatrixMarkdown rs))]) ++
  assessorImports b.sealedDocument ++ g.files b ds rs

/-- `sorted(contents.items())` -/
def generateProfileArtifacts (g : Generators) (b : Bundle) (ds : List DispositionRow) (rs : List MatrixRow) :
    List (String × List Char) :=
  KeyedList.sorted Prod.fst (KeyedList.ofList Prod.fst (contentAssignments g b ds rs))

def mediaTypeForPath (path : String) : String :=
  if path.endsWith ".md" then "text/markdown" else if path.endsWith ".json" then "application/json" else "text/plain"

def descriptorForPath (g : Generators) (b : Bundle) (file : String × List Char) : List (String × Json) :=
  [("path", .str file.1), ("media_type", .str (mediaTypeForPath file.1)), ("sha256", .str (digest file.2)),
    ("size_bytes", .int (Sha.utf8 file.2).length), ("official_schema_id", optionalText (g.officialSchemaId b file.1))]

def draftManifest (g : Generators) (b : Bundle) (ds : List DispositionRow) (rs : List MatrixRow) : List (String × Json) :=
  [("schema_version", .str "1.0.0"), ("profile_id", .str b.profileId), ("package_revision_id", .str b.packageRevisionId),
    ("run_id", .str b.runId), ("review_revision_id", .str b.reviewRevisionId),
    ("authority_manifest_id", .str b.authorityManifestId),
    ("files", .arr ((generateProfileArtifacts g b ds rs).map fun file => .obj (descriptorForPath g b file)))]

/-- `create_export_draft` and `compute_current_payload_manifest_sha256`, for the rows in the order of the query -/
def payloadManifestSha256 (g : Generators) (b : Bundle) (ds : List DispositionRow) (rs : List MatrixRow) : String :=
  digest (jsonText .compact (.obj (draftManifest g b ds rs)))

inductive ExportError where
  | approvalPayloadMismatch
deriving DecidableEq, Repr

/-- the comparison that `assemble_export_bundle` makes before it builds the archive -/
def assembleExportBundle (g : Generators) (b : Bundle) (ds : List DispositionRow) (rs : List MatrixRow)
    (expectedPayloadManifestSha256 : String) : Except ExportError (List (String × List Char)) := do
  Results.ensure (payloadManifestSha256 g b ds rs = expectedPayloadManifestSha256) .approvalPayloadMismatch
  return generateProfileArtifacts g b ds rs

/-! ## Orders of the rows -/

/-- one digest for every order of the rows, and a bundle that always matches it -/
def OrderIndependent (g : Generators) (b : Bundle) (ds : List DispositionRow) (rs : List MatrixRow) : Prop :=
  ∀ ds₁ ds₂ rs₁ rs₂, ds₁.Perm ds → ds₂.Perm ds → rs₁.Perm rs → rs₂.Perm rs →
    payloadManifestSha256 g b ds₁ rs₁ = payloadManifestSha256 g b ds₂ rs₂ ∧
    assembleExportBundle g b ds₂ rs₂ (payloadManifestSha256 g b ds₁ rs₁) = .ok (generateProfileArtifacts g b ds₂ rs₂)

/-- rows by distinct identifiers, in texts of ASCII characters -/
structure Legible (g : Generators) (b : Bundle) (ds : List DispositionRow) (rs : List MatrixRow) : Prop where
  dispositionIds : (ds.map DispositionRow.matrixRowId).Nodup
  rowIds : (rs.map MatrixRow.matrixRowId).Nodup
  citations : ∀ r ∈ rs, ∀ c ∈ r.citations, c.WellFormed
  dispositions : ∀ ds', ds'.Perm ds → Ascii ((Json.obj (dispositionsJson ds')).dumps .spaced)
  matrix : ∀ rs', rs'.Perm rs → Ascii ((Json.obj (matrixJson rs')).dumps .spaced)
  manifests : ∀ ds' rs', ds'.Perm ds → rs'.Perm rs → Ascii ((Json.obj (draftManifest g b ds' rs')).dumps .compact)

/-- the files and manifests of different orders have different digests, when they differ -/
structure CollisionFree (g : Generators) (b : Bundle) (ds : List DispositionRow) (rs : List MatrixRow) : Prop where
  dispositions : ∀ ds₁ ds₂, ds₁.Perm ds → ds₂.Perm ds →
    digest (jsonText .spaced (.obj (dispositionsJson ds₁))) = digest (jsonText .spaced (.obj (dispositionsJson ds₂))) →
    jsonText .spaced (.obj (dispositionsJson ds₁)) = jsonText .spaced (.obj (dispositionsJson ds₂))
  matrix : ∀ rs₁ rs₂, rs₁.Perm rs → rs₂.Perm rs →
    digest (jsonText .spaced (.obj (matrixJson rs₁))) = digest (jsonText .spaced (.obj (matrixJson rs₂))) →
    jsonText .spaced (.obj (matrixJson rs₁)) = jsonText .spaced (.obj (matrixJson rs₂))
  manifests : ∀ ds₁ ds₂ rs₁ rs₂, ds₁.Perm ds → ds₂.Perm ds → rs₁.Perm rs → rs₂.Perm rs →
    payloadManifestSha256 g b ds₁ rs₁ = payloadManifestSha256 g b ds₂ rs₂ →
    jsonText .compact (.obj (draftManifest g b ds₁ rs₁)) = jsonText .compact (.obj (draftManifest g b ds₂ rs₂))

theorem eq_of_perm {α : Type} {xs ys : List α} (hone : xs.length ≤ 1) (h : ys.Perm xs) : ys = xs := by
  rcases xs with _ | ⟨x, _ | ⟨x', xs⟩⟩
  · exact h.eq_nil
  · exact List.perm_singleton.1 h
  · simp at hone

theorem assembleExportBundle_eq_ok {g : Generators} {b : Bundle} {ds : List DispositionRow} {rs : List MatrixRow}
    {expected : String} (h : payloadManifestSha256 g b ds rs = expected) :
    assembleExportBundle g b ds rs expected = .ok (generateProfileArtifacts g b ds rs) :=
  Results.bind_eq_ok.2 ⟨(), Results.ensure_eq_ok.2 h, rfl⟩

/-! ## What a manifest says of the rows -/

section

variable {g : Generators} {b : Bundle} {ds ds₁ ds₂ : List DispositionRow} {rs rs₁ rs₂ : List MatrixRow}

theorem distinct_generateProfileArtifacts : KeyedList.Distinct Prod.fst (generateProfileArtifacts g b ds rs) :=
  KeyedList.distinct_sorted (KeyedList.distinct_ofList _)

theorem path_of_assessorImports {document : List (String × Json)} {p : String × List Char}
    (h : p ∈ assessorImports document) : p.1 = "provenance/assessor-imports.json" := by
  unfold assessorImports at h
  split at h
  · exact absurd h List.not_mem_nil
  · exact absurd h List.not_mem_nil
  · rw [List.mem_singleton.1 h]

/-- what is assigned after the lists of rows has another path -/
theorem later_paths {p : String × List Char} (h : p ∈ (if b.profileId = "fisma_agency_security" then []
      else [("human/assessment-matrix.md", Py.chars (assessmentMatrixMarkdown rs))]) ++
    assessorImports b.sealedDocument ++ g.files b ds rs) : p.1 ≠ dispositionsPath ∧ p.1 ≠ matrixPath := by
  rcases List.mem_append.1 h with h | h
  · rcases List.mem_append.1 h with h | h
    · split_ifs at h
      · exact absurd h List.not_mem_nil
      · rw [List.mem_singleton.1 h]
        exact ⟨show "human/assessment-matrix.md" ≠ dispositionsPath by decide,
          show "human/assessment-matrix.md" ≠ matrixPath by decide⟩
    · rw [path_of_assessorImports h]
      decide
  · exact g.disjoint b ds rs p h

theorem contentAssignments_eq : contentAssignments g b ds rs =
    [("machine/package-document.json", jsonText .spaced (.obj b.sealedDocument)),
      ("provenance/review-run.json", jsonText .spaced (.obj
        [("review_revision_id", .str b.reviewRevisionId), ("run_id", .str b.runId)]))] ++
    (dispositionsPath, jsonText .spaced (.obj (dispositionsJson ds))) ::
    (matrixPath, jsonText .spaced (.obj (matrixJson rs))) ::
    ((if b.profileId = "fisma_agency_security" then []
      else [("human/assessment-matrix.md", Py.chars (assessmentMatrixMarkdown rs))]) ++
    assessorImports b.sealedDocument ++ g.files b ds rs) := by
  simp only [contentAssignments, List.cons_append, List.nil_append, List.append_assoc]

theorem dispositions_mem :
    (dispositionsPath, jsonText .spaced (.obj (dispositionsJson ds))) ∈ generateProfileArtifacts g b ds rs := by
  have hget : KeyedList.get? Prod.fst dispositionsPath (KeyedList.ofList Prod.fst (contentAssignments g b ds rs)) =
      some (dispositionsPath, jsonText .spaced (.obj (dispositionsJson ds))) := by
    rw [contentAssignments_eq]
    refine KeyedList.get?_ofList_of_last (x := (dispositionsPath, jsonText .spaced (.obj (dispositionsJson ds))))
      fun p hp => ?_
    rcases List.mem_cons.1 hp with rfl | hp
    · exact show matrixPath ≠ dispositionsPath by decide
    · exact (later_paths hp).1
  exact KeyedList.mem_sorted.2 (KeyedList.mem_of_get? hget)

theorem matrix_mem : (matrixPath, jsonText .spaced (.obj (matrixJson rs))) ∈ generateProfileArtifacts g b ds rs := by
  have hget : KeyedList.get? Prod.fst matrixPath (KeyedList.ofList Prod.fst (contentAssignments g b ds rs)) =
      some (matrixPath, jsonText .spaced (.obj (matrixJson rs))) := by
    rw [contentAssignments_eq, List.append_cons]
    exact KeyedList.get?_ofList_of_last (x := (matrixPath, jsonText .spaced (.obj (matrixJson rs))))
      fun p hp => (later_paths hp).2
  exact KeyedList.mem_sorted.2 (KeyedList.mem_of_get? hget)

theorem wellFormed_optionalText (s : Option String) : (optionalText s).WellFormed := by
  cases s <;> exact trivial

theorem wellFormed_descriptor (file : String × List Char) : (Json.obj (descriptorForPath g b file)).WellFormed := by
  refine ⟨?_, (Json.wellFormedFields_iff _).2 fun p hp => ?_⟩
  · simp [KeyedList.Distinct, descriptorForPath]
  · simp only [descriptorForPath, List.mem_cons, List.not_mem_nil, or_false] at hp
    rcases hp with rfl | rfl | rfl | rfl | rfl
    · exact trivial
    · exact trivial
    · exact trivial
    · exact trivial
    · exact wellFormed_optionalText _

theorem wellFormed_manifest : (Json.obj (draftManifest g b ds rs)).WellFormed := by
  refine ⟨?_, (Json.wellFormedFields_iff _).2 fun p hp => ?_⟩
  · simp [KeyedList.Distinct, draftManifest]
  · simp only [draftManifest, List.mem_cons, List.not_mem_nil, or_false] at hp
    rcases hp with rfl | rfl | rfl | rfl | rfl | rfl | rfl
    iterate 6 exact trivial
    refine (Json.wellFormedItems_iff _).2 fun d hd => ?_
    obtain ⟨file, -, rfl⟩ := List.mem_map.1 hd
    exact wellFormed_descriptor file

/-- two manifests with one text give a path the same digest -/
theorem digest_of_manifest_eq (h : (Json.obj (draftManifest g b ds₁ rs₁)).dumps .compact =
      (Json.obj (draftManifest g b ds₂ rs₂)).dumps .compact) {path : String} {text₁ text₂ : List Char}
    (h₁ : (path, text₁) ∈ generateProfileArtifacts g b ds₁ rs₁)
    (h₂ : (path, text₂) ∈ generateProfileArtifacts g b ds₂ rs₂) : digest text₁ = digest text₂ := by
  have hfiles := member_canon_of_dumps_eq blanks_compact wellFormed_manifest wellFormed_manifest h "files"
  have hcanon : ((generateProfileArtifacts g b ds₁ rs₁).map fun file => (Json.obj (descriptorForPath g b file)).canon) =
      (generateProfileArtifacts g b ds₂ rs₂).map fun file => (Json.obj (descriptorForPath g b file)).canon := by
    simpa [draftManifest, Json.member, KeyedList.get?, Json.canon, Json.canonItems_eq, Function.comp_def] using hfiles
  have hmem := List.mem_map_of_mem (f := fun file => (Json.obj (descriptorForPath g b file)).canon) h₁
  rw [hcanon] at hmem
  obtain ⟨file, hfile, heq⟩ := List.mem_map.1 hmem
  have hmember := member_canon_of_canon_eq (wellFormed_descriptor file) (wellFormed_descriptor (path, text₁)) heq
  have hpath : file.1 = path := by
    simpa [descriptorForPath, Json.member, KeyedList.get?, Json.canon] using hmember "path"
  have hsha : digest file.2 = digest text₁ := by
    simpa [descriptorForPath, Json.member, KeyedList.get?, Json.canon] using hmember "sha256"
  obtain ⟨path', text⟩ := file
  obtain rfl : path' = path := hpath
  have hget := (KeyedList.get?_eq_some distinct_generateProfileArtifacts).2 ⟨hfile, rfl⟩
  have hget' := (KeyedList.get?_eq_some distinct_generateProfileArtifacts).2 ⟨h₂, rfl⟩
  obtain ⟨-, rfl⟩ := Prod.mk.inj (Option.some.inj (hget.symm.trans hget'))
  exact hsha.symm

/-- the identifier that a row's dictionary holds -/
def rowId (v : Json) : Option String := do
  let fields ← v.asObj
  let id ← Json.member "matrix_row_id" fields
  id.asStr

theorem rowId_canon {fields : List (String × Json)} (hv : (Json.obj fields).WellFormed) {id : String}
    (h : Json.member "matrix_row_id" fields = some (.str id)) : rowId (Json.obj fields).canon = some id := by
  have hmember := JsonText.member_canon hv "matrix_row_id"
  rw [h] at hmember
  rw [Json.canon_obj]
  simp only [rowId, Json.asObj, hmember, Option.map_some, Option.bind_eq_bind, Option.bind_some]
  rfl

theorem wellFormed_disposition (d : DispositionRow) : (Json.obj d.dict).WellFormed := by
  refine ⟨?_, (Json.wellFormedFields_iff _).2 fun p hp => ?_⟩
  · simp [KeyedList.Distinct, DispositionRow.dict]
  · simp only [DispositionRow.dict, List.mem_cons, List.not_mem_nil, or_false] at hp
    rcases hp with rfl | rfl | rfl | rfl | rfl | rfl | rfl
    · exact trivial
    · exact trivial
    · exact wellFormed_optionalText _
    · exact wellFormed_optionalText _
    · exact trivial
    · exact wellFormed_optionalText _
    · exact trivial

theorem wellFormed_matrixRow {r : MatrixRow} (hr : ∀ c ∈ r.citations, c.WellFormed) : (Json.obj r.dict).WellFormed := by
  refine ⟨?_, (Json.wellFormedFields_iff _).2 fun p hp => ?_⟩
  · simp [KeyedList.Distinct, MatrixRow.dict]
  · simp only [MatrixRow.dict, List.mem_cons, List.not_mem_nil, or_false] at hp
    rcases hp with rfl | rfl | rfl | rfl | rfl | rfl
    iterate 5 exact trivial
    exact (Json.wellFormedItems_iff _).2 hr

/-- two objects with one list of rows and one text list rows with the same identifiers -/
theorem ids_of_dumps_eq {α : Type} {id : α → String} {dict : α → List (String × Json)} {name : String} {xs ys : List α}
    (hx : ∀ x ∈ xs, (Json.obj (dict x)).WellFormed) (hy : ∀ y ∈ ys, (Json.obj (dict y)).WellFormed)
    (hid : ∀ x, Json.member "matrix_row_id" (dict x) = some (.str (id x)))
    (h : (Json.obj [(name, .arr (xs.map fun x => .obj (dict x)))]).dumps .spaced =
      (Json.obj [(name, .arr (ys.map fun y => .obj (dict y)))]).dumps .spaced) : xs.map id = ys.map id := by
  have hlist : ∀ zs : List α, (∀ z ∈ zs, (Json.obj (dict z)).WellFormed) →
      (Json.obj [(name, .arr (zs.map fun z => .obj (dict z)))]).WellFormed := by
    intro zs hzs
    refine ⟨by simp [KeyedList.Distinct], (Json.wellFormedItems_iff _).2 fun v hv => ?_, trivial⟩
    obtain ⟨z, hz, rfl⟩ := List.mem_map.1 hv
    exact hzs z hz
  have hids : ∀ zs : List α, (∀ z ∈ zs, (Json.obj (dict z)).WellFormed) →
      (zs.map fun z => rowId (Json.obj (dict z)).canon) = zs.map fun z => some (id z) := by
    intro zs hzs
    exact List.map_congr_left fun z hz => rowId_canon (hzs z hz) (hid z)
  have hrows : (xs.map fun x => (Json.obj (dict x)).canon) = ys.map fun y => (Json.obj (dict y)).canon := by
    simpa [Json.member, KeyedList.get?, Json.canon, Json.canonItems_eq, Function.comp_def] using
      member_canon_of_dumps_eq blanks_spaced (hlist xs hx) (hlist ys hy) h name
  have hsome := congrArg (List.map rowId) hrows
  rw [List.map_map, List.map_map] at hsome
  have hmapped : (xs.map fun x => some (id x)) = ys.map fun y => some (id y) := by
    rw [← hids xs hx, ← hids ys hy]
    exact hsome
  have hinj := congrArg (List.map fun o : Option String => o.getD "") hmapped
  simpa [List.map_map, Function.comp_def] using hinj

/-- rows that may come in two orders with the same identifiers are at most one -/
theorem length_le_one {α : Type} {id : α → String} {xs : List α} (hd : (xs.map id).Nodup)
    (h : ∀ ys : List α, ys.Perm xs → ys.map id = xs.map id) : xs.length ≤ 1 := by
  rcases xs with _ | ⟨x, _ | ⟨x', xs⟩⟩
  · exact Nat.zero_le 1
  · exact le_rfl
  · have hswap := h (x' :: x :: xs) (List.Perm.swap x x' xs)
    simp only [List.map_cons, List.cons.injEq] at hswap hd
    exact absurd hswap.1.symm fun heq => (List.nodup_cons.1 hd).1 (heq ▸ List.mem_cons_self)

theorem manifest_text_eq (hl : Legible g b ds rs) (hc : CollisionFree g b ds rs) (h : OrderIndependent g b ds rs)
    (hds₁ : ds₁.Perm ds) (hds₂ : ds₂.Perm ds) (hrs₁ : rs₁.Perm rs) (hrs₂ : rs₂.Perm rs) :
    (Json.obj (draftManifest g b ds₁ rs₁)).dumps .compact = (Json.obj (draftManifest g b ds₂ rs₂)).dumps .compact := by
  have htext := hc.manifests ds₁ ds₂ rs₁ rs₂ hds₁ hds₂ hrs₁ hrs₂ (h ds₁ ds₂ rs₁ rs₂ hds₁ hds₂ hrs₁ hrs₂).1
  rwa [jsonText_of_ascii (hl.manifests ds₁ rs₁ hds₁ hrs₁), jsonText_of_ascii (hl.manifests ds₂ rs₂ hds₂ hrs₂)] at htext

theorem dispositions_le_one (hl : Legible g b ds rs) (hc : CollisionFree g b ds rs) (h : OrderIndependent g b ds rs) :
    ds.length ≤ 1 := by
  refine length_le_one hl.dispositionIds fun ds' hds' => ?_
  have hmanifest := manifest_text_eq hl hc h hds' (List.Perm.refl ds) (List.Perm.refl rs) (List.Perm.refl rs)
  have htext := hc.dispositions ds' ds hds' (List.Perm.refl ds)
    (digest_of_manifest_eq hmanifest dispositions_mem dispositions_mem)
  rw [jsonText_of_ascii (hl.dispositions ds' hds'), jsonText_of_ascii (hl.dispositions ds (List.Perm.refl ds))] at htext
  exact ids_of_dumps_eq (fun d _ => wellFormed_disposition d) (fun d _ => wellFormed_disposition d) (fun _ => rfl) htext

theorem rows_le_one (hl : Legible g b ds rs) (hc : CollisionFree g b ds rs) (h : OrderIndependent g b ds rs) :
    rs.length ≤ 1 := by
  refine length_le_one hl.rowIds fun rs' hrs' => ?_
  have hmanifest := manifest_text_eq hl hc h (List.Perm.refl ds) (List.Perm.refl ds) hrs' (List.Perm.refl rs)
  have htext := hc.matrix rs' rs hrs' (List.Perm.refl rs) (digest_of_manifest_eq hmanifest matrix_mem matrix_mem)
  rw [jsonText_of_ascii (hl.matrix rs' hrs'), jsonText_of_ascii (hl.matrix rs (List.Perm.refl rs))] at htext
  exact ids_of_dumps_eq (fun r hr => wellFormed_matrixRow (hl.citations r (hrs'.mem_iff.1 hr)))
    (fun r hr => wellFormed_matrixRow (hl.citations r hr)) (fun _ => rfl) htext

/-- **When the payload digest does not depend on the order of the rows.** It is the same for every order when there is at
most one disposition and one matrix row; for rows in ASCII texts that no two digests confuse, only then. -/
theorem payload_hash_order (g : Generators) (b : Bundle) (ds : List DispositionRow) (rs : List MatrixRow) :
    (ds.length ≤ 1 ∧ rs.length ≤ 1 → OrderIndependent g b ds rs) ∧
    (Legible g b ds rs → CollisionFree g b ds rs → OrderIndependent g b ds rs → ds.length ≤ 1 ∧ rs.length ≤ 1) := by
  refine ⟨fun hone ds₁ ds₂ rs₁ rs₂ hds₁ hds₂ hrs₁ hrs₂ => ?_, fun hl hc h =>
    ⟨dispositions_le_one hl hc h, rows_le_one hl hc h⟩⟩
  rw [eq_of_perm hone.1 hds₁, eq_of_perm hone.1 hds₂, eq_of_perm hone.2 hrs₁, eq_of_perm hone.2 hrs₂]
  exact ⟨rfl, assembleExportBundle_eq_ok rfl⟩

end

namespace Samples

def readme : String := String.intercalate "\n" [draftDisclaimer, "", "Profile: fisma_agency_security",
  "HS-001: Vendored authority bytes are present, but qualified human review of " ++
    "official schemas and rules remains pending. Official schema qualification " ++ "claims are blocked.",
  "HS-009: Assessor-owned fields are import-only. Complete Class C package " ++
    "readiness claims remain blocked without supplied assessor material.",
  "", "Open export-readiness blockers:", "- none", "",
  "Official schema qualification and complete package readiness claims remain " ++
    "blocked while HS-001 and HS-009 are open."]

def generators : Generators where
  files _ _ _ := [("README.txt", Py.chars readme)]
  officialSchemaId _ _ := none
  disjoint := by
    intro b ds rs p hp
    rw [List.mem_singleton.1 hp]
    exact ⟨show "README.txt" ≠ dispositionsPath by decide +kernel, show "README.txt" ≠ matrixPath by decide +kernel⟩

def bundle : Bundle :=
  { profileId := "fisma_agency_security", packageRevisionId := "9d0f1a52-8c6b-4f0e-8f6a-3a1b2c4d5e6f"
    runId := "0b8a4d1c-55a7-4d6e-9a0b-1c2d3e4f5a6b", reviewRevisionId := "7c1d9e8f-2a3b-4c5d-8e6f-7a8b9c0d1e2f"
    authorityManifestId := "authority", sealedDocument := [] }

def accepted (matrixRowId : String) : DispositionRow :=
  ⟨matrixRowId, "accepted", none, none, 2, some "reviewer", "2026-01-02T03:04:05Z"⟩

def supportedRow (matrixRowId assessmentItemId : String) : MatrixRow :=
  ⟨matrixRowId, assessmentItemId, "supported", "supported", "Accounts are managed.", []⟩

def first : String := "11111111-1111-4111-8111-111111111111"

def second : String := "22222222-2222-4222-8222-222222222222"

def rows : List MatrixRow := [supportedRow first "AC-2", supportedRow second "AC-3"]

def dispositions : List DispositionRow := [accepted first, accepted second]

def dispositionsBack : List DispositionRow := [accepted second, accepted first]

def rowsBack : List MatrixRow := [supportedRow second "AC-3", supportedRow first "AC-2"]

theorem orders {α : Type} {x y : α} {zs : List α} (h : zs.Perm [x, y]) : zs = [x, y] ∨ zs = [y, x] :=
  List.perm_pair.1 h

theorem orders_dispositions {ds : List DispositionRow} (h : ds.Perm dispositions) :
    ds = dispositions ∨ ds = dispositionsBack := orders h

theorem orders_rows {rs : List MatrixRow} (h : rs.Perm rows) : rs = rows ∨ rs = rowsBack := orders h

theorem artifacts_eq (ds : List DispositionRow) (rs : List MatrixRow) : generateProfileArtifacts generators bundle ds rs =
    [("README.txt", Py.chars readme), (matrixPath, jsonText .spaced (.obj (matrixJson rs))),
      ("machine/package-document.json", jsonText .spaced (.obj [])),
      (dispositionsPath, jsonText .spaced (.obj (dispositionsJson ds))),
      ("provenance/review-run.json", jsonText .spaced (.obj
        [("review_revision_id", .str bundle.reviewRevisionId), ("run_id", .str bundle.runId)]))] := rfl

def descriptor (path mediaType sha256 : String) (sizeBytes : Int) : Json :=
  .obj [("path", .str path), ("media_type", .str mediaType), ("sha256", .str sha256), ("size_bytes", .int sizeBytes),
    ("official_schema_id", .null)]

/-- the manifest of two dispositions and two rows, by the digests of their files -/
def manifest (dispositionsSha256 matrixSha256 : String) : List (String × Json) :=
  [("schema_version", .str "1.0.0"), ("profile_id", .str bundle.profileId),
    ("package_revision_id", .str bundle.packageRevisionId), ("run_id", .str bundle.runId),
    ("review_revision_id", .str bundle.reviewRevisionId), ("authority_manifest_id", .str bundle.authorityManifestId),
    ("files", .arr [
      descriptor "README.txt" "text/plain" "17a9daab97b2c90cba71d54216e6513b4505eab8e7a0eb49c2652a70212cd5a7" 629,
      descriptor matrixPath "application/json" matrixSha256 446,
      descriptor "machine/package-document.json" "application/json"
        "44136fa355b3678a1146ad16f7e8649e94fb4fc21fe77e8310c060f61caaff8a" 2,
      descriptor dispositionsPath "application/json" dispositionsSha256 418,
      descriptor "provenance/review-run.json" "application/json"
        "99c9fd3775b214d7811aa5bffecc83df805f6780e9a104fc38d1d919030ddadf" 112])]

/-- the digest and the size of a text -/
def digestAndSize (text : List Char) : String × Nat := (digest text, (Sha.utf8 text).length)

def dispositionsText (ds : List DispositionRow) : List Char := jsonText .spaced (.obj (dispositionsJson ds))

def matrixText (rs : List MatrixRow) : List Char := jsonText .spaced (.obj (matrixJson rs))

/-- the digest of the dispositions in the order of the query, and in the other order -/
def forthSha256 : String := "641d50c8827c4d60015e4d22f40603f7cbd8ff7e4dfaf480c9a652dc99f0b701"

def backSha256 : String := "806027c6da2cf8785731520364e1ded70622bb48b6e9958e72e9e7ccb41c8b44"

/-- the same for the matrix rows -/
def matrixForthSha256 : String := "daa7ba1bfe5d1bd72e8bbf6e84f4c92a7d0b2abf810d13ed1a8ed769240d9ac3"

def matrixBackSha256 : String := "3b25cbddde1ffe2f1447289e0905d204efb5e71f15f046adebcf0b6e48a67bc1"

theorem dispositions_digest : digestAndSize (dispositionsText dispositions) = (forthSha256, 418) ∧
    digestAndSize (dispositionsText dispositionsBack) = (backSha256, 418) := by
  simp only [digestAndSize, digest, Sha.sha256Hex, Sha.sha256_eq_eval]
  decide +kernel

theorem matrix_digest : digestAndSize (matrixText rows) = (matrixForthSha256, 446) ∧
    digestAndSize (matrixText rowsBack) = (matrixBackSha256, 446) := by
  simp only [digestAndSize, digest, Sha.sha256Hex, Sha.sha256_eq_eval]
  decide +kernel

theorem draftManifest_eq {ds : List DispositionRow} {rs : List MatrixRow} {dispositionsSha256 matrixSha256 : String}
    (hds : digestAndSize (dispositionsText ds) = (dispositionsSha256, 418))
    (hrs : digestAndSize (matrixText rs) = (matrixSha256, 446)) :
    draftManifest generators bundle ds rs = manifest dispositionsSha256 matrixSha256 := by
  have hothers : digestAndSize (Py.chars readme) =
        ("17a9daab97b2c90cba71d54216e6513b4505eab8e7a0eb49c2652a70212cd5a7", 629) ∧
      digestAndSize (jsonText .spaced (.obj [])) =
        ("44136fa355b3678a1146ad16f7e8649e94fb4fc21fe77e8310c060f61caaff8a", 2) ∧
      digestAndSize (jsonText .spaced (.obj
        [("review_revision_id", .str bundle.reviewRevisionId), ("run_id", .str bundle.runId)])) =
        ("99c9fd3775b214d7811aa5bffecc83df805f6780e9a104fc38d1d919030ddadf", 112) := by
    simp only [digestAndSize, digest, Sha.sha256Hex, Sha.sha256_eq_eval]
    decide +kernel
  have hmedia : mediaTypeForPath "README.txt" = "text/plain" ∧ mediaTypeForPath matrixPath = "application/json" ∧
      mediaTypeForPath "machine/package-document.json" = "application/json" ∧
      mediaTypeForPath dispositionsPath = "application/json" ∧
      mediaTypeForPath "provenance/review-run.json" = "application/json" := by
    decide +kernel
  obtain ⟨hreadme, hdocument, hrun⟩ := hothers
  simp only [digestAndSize, Prod.mk.injEq, dispositionsText, matrixText] at hds hrs hreadme hdocument hrun
  simp only [draftManifest, artifacts_eq, List.map_cons, List.map_nil, descriptorForPath, hmedia, hds, hrs, hreadme,
    hdocument, hrun]
  rfl

/-- the digests of the four manifests -/
theorem manifest_digests :
    digest (jsonText .compact (.obj (manifest forthSha256 matrixForthSha256))) =
        "1ccadc481282e544d2c0dd724f4754e4e464c7c51a81a0c9bfed1f1aa7bc26cd" ∧
      digest (jsonText .compact (.obj (manifest forthSha256 matrixBackSha256))) =
        "bd4953afb5a0f6f232f97b25e27f41b78a8d5abb26ab15218610284107ac2422" ∧
      digest (jsonText .compact (.obj (manifest backSha256 matrixForthSha256))) =
        "b18f523ba0c70e47f0b3e39d78d31aed322b81539034771891ebe592a1fbfa0a" ∧
      digest (jsonText .compact (.obj (manifest backSha256 matrixBackSha256))) =
        "aa2a1cff3bb71e03b1c02958f1a86e99294f960ab294f2b580495724733bcd6e" := by
  simp only [digest, Sha.sha256Hex, Sha.sha256_eq_eval]
  decide +kernel

theorem manifests_forth : draftManifest generators bundle dispositions rows = manifest forthSha256 matrixForthSha256 ∧
    draftManifest generators bundle dispositions rowsBack = manifest forthSha256 matrixBackSha256 :=
  ⟨draftManifest_eq dispositions_digest.1 matrix_digest.1, draftManifest_eq dispositions_digest.1 matrix_digest.2⟩

theorem manifests_back : draftManifest generators bundle dispositionsBack rows = manifest backSha256 matrixForthSha256 ∧
    draftManifest generators bundle dispositionsBack rowsBack = manifest backSha256 matrixBackSha256 :=
  ⟨draftManifest_eq dispositions_digest.2 matrix_digest.1, draftManifest_eq dispositions_digest.2 matrix_digest.2⟩

/-- the payload digests of the two orders of each kind -/
theorem payload_digests :
    payloadManifestSha256 generators bundle dispositions rows =
        "1ccadc481282e544d2c0dd724f4754e4e464c7c51a81a0c9bfed1f1aa7bc26cd" ∧
      payloadManifestSha256 generators bundle dispositions rowsBack =
        "bd4953afb5a0f6f232f97b25e27f41b78a8d5abb26ab15218610284107ac2422" ∧
      payloadManifestSha256 generators bundle dispositionsBack rows =
        "b18f523ba0c70e47f0b3e39d78d31aed322b81539034771891ebe592a1fbfa0a" ∧
      payloadManifestSha256 generators bundle dispositionsBack rowsBack =
        "aa2a1cff3bb71e03b1c02958f1a86e99294f960ab294f2b580495724733bcd6e" := by
  simp only [payloadManifestSha256, manifests_forth, manifests_back]
  exact manifest_digests

theorem rows_legible : Legible generators bundle dispositions rows where
  dispositionIds := by decide
  rowIds := by decide
  citations := by
    intro r hr c hc
    have hnone : ∀ r ∈ rows, r.citations = [] := by decide
    rw [hnone r hr] at hc
    exact absurd hc List.not_mem_nil
  dispositions := by
    intro ds hds
    rcases orders_dispositions hds with rfl | rfl
    · unfold Ascii
      decide +kernel
    · unfold Ascii
      decide +kernel
  matrix := by
    intro rs hrs
    rcases orders_rows hrs with rfl | rfl
    · unfold Ascii
      decide +kernel
    · unfold Ascii
      decide +kernel
  manifests := by
    intro ds rs hds hrs
    rcases orders_dispositions hds with rfl | rfl <;> rcases orders_rows hrs with rfl | rfl
    all_goals
      simp only [manifests_forth, manifests_back, Ascii]
      decide +kernel

theorem rows_collisionFree : CollisionFree generators bundle dispositions rows where
  dispositions := by
    have hforth := congrArg Prod.fst dispositions_digest.1
    have hback := congrArg Prod.fst dispositions_digest.2
    intro ds₁ ds₂ hds₁ hds₂ h
    rcases orders_dispositions hds₁ with rfl | rfl <;> rcases orders_dispositions hds₂ with rfl | rfl
    · rfl
    · exact absurd (hforth.symm.trans (h.trans hback)) (by decide)
    · exact absurd (hback.symm.trans (h.trans hforth)) (by decide)
    · rfl
  matrix := by
    have hforth := congrArg Prod.fst matrix_digest.1
    have hback := congrArg Prod.fst matrix_digest.2
    intro rs₁ rs₂ hrs₁ hrs₂ h
    rcases orders_rows hrs₁ with rfl | rfl <;> rcases orders_rows hrs₂ with rfl | rfl
    · rfl
    · exact absurd (hforth.symm.trans (h.trans hback)) (by decide)
    · exact absurd (hback.symm.trans (h.trans hforth)) (by decide)
    · rfl
  manifests := by
    obtain ⟨h₁, h₂, h₃, h₄⟩ := payload_digests
    intro ds₁ ds₂ rs₁ rs₂ hds₁ hds₂ hrs₁ hrs₂ h
    by_cases heq : ds₁ = ds₂ ∧ rs₁ = rs₂
    · rw [heq.1, heq.2]
    · exfalso
      rcases orders_dispositions hds₁ with rfl | rfl <;> rcases orders_dispositions hds₂ with rfl | rfl <;>
        rcases orders_rows hrs₁ with rfl | rfl <;> rcases orders_rows hrs₂ with rfl | rfl
      -- two of the four digests, or the same orders
      all_goals first
        | (simp only [h₁, h₂, h₃, h₄, String.reduceEq] at h; done)
        | exact heq ⟨rfl, rfl⟩

end Samples

open Samples in
/-- two dispositions and two rows meet what the converse asks for, and one of each has one digest -/
theorem payload_hash_order_two :
    Legible generators bundle dispositions rows ∧ CollisionFree generators bundle dispositions rows ∧
      ¬OrderIndependent generators bundle dispositions rows ∧
      OrderIndependent generators bundle [accepted first] [supportedRow first "AC-2"] := by
  refine ⟨rows_legible, rows_collisionFree, fun h => ?_, ?_⟩
  · exact absurd ((payload_hash_order generators bundle dispositions rows).2 rows_legible rows_collisionFree h).1
      (by decide)
  · exact (payload_hash_order generators bundle [accepted first] [supportedRow first "AC-2"]).1 ⟨le_rfl, le_rfl⟩

open Samples in
/-- **The order of the query decides the digest.** -/
theorem payload_hash_depends_on_order :
    ¬OrderIndependent generators bundle [accepted first, accepted second] rows := by
  intro h
  have hsame := (h dispositions dispositionsBack rows rows (List.Perm.refl _) (List.Perm.swap _ _ []) (List.Perm.refl _)
    (List.Perm.refl _)).1
  obtain ⟨hforth, -, hback, -⟩ := payload_digests
  exact absurd (hforth.symm.trans (hsame.trans hback)) (by decide)

end AtoService.Export
