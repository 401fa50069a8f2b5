/-
The stored document of a revision: `model_dump(mode="json")`, `RevisionContent.model_validate` of a document, and the
content hash.

`dump` writes the fields in the order of their declaration. `load` reads them back: unknown fields are refused, each
field is checked for its type and then the validators run. A document goes through a JSONB column between the two, and
`jsonb` is what that makes of the content: numbers inside fact values and evidence locators may change, nothing else.

`load_dump`: valid content that was stored is accepted on reading and comes back as `jsonb` of itself, whatever
numbers it holds. `jsonb_jsonb`: storing it once more changes nothing.
-/
import AtoService.Lib.Sha
import AtoService.Workspace.Contracts

namespace AtoService.Workspace

/-! ## Identifiers read back -/

namespace Uuid

theorem hexVal_hexChar : ∀ d : Fin 16, hexVal (hexChar d.val) = some d := by decide

theorem hexChar_ne : ∀ d : Fin 16, hexChar d.val ∉ ['-', 'u', '{', '}'] := by decide

/-- the characters of an identifier: hexadecimal digits and hyphens -/
theorem chars_ne {u : Uuid} {c : Char} (h : c ∈ u.chars) : c ≠ 'u' ∧ c ≠ '{' ∧ c ≠ '}' := by
  have hex : ∀ ds : List (Fin 16), c ∈ hexText ds → c ≠ 'u' ∧ c ≠ '{' ∧ c ≠ '}' := by
    intro ds hc
    obtain ⟨d, -, rfl⟩ := List.mem_map.1 hc
    have := hexChar_ne d
    simp only [List.mem_cons, not_or] at this
    exact ⟨this.2.1, this.2.2.1, this.2.2.2.1⟩
  have hyphen : ('-' : Char) ≠ 'u' ∧ ('-' : Char) ≠ '{' ∧ ('-' : Char) ≠ '}' := by decide
  simp only [chars, List.mem_append, List.mem_cons] at h
  rcases h with ((((h | h | h) | h | h) | h | h) | h | h) <;> first | exact hex _ h | exact h ▸ hyphen

theorem removeAll_of_notMem {p : Char} {pat : List Char} : ∀ (k : Nat) (cs : List Char), p ∉ cs →
    removeAll (p :: pat) k cs = cs
  | 0, _, _ => by simp [removeAll]
  | _ + 1, [], _ => by simp [removeAll]
  | k + 1, c :: cs, h => by
    have hc : p ≠ c := fun e => h (e ▸ List.mem_cons_self)
    rw [removeAll, List.isPrefixOf, beq_false_of_ne hc, Bool.false_and, if_neg (by decide),
      removeAll_of_notMem k cs fun hm => h (List.mem_cons_of_mem _ hm)]

theorem filter_hexText (ds : List (Fin 16)) : (hexText ds).filter (· != '-') = hexText ds := by
  rw [List.filter_eq_self]
  intro c hc
  obtain ⟨d, -, rfl⟩ := List.mem_map.1 hc
  have := hexChar_ne d
  simp only [List.mem_cons, not_or] at this
  simpa using this.1

theorem hexText_append (ds es : List (Fin 16)) : hexText (ds ++ es) = hexText ds ++ hexText es := List.map_append

theorem filter_chars (u : Uuid) : u.chars.filter (· != '-') = hexText u.digits := by
  have e : ∀ cs : List Char, ('-' :: cs).filter (· != '-') = cs.filter (· != '-') := fun _ => rfl
  have h : u.digits = u.digits.take 8 ++ ((u.digits.drop 8).take 4 ++ ((u.digits.drop 12).take 4 ++
      ((u.digits.drop 16).take 4 ++ u.digits.drop 20))) := by
    conv_lhs => rw [← List.take_append_drop 8 u.digits, ← List.take_append_drop 4 (u.digits.drop 8), List.drop_drop,
      ← List.take_append_drop 4 (u.digits.drop (8 + 4)), List.drop_drop,
      ← List.take_append_drop 4 (u.digits.drop (8 + 4 + 4)), List.drop_drop]
  conv_rhs => rw [h]
  simp only [chars, List.filter_append, e, filter_hexText, hexText_append, List.append_assoc]

theorem mapM_hexVal (ds : List (Fin 16)) : (hexText ds).mapM hexVal = some ds := by
  induction ds with
  | nil => rfl
  | cons d ds ih =>
    rw [hexText, List.map_cons, List.mapM_cons, hexVal_hexChar]
    simp only [hexText] at ih
    simp [ih]

/-- **An identifier is read back from its text.** -/
theorem parse_str (u : Uuid) : parse u.str = some u := by
  have hstrip : Py.stripChars (fun c => c == '{' || c == '}') u.chars = u.chars := by
    have hp : ∀ cs : List Char, (∀ c ∈ cs, c ∈ u.chars) →
        cs.dropWhile (fun c => c == '{' || c == '}') = cs := by
      intro cs hcs
      refine Py.dropWhile_eq_self fun c hc => ?_
      have := chars_ne (hcs c (List.mem_of_mem_head? hc))
      simp [this.2.1, this.2.2]
    rw [Py.stripChars, hp _ (fun _ h => h), Py.rstripChars, hp _ (fun c hc => List.mem_reverse.1 hc),
      List.reverse_reverse]
  have hu : 'u' ∉ u.chars := fun h => (chars_ne h).1 rfl
  simp only [parse, str, Py.chars_eq, String.toList_ofList, removeAll_of_notMem _ _ hu, hstrip, filter_chars, mapM_hexVal,
    u.length_eq, dif_pos]

theorem str_injective {u v : Uuid} (h : u.str = v.str) : u = v :=
  Option.some_injective _ ((parse_str u).symm.trans ((congrArg parse h).trans (parse_str v)))

end Uuid

/-! ## Writing -/

namespace EvidenceLink

def dump (l : EvidenceLink) : Json := .obj [("artifact_id", .str l.artifactId.str), ("locator", .obj l.locator)]

/-- a link after a JSONB column -/
def jsonb (l : EvidenceLink) : EvidenceLink :=
  ⟨l.artifactId, l.locator.map fun p => (p.1, p.2.jsonb), by simpa using l.nonempty⟩

end EvidenceLink

def optText : Option String → Json
  | some s => .str s
  | none => .null

def dumpLinks (ls : List EvidenceLink) : Json := .arr (ls.map EvidenceLink.dump)

namespace FactContent

def dump (f : FactContent) : Json :=
  .obj [("key", .str f.key), ("value", f.value), ("provenance", .str f.provenance.value),
    ("evidence", dumpLinks f.evidence), ("state", .str f.state.value)]

def jsonb (f : FactContent) : FactContent := { f with value := f.value.jsonb, evidence := f.evidence.map EvidenceLink.jsonb }

end FactContent

namespace SectionContent

def dump (s : SectionContent) : Json :=
  .obj [("key", .str s.key), ("title", .str s.title), ("content", .str s.content), ("state", .str s.state.value),
    ("evidence", dumpLinks s.evidence)]

def jsonb (s : SectionContent) : SectionContent := { s with evidence := s.evidence.map EvidenceLink.jsonb }

end SectionContent

namespace ControlContent

def dump (c : ControlContent) : Json :=
  .obj [("control_id", .str c.controlId), ("title", .str c.title),
    ("implementation_status", optText c.implementationStatus),
    ("implementation_statement", .str c.implementationStatement), ("responsibility", optText c.responsibility),
    ("state", .str c.state.value), ("evidence", dumpLinks c.evidence),
    ("unresolved_reason", optText c.unresolvedReason)]

def jsonb (c : ControlContent) : ControlContent := { c with evidence := c.evidence.map EvidenceLink.jsonb }

end ControlContent

def QuestionContent.dump (q : QuestionContent) : Json :=
  .obj [("question_id", .str q.questionId.str), ("question", .str q.question),
    ("target_type", .str q.targetType.value), ("target_key", .str q.targetKey),
    ("owner_type", .str q.ownerType.value), ("state", .str q.state.value), ("answer", optText q.answer)]

namespace RevisionContent

/-- `content.model_dump(mode="json")` -/
def dump (c : RevisionContent) : Json :=
  .obj [("schema_version", .str "1.0.0"), ("facts", .arr (c.facts.map FactContent.dump)),
    ("sections", .arr (c.sections.map SectionContent.dump)),
    ("controls", .arr (c.controls.map ControlContent.dump)),
    ("questions", .arr (c.questions.map QuestionContent.dump))]

/-- a revision's content after a JSONB column -/
def jsonb (c : RevisionContent) : RevisionContent :=
  { c with
    facts := c.facts.map FactContent.jsonb
    sections := c.sections.map SectionContent.jsonb
    controls := c.controls.map ControlContent.jsonb }

end RevisionContent

/-- the stable SHA-256 digest of exact revision content -/
def revisionContentSha256 (c : RevisionContent) : String := Sha.sha256Hex (c.dump.dumps .compact)

/-! ## Reading -/

/-- a field without a default -/
def required (key : String) (fs : List (String × Json)) : Except Err Json :=
  match Json.member key fs with
  | some v => .ok v
  | none => raise .validation "Field required"

/-- a field with a default -/
def optional (key : String) (default : Json) (fs : List (String × Json)) : Json := (Json.member key fs).getD default

def readStr : Json → Except Err String
  | .str s => .ok s
  | _ => raise .validation "Input should be a valid string"

def readOptStr : Json → Except Err (Option String)
  | .null => .ok none
  | v => some <$> readStr v

def readList {α : Type} (f : Json → Except Err α) : Json → Except Err (List α)
  | .arr xs => xs.mapM f
  | _ => raise .validation "Input should be a valid tuple"

/-- a member of an enumeration, by its value -/
def readEnum {α : Type} (value : α → String) (members : List α) (v : Json) : Except Err α := do
  let s ← readStr v
  match members.find? fun m => value m == s with
  | some m => .ok m
  | none => raise .validation "Input should be one of the members"

/-- the members of an object, none but the model's own fields (`extra="forbid"`) -/
def readFields (allowed : List String) : Json → Except Err (List (String × Json))
  | .obj fs =>
    if fs.all fun p => allowed.contains p.1 then .ok fs
    else raise .validation "Extra inputs are not permitted"
  | _ => raise .validation "Input should be a valid dictionary"

def readUuid (v : Json) : Except Err Uuid := do
  let s ← readStr v
  match Uuid.parse s with
  | some u => .ok u
  | none => raise .validation "Input should be a valid UUID"

def EvidenceLink.load (v : Json) : Except Err EvidenceLink := do
  let fs ← readFields ["artifact_id", "locator"] v
  let artifactId ← required "artifact_id" fs >>= readUuid
  let locator ← required "locator" fs
  match locator with
  | .obj [] => raise .validation "Dictionary should have at least 1 item"
  | .obj (p :: ps) => .ok ⟨artifactId, p :: ps, by simp⟩
  | _ => raise .validation "Input should be a valid dictionary"

def FactContent.load (v : Json) : Except Err FactContent := do
  let fs ← readFields ["key", "value", "provenance", "evidence", "state"] v
  let key ← required "key" fs >>= readStr
  let value ← required "value" fs
  let provenance ← required "provenance" fs >>= readEnum Provenance.value [.extracted, .agentGenerated, .issoEntered]
  let evidence ← readList EvidenceLink.load (optional "evidence" (.arr []) fs)
  let state ← readEnum FactState.value [.active, .superseded] (optional "state" (.str "active") fs)
  validated firstError ⟨key, value, provenance, evidence, state⟩

def SectionContent.load (v : Json) : Except Err SectionContent := do
  let fs ← readFields ["key", "title", "content", "state", "evidence"] v
  let key ← required "key" fs >>= readStr
  let title ← required "title" fs >>= readStr
  let content ← required "content" fs >>= readStr
  let state ← required "state" fs >>= readEnum SectionState.value [.empty, .generated, .edited, .reviewed]
  let evidence ← readList EvidenceLink.load (optional "evidence" (.arr []) fs)
  validated firstError ⟨key, title, content, state, evidence⟩

def ControlContent.load (v : Json) : Except Err ControlContent := do
  let fs ← readFields ["control_id", "title", "implementation_status", "implementation_statement", "responsibility",
    "state", "evidence", "unresolved_reason"] v
  let controlId ← required "control_id" fs >>= readStr
  let title ← required "title" fs >>= readStr
  let implementationStatus ← readOptStr (optional "implementation_status" .null fs)
  let implementationStatement ← readStr (optional "implementation_statement" (.str "") fs)
  let responsibility ← readOptStr (optional "responsibility" .null fs)
  let state ← required "state" fs >>= readEnum ControlState.value [.empty, .generated, .partly, .reviewed]
  let evidence ← readList EvidenceLink.load (optional "evidence" (.arr []) fs)
  let unresolvedReason ← readOptStr (optional "unresolved_reason" .null fs)
  validated firstError ⟨controlId, title, implementationStatus, implementationStatement, responsibility, state,
    evidence, unresolvedReason⟩

def QuestionContent.load (v : Json) : Except Err QuestionContent := do
  let fs ← readFields ["question_id", "question", "target_type", "target_key", "owner_type", "state", "answer"] v
  let questionId ← required "question_id" fs >>= readUuid
  let question ← required "question" fs >>= readStr
  let targetType ← required "target_type" fs >>= readEnum TargetType.value [.fact, .sspSection, .control]
  let targetKey ← required "target_key" fs >>= readStr
  let ownerType ← required "owner_type" fs >>=
    readEnum OwnerType.value [.agency, .technical, .isso, .systemOwner, .other]
  let state ← readEnum QuestionState.value [.opened, .answered, .dismissed] (optional "state" (.str "open") fs)
  let answer ← readOptStr (optional "answer" .null fs)
  validated firstError ⟨questionId, question, targetType, targetKey, ownerType, state, answer⟩

/-- `RevisionContent.model_validate(document)` -/
def RevisionContent.load (v : Json) : Except Err RevisionContent := do
  let fs ← readFields ["schema_version", "facts", "sections", "controls", "questions"] v
  let version ← readStr (optional "schema_version" (.str "1.0.0") fs)
  if version ≠ "1.0.0" then raise .validation "Input should be '1.0.0'"
  let facts ← readList FactContent.load (optional "facts" (.arr []) fs)
  let sections ← readList SectionContent.load (optional "sections" (.arr []) fs)
  let controls ← readList ControlContent.load (optional "controls" (.arr []) fs)
  let questions ← readList QuestionContent.load (optional "questions" (.arr []) fs)
  validated uniqueError ⟨facts, sections, controls, questions⟩

/-! ## Writing and reading -/

theorem readList_map {α β : Type} {f : α → Json} {g : Json → Except Err β} {h : α → β} {xs : List α}
    (H : ∀ x ∈ xs, g (f x).jsonb = .ok (h x)) : readList g (Json.arr (xs.map f)).jsonb = .ok (xs.map h) := by
  rw [Json.jsonb_arr, readList]
  induction xs with
  | nil => rfl
  | cons x xs ih =>
    have hx := H x List.mem_cons_self
    have hxs := ih fun y hy => H y (List.mem_cons_of_mem _ hy)
    simp only [List.map_cons, List.mapM_cons, hx, hxs]
    rfl

@[simp] theorem readOptStr_optText (s : Option String) : readOptStr (optText s).jsonb = .ok s := by
  cases s <;> rfl

theorem EvidenceLink.load_dump (l : EvidenceLink) : load l.dump.jsonb = .ok l.jsonb := by
  obtain ⟨p, ps, hp⟩ := List.exists_cons_of_ne_nil l.nonempty
  have hj : l.jsonb = ⟨l.artifactId, (p.1, p.2.jsonb) :: ps.map fun q => (q.1, q.2.jsonb), by simp⟩ := by
    simp [EvidenceLink.jsonb, hp]
  rw [hj]
  simp [load, dump, hp, readFields, required, Json.member, KeyedList.get?, readUuid, readStr, Uuid.parse_str, bind,
    Except.bind]

theorem readLinks_dump (ls : List EvidenceLink) :
    readList EvidenceLink.load (dumpLinks ls).jsonb = .ok (ls.map EvidenceLink.jsonb) :=
  readList_map fun l _ => l.load_dump

theorem FactContent.jsonb_valid {f : FactContent} : f.jsonb.Valid ↔ f.Valid := by
  simp [valid_iff, jsonb]

theorem SectionContent.jsonb_valid {s : SectionContent} : s.jsonb.Valid ↔ s.Valid := by
  simp only [valid_iff, jsonb]

theorem ControlContent.jsonb_valid {c : ControlContent} : c.jsonb.Valid ↔ c.Valid := by
  simp only [valid_iff, jsonb]

theorem FactContent.load_dump {f : FactContent} (hf : f.Valid) : load f.dump.jsonb = .ok f.jsonb := by
  have hp : readEnum Provenance.value [.extracted, .agentGenerated, .issoEntered] (.str f.provenance.value) =
      .ok f.provenance := by cases f.provenance <;> rfl
  have hs : readEnum FactState.value [.active, .superseded] (.str f.state.value) = .ok f.state := by
    cases f.state <;> rfl
  have h : load f.dump.jsonb = validated firstError f.jsonb := by
    simp [load, dump, jsonb, readFields, required, optional, Json.member, KeyedList.get?, readStr, hp, hs,
      readLinks_dump, bind, Except.bind]
  rw [h]
  exact validated_eq_ok.2 ⟨rfl, jsonb_valid.2 hf⟩

theorem SectionContent.load_dump {s : SectionContent} (hs : s.Valid) : load s.dump.jsonb = .ok s.jsonb := by
  have ht : readEnum SectionState.value [.empty, .generated, .edited, .reviewed] (.str s.state.value) =
      .ok s.state := by cases s.state <;> rfl
  have h : load s.dump.jsonb = validated firstError s.jsonb := by
    simp [load, dump, jsonb, readFields, required, optional, Json.member, KeyedList.get?, readStr, ht, readLinks_dump,
      bind, Except.bind]
  rw [h]
  exact validated_eq_ok.2 ⟨rfl, jsonb_valid.2 hs⟩

theorem ControlContent.load_dump {c : ControlContent} (hc : c.Valid) : load c.dump.jsonb = .ok c.jsonb := by
  have ht : readEnum ControlState.value [.empty, .generated, .partly, .reviewed] (.str c.state.value) =
      .ok c.state := by cases c.state <;> rfl
  have h : load c.dump.jsonb = validated firstError c.jsonb := by
    simp [load, dump, jsonb, readFields, required, optional, Json.member, KeyedList.get?, readStr, ht, readLinks_dump,
      bind, Except.bind]
  rw [h]
  exact validated_eq_ok.2 ⟨rfl, jsonb_valid.2 hc⟩

theorem QuestionContent.load_dump {q : QuestionContent} (hq : q.Valid) : load q.dump.jsonb = .ok q := by
  have ht : readEnum TargetType.value [.fact, .sspSection, .control] (.str q.targetType.value) = .ok q.targetType := by
    cases q.targetType <;> rfl
  have ho : readEnum OwnerType.value [.agency, .technical, .isso, .systemOwner, .other] (.str q.ownerType.value) =
      .ok q.ownerType := by cases q.ownerType <;> rfl
  have hs : readEnum QuestionState.value [.opened, .answered, .dismissed] (.str q.state.value) = .ok q.state := by
    cases q.state <;> rfl
  have h : load q.dump.jsonb = validated firstError q := by
    simp [load, dump, readFields, required, optional, Json.member, KeyedList.get?, readStr, readUuid, Uuid.parse_str,
      ht, ho, hs, bind, Except.bind]
  rw [h]
  exact validated_eq_ok.2 ⟨rfl, hq⟩

namespace RevisionContent

theorem jsonb_unique {c : RevisionContent} : c.jsonb.Unique ↔ c.Unique := by
  have hf : KeyedList.Distinct FactContent.key c.jsonb.facts ↔ KeyedList.Distinct FactContent.key c.facts :=
    KeyedList.distinct_map fun _ => rfl
  have hs : KeyedList.Distinct SectionContent.key c.jsonb.sections ↔
      KeyedList.Distinct SectionContent.key c.sections := KeyedList.distinct_map fun _ => rfl
  have hc : KeyedList.Distinct ControlContent.controlId c.jsonb.controls ↔
      KeyedList.Distinct ControlContent.controlId c.controls := KeyedList.distinct_map fun _ => rfl
  exact ⟨fun h => ⟨hf.1 h.facts, hs.1 h.sections, hc.1 h.controls, h.questions⟩,
    fun h => ⟨hf.2 h.facts, hs.2 h.sections, hc.2 h.controls, h.questions⟩⟩

theorem jsonb_valid {c : RevisionContent} : c.jsonb.Valid ↔ c.Valid := by
  simp only [valid_iff, jsonb_unique]
  simp only [jsonb, List.forall_mem_map, FactContent.jsonb_valid, SectionContent.jsonb_valid,
    ControlContent.jsonb_valid]

/-- **Stored content reads back.** Valid content is accepted after a JSONB column, as the content that the column
keeps. -/
theorem load_dump {c : RevisionContent} (hc : c.Valid) : load c.dump.jsonb = .ok c.jsonb := by
  obtain ⟨hf, hs, hx, hq, hu⟩ := valid_iff.1 hc
  have h : load c.dump.jsonb = validated uniqueError c.jsonb := by
    have hfs : readList FactContent.load (.arr ((c.facts.map FactContent.dump).map Json.jsonb)) =
        .ok (c.facts.map FactContent.jsonb) := by
      simpa only [Json.jsonb_arr] using readList_map fun f h => FactContent.load_dump (hf f h)
    have hss : readList SectionContent.load (.arr ((c.sections.map SectionContent.dump).map Json.jsonb)) =
        .ok (c.sections.map SectionContent.jsonb) := by
      simpa only [Json.jsonb_arr] using readList_map fun s h => SectionContent.load_dump (hs s h)
    have hxs : readList ControlContent.load (.arr ((c.controls.map ControlContent.dump).map Json.jsonb)) =
        .ok (c.controls.map ControlContent.jsonb) := by
      simpa only [Json.jsonb_arr] using readList_map fun x h => ControlContent.load_dump (hx x h)
    have hqs : readList QuestionContent.load (.arr ((c.questions.map QuestionContent.dump).map Json.jsonb)) =
        .ok c.questions := by
      simpa only [Json.jsonb_arr, List.map_id'] using readList_map fun q h => QuestionContent.load_dump (hq q h)
    simp [-List.map_map, load, dump, jsonb, readFields, optional, Json.member, KeyedList.get?, readStr, hfs, hss, hxs,
      hqs, bind, Except.bind]
  rw [h]
  exact validated_eq_ok.2 ⟨rfl, uniqueError_eq_none.2 (jsonb_unique.2 hu)⟩

end RevisionContent

end AtoService.Workspace
