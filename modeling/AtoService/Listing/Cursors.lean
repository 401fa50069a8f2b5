/-
Cursors of the lists of analysis runs, matrix rows and fact proposals: `analysis_runs.py` and `fact_proposals.py`.

A cursor is a JSON object, written in ASCII with sorted keys and then in URL-safe base64. The encoders keep the pads of
base64 and the pattern that a cursor is checked against has no pad, so a cursor that a list gives out is read back only
when its text fills groups of three bytes (`readPayload_encode`, `readProposalPayload_encode`).

- `decodeRunCursor_encode`: no cursor of a run is read back, whatever its time.
- `matrixCursor_spec`, `proposalCursor_spec`: which cursors of matrix rows and of proposals are.
-/
import AtoService.Audit.Encoding
import AtoService.Lib.Base64
import AtoService.Lib.JsonAscii
import AtoService.Workspace.Document

namespace AtoService.Listing

open AtoService.Audit AtoService.JsonText
open AtoService.Json (member)
open AtoService.Results (ensure orRaise)
open AtoService.Workspace (Uuid)

inductive ListError where
  -- InvalidPaginationCursorError
  | invalidPaginationCursor
  -- InvalidPageLimitError
  | invalidPageLimit
  -- the revision or the run does not exist, or the caller may not view it
  | denied
  -- IllegalStateTransitionError
  | illegalStateTransition
  -- an exception that nothing catches
  | crashed
deriving DecidableEq, Repr

/-! ## Writing and reading cursors -/

def maxCursorLength : Nat := 2048

/-- `base64.urlsafe_b64encode(json.dumps(payload, ...).encode("utf-8"))`, unless it is too long -/
def encodeCursor (payload : Json) : Except ListError (List Char) := do
  let encoded := Base64.encode (Sha.utf8 (dumpsAscii .compact payload))
  ensure (encoded.length ≤ maxCursorLength) .invalidPaginationCursor
  return encoded

/-- what is checked before a cursor is decoded: `^[A-Za-z0-9_-]+$` and its length -/
def checkCursor (cursor : List Char) : Except ListError Unit :=
  ensure (cursor ≠ [] ∧ cursor.length ≤ maxCursorLength ∧ ∀ c ∈ cursor, Base64.isUrlSafe c = true)
    .invalidPaginationCursor

/-- the payload of a cursor of runs or of matrix rows -/
def readPayload (cursor : List Char) : Except ListError Json := do
  checkCursor cursor
  orRaise (Base64.decode cursor >>= utf8Decode >>= loads) .invalidPaginationCursor

/-- the payload of a cursor of proposals, which is padded before it is decoded -/
def readProposalPayload (readWide : List Nat → Option (List Char)) (cursor : List Char) : Except ListError Json := do
  checkCursor cursor
  orRaise (Base64.decode (cursor ++ ['=', '=', '=']) >>= loadsBytes readWide) .invalidPaginationCursor

/-- `value == 1` -/
def isOne : Json → Bool
  | .bool b => b
  | .int n => n == 1
  | .float (.finite d) => !d.neg && d.coeff == 1 && d.exp == 0
  | _ => false

/-- the members of a payload of version 1; `notAnObject` is raised for one that has no members -/
def payloadFields (notAnObject : ListError) : Json → Except ListError (List (String × Json))
  | .obj fields => do
    ensure ((member "v" fields).any isOne) .invalidPaginationCursor
    return fields
  | _ => throw notAnObject

/-! ## Runs -/

/-- `strftime("%Y-%m-%dT%H:%M:%S.%fZ")`, where `%Y` does not pad -/
def formatRequestedAt (t : Instant) : List Char :=
  digits t.year ++ '-' :: twoDigits t.month ++ '-' :: twoDigits t.day ++ 'T' :: twoDigits t.hour ++
    ':' :: twoDigits t.minute ++ ':' :: twoDigits t.second ++ '.' :: sixDigits t.microsecond ++ ['Z']

/-- `datetime.fromisoformat(text)`, of an aware time. Every format that it reads starts with a year of four digits; the
formats themselves are `readIso`. -/
def fromisoformat (readIso : List Char → Option Instant) (text : List Char) : Option Instant :=
  if 4 ≤ text.length ∧ (text.take 4).all isDigit then readIso text else none

/-- `text.replace("Z", "+00:00")` -/
def withOffset (text : List Char) : List Char := text.flatMap fun c => if c = 'Z' then "+00:00".toList else [c]

def encodeRunCursor (requestedAt : Instant) (runId : Uuid) : Except ListError (List Char) :=
  encodeCursor <| .obj
    [("v", .int 1), ("ra", .str (String.ofList (formatRequestedAt requestedAt))), ("id", .str runId.str)]

def decodeRunCursor (readIso : List Char → Option Instant) (cursor : List Char) :
    Except ListError (Instant ×ₗ Uuid) := do
  let fields ← readPayload cursor >>= payloadFields .crashed
  match member "ra" fields, member "id" fields with
  | some (.str requestedAt), some (.str runId) => do
    let requestedAt ← orRaise (fromisoformat readIso (withOffset (Py.chars requestedAt))) .crashed
    let runId ← orRaise (Uuid.parse runId) .crashed
    return toLex (requestedAt, runId)
  | _, _ => throw .invalidPaginationCursor

/-! ## Matrix rows -/

def encodeMatrixCursor (assessmentItemId : String) : Except ListError (List Char) :=
  encodeCursor (.obj [("v", .int 1), ("ai", .str assessmentItemId)])

def decodeMatrixCursor (cursor : List Char) : Except ListError String := do
  let fields ← readPayload cursor >>= payloadFields .crashed
  match member "ai" fields with
  | some (.str assessmentItemId) => return assessmentItemId
  | _ => throw .invalidPaginationCursor

/-! ## Proposals -/

/-- `uuid.UUID(str(value))`: no text of another value has thirty-two digits -/
def proposalId? : Option Json → Option Uuid
  | some (.str s) => Uuid.parse s
  | some (.int n) => Uuid.parse (String.ofList (intText n))
  | _ => none

def encodeProposalCursor (jsonPointer : String) (factProposalId : Uuid) : Except ListError (List Char) :=
  encodeCursor (.obj [("v", .int 1), ("jp", .str jsonPointer), ("id", .str factProposalId.str)])

def decodeProposalCursor (readWide : List Nat → Option (List Char)) (cursor : List Char) :
    Except ListError (String × Uuid) := do
  let fields ← readProposalPayload readWide cursor >>= payloadFields .invalidPaginationCursor
  match member "jp" fields with
  | some (.str jsonPointer) => do
    ensure (jsonPointer ≠ "") .invalidPaginationCursor
    let proposalId ← orRaise (proposalId? (member "id" fields)) .invalidPaginationCursor
    return (jsonPointer, proposalId)
  | _ => throw .invalidPaginationCursor

/-! ## Which payloads are read back -/

/-- the text of a cursor -/
def cursorText (fields : List (String × String)) : List Char := '{' :: (flatText fields ++ ['}'])

theorem cursorText_ascii {fields : List (String × String)} {c : Char} (h : c ∈ cursorText fields) : c.toNat < 127 := by
  have hbraces : ('{' : Char).toNat < 127 ∧ ('}' : Char).toNat < 127 := by decide
  simp only [cursorText, List.mem_cons, List.mem_append, List.not_mem_nil, or_false] at h
  rcases h with rfl | h | rfl
  · exact hbraces.1
  · exact ascii_of_mem_asciiText h
  · exact hbraces.2

/-- its bytes, which are characters of ASCII -/
def cursorBytes (fields : List (String × String)) : List Nat := (cursorText fields).map Char.toNat

@[simp] theorem length_cursorBytes (fields : List (String × String)) :
    (cursorBytes fields).length = (cursorText fields).length := List.length_map _

theorem cursorBytes_lt (fields : List (String × String)) : ∀ b ∈ cursorBytes fields, b < 256 := by
  intro b hb
  obtain ⟨c, hc, rfl⟩ := List.mem_map.1 hb
  have hascii := cursorText_ascii hc
  omega

section

variable {fs : List (String × Json)} {fields : List (String × String)}

theorem encodeCursor_eq_ok (hsorted : KeyedList.sorted Prod.fst fs = flatMembers fields) {cursor : List Char} :
    encodeCursor (.obj fs) = .ok cursor ↔
      (Base64.encode (cursorBytes fields)).length ≤ maxCursorLength ∧ Base64.encode (cursorBytes fields) = cursor := by
  have hbytes : Sha.utf8 (dumpsAscii .compact (.obj fs)) = cursorBytes fields := by
    rw [dumpsAscii_flat hsorted]
    exact utf8_ascii fun c hc => cursorText_ascii hc
  rw [encodeCursor, hbytes, Results.bind_eq_ok]
  simp only [Results.ensure_eq_ok, Results.pure_eq_ok, exists_const]

/-- a cursor of at most 1536 bytes is short enough -/
theorem encodeCursor_isOk (hsorted : KeyedList.sorted Prod.fst fs = flatMembers fields) :
    (∃ cursor, encodeCursor (.obj fs) = .ok cursor) ↔ (cursorText fields).length ≤ 1536 := by
  have hlength := Base64.length_encode (cursorBytes fields)
  rw [length_cursorBytes] at hlength
  simp only [encodeCursor_eq_ok hsorted, exists_and_left, exists_eq', and_true, hlength, maxCursorLength]
  omega

/-- a cursor that was given out passes the check when it has no pads -/
theorem checkCursor_encode (hlength : (Base64.encode (cursorBytes fields)).length ≤ maxCursorLength) :
    checkCursor (Base64.encode (cursorBytes fields)) =
      if (cursorText fields).length % 3 = 0 then .ok () else .error .invalidPaginationCursor := by
  have hpad := Base64.mem_encode_pad (cursorBytes_lt fields)
  rw [length_cursorBytes] at hpad
  by_cases hgroups : (cursorText fields).length % 3 = 0
  · have hne : Base64.encode (cursorBytes fields) ≠ [] := by
      intro hnil
      have hlen := Base64.length_encode (cursorBytes fields)
      rw [hnil, length_cursorBytes, cursorText, List.length_cons, List.length_nil] at hlen
      omega
    rw [if_pos hgroups, checkCursor, Results.ensure_eq_ok]
    refine ⟨hne, hlength, fun c hc => ?_⟩
    rcases Base64.isUrlSafe_of_mem_encode (cursorBytes_lt fields) hc with hsafe | rfl
    · exact hsafe
    · exact absurd hgroups (hpad.1 hc)
  · rw [if_neg hgroups, checkCursor, Results.ensure_eq_error]
    refine ⟨fun hvalid => ?_, rfl⟩
    have hunsafe := hvalid.2.2 '=' (hpad.2 hgroups)
    revert hunsafe
    decide

/-- **A cursor of runs or of matrix rows is read back if and only if its text fills groups of three bytes.** -/
theorem readPayload_encode (hdistinct : KeyedList.Distinct Prod.fst (flatMembers fields))
    (hlength : (Base64.encode (cursorBytes fields)).length ≤ maxCursorLength) :
    readPayload (Base64.encode (cursorBytes fields)) =
      if (cursorText fields).length % 3 = 0 then .ok (.obj (flatMembers fields)) else .error .invalidPaginationCursor := by
  rw [readPayload, checkCursor_encode hlength]
  by_cases hgroups : (cursorText fields).length % 3 = 0
  · have hdecode := Base64.decode_encode (cursorBytes_lt fields) (by rwa [length_cursorBytes])
    have htext : utf8Decode (cursorBytes fields) = some (cursorText fields) :=
      utf8Decode_ascii fun c hc => cursorText_ascii hc
    have hloads : loads (cursorText fields) = _ := loads_flat hdistinct
    rw [if_pos hgroups, if_pos hgroups, hdecode]
    simp only [Option.bind_eq_bind, Option.bind_some, htext, hloads]
    rfl
  · rw [if_neg hgroups, if_neg hgroups]
    rfl

/-- So it is with a cursor of proposals: the pads that the decoder adds change nothing. -/
theorem readProposalPayload_encode (readWide : List Nat → Option (List Char))
    (hdistinct : KeyedList.Distinct Prod.fst (flatMembers fields))
    (hlength : (Base64.encode (cursorBytes fields)).length ≤ maxCursorLength) :
    readProposalPayload readWide (Base64.encode (cursorBytes fields)) =
      if (cursorText fields).length % 3 = 0 then .ok (.obj (flatMembers fields)) else .error .invalidPaginationCursor := by
  rw [readProposalPayload, checkCursor_encode hlength]
  by_cases hgroups : (cursorText fields).length % 3 = 0
  · have hpads : Base64.decode ['=', '=', '='] = some [] := by decide
    have hdecode := Base64.decode_encode_append (cursorBytes_lt fields) (by rwa [length_cursorBytes])
      ['=', '=', '=']
    rw [hpads] at hdecode
    obtain ⟨cs, hcs⟩ := flatText_head fields
    have hloads : loadsBytes readWide (cursorBytes fields) = loads (cursorText fields) := by
      have hascii : ∀ c ∈ '{' :: '"' :: (cs ++ ['}']), c.toNat < 127 := by
        intro c hc
        have htext : c ∈ cursorText fields := by
          rw [cursorText, hcs]
          exact hc
        exact cursorText_ascii htext
      have hread := loadsBytes_ascii readWide hascii
      rw [cursorBytes, cursorText, hcs]
      exact hread
    rw [if_pos hgroups, if_pos hgroups, hdecode]
    show (do Results.orRaise (loadsBytes readWide (cursorBytes fields ++ [])) _) = _
    rw [List.append_nil, hloads, cursorText, loads_flat hdistinct]
    rfl
  · rw [if_neg hgroups, if_neg hgroups]
    rfl

end

/-! ## How long their texts are -/

/-- a character that JSON does not escape -/
def PlainChar (c : Char) : Prop := 32 ≤ c.toNat ∧ c.toNat < 127 ∧ c ≠ '"' ∧ c ≠ '\\'

instance (c : Char) : Decidable (PlainChar c) := inferInstanceAs (Decidable (_ ∧ _ ∧ _ ∧ _))

def Plain (cs : List Char) : Prop := ∀ c ∈ cs, PlainChar c

instance (cs : List Char) : Decidable (Plain cs) := List.decidableBAll PlainChar cs

@[simp] theorem plain_append {cs ds : List Char} : Plain (cs ++ ds) ↔ Plain cs ∧ Plain ds := List.forall_mem_append

@[simp] theorem plain_cons {c : Char} {cs : List Char} : Plain (c :: cs) ↔ PlainChar c ∧ Plain cs := List.forall_mem_cons

/-- the length of a string in a cursor -/
def escapedLength (s : String) : Nat := (asciiText ((Py.chars s).flatMap escapeChar)).length

theorem escapedLength_of_plain {cs : List Char} (h : Plain cs) : escapedLength (String.ofList cs) = cs.length := by
  have hescape : cs.flatMap escapeChar = cs := by
    induction cs with
    | nil => rfl
    | cons c cs ih =>
      obtain ⟨hlow, -, hquote, hslash⟩ := h c List.mem_cons_self
      rw [List.flatMap_cons, escapeChar_plain hquote hslash hlow, ih fun d hd => h d (List.mem_cons_of_mem _ hd)]
      rfl
  rw [escapedLength, Py.chars_eq, String.toList_ofList, hescape, asciiText_of_ascii fun c hc => (h c hc).2.1]

theorem length_cursorText_nil : (cursorText []).length = 7 := by decide

theorem length_cursorText_cons (key s : String) (fields : List (String × String)) :
    (cursorText ((key, s) :: fields)).length = escapedLength key + escapedLength s + 6 + (cursorText fields).length := by
  simp only [cursorText, List.length_cons, List.length_append, length_flatText_cons, escapedLength]
  omega

theorem plain_hexText (ds : List (Fin 16)) : Plain (Uuid.hexText ds) := by
  have hdigit : ∀ d : Fin 16, PlainChar (hexChar d.val) := by decide
  intro c hc
  obtain ⟨d, -, rfl⟩ := List.mem_map.1 hc
  exact hdigit d

/-- letters and digits -/
theorem plainChar_of_word {c : Char}
    (h : 48 ≤ c.toNat ∧ c.toNat ≤ 57 ∨ 65 ≤ c.toNat ∧ c.toNat ≤ 90 ∨ 97 ≤ c.toNat ∧ c.toNat ≤ 122) : PlainChar c := by
  have hword : ∀ n < 123, (48 ≤ n ∧ n ≤ 57 ∨ 65 ≤ n ∧ n ≤ 90 ∨ 97 ≤ n ∧ n ≤ 122) → PlainChar (Char.ofNat n) := by decide
  have hplain := hword c.toNat (by omega) h
  rwa [Char.ofNat_toNat] at hplain

theorem plain_digits (n : Nat) : Plain (digits n) := by
  intro c hc
  have hdigit := isDigit_of_mem_digits hc
  simp only [isDigit, Bool.and_eq_true, decide_eq_true_eq] at hdigit
  exact plainChar_of_word (Or.inl hdigit)

theorem escapedLength_uuid (u : Uuid) : escapedLength u.str = 36 := by
  have hplain : Plain u.chars := by
    simp only [Uuid.chars, plain_append, plain_cons, plain_hexText, and_true, true_and]
    decide
  rw [Uuid.str, escapedLength_of_plain hplain]
  have hlength := u.length_eq
  simp only [Uuid.chars, Uuid.hexText, List.length_append, List.length_cons, List.length_map, List.length_take,
    List.length_drop, hlength]
  rfl

theorem plain_twoDigits {n : Nat} (h : n < 100) : Plain (twoDigits n) := by
  have hsmall : ∀ n < 100, Plain (twoDigits n) := by decide
  exact hsmall n h

theorem escapedLength_requestedAt (t : Instant) :
    escapedLength (String.ofList (formatRequestedAt t)) = (digits t.year).length + 23 := by
  obtain ⟨hmonth, hday, hhour, hminute, hsecond⟩ := t.small
  have hmicro := t.time_ok.2.2.2
  have hsix : Plain (sixDigits t.microsecond) := by
    rw [sixDigits, plain_append]
    refine ⟨fun c hc => ?_, plain_digits _⟩
    rw [List.eq_of_mem_replicate hc]
    decide
  have hplain : Plain (formatRequestedAt t) := by
    simp only [formatRequestedAt, plain_append, plain_cons, plain_digits, plain_twoDigits hmonth, plain_twoDigits hday,
      plain_twoDigits hhour, plain_twoDigits hminute, plain_twoDigits hsecond, hsix, and_true, true_and]
    decide
  rw [escapedLength_of_plain hplain]
  simp only [formatRequestedAt, List.length_append, List.length_cons, List.length_nil, twoDigits, sixDigits_length hmicro]

/-! ## Which cursors are read back -/

theorem payloadFields_flat (notAnObject : ListError) {fields : List (String × String)}
    (hdistinct : KeyedList.Distinct Prod.fst (flatMembers fields)) :
    payloadFields notAnObject (.obj (flatMembers fields)) = .ok (flatMembers fields) := by
  have hversion : member "v" (flatMembers fields) = some (.int 1) := by
    have hget := (KeyedList.get?_eq_some hdistinct (k := "v") (x := ("v", .int 1))).2 ⟨by simp [flatMembers], rfl⟩
    rw [member, hget]
    rfl
  rw [payloadFields, hversion]
  rfl

/-- a year of two digits is no ISO format -/
theorem fromisoformat_of_short_year (readIso : List Char → Option Instant) {t : Instant}
    (h : (digits t.year).length = 2) : fromisoformat readIso (withOffset (formatRequestedAt t)) = none := by
  obtain ⟨a, b, hyear⟩ := List.length_eq_two.1 h
  have hdigit : ∀ c ∈ digits t.year, c ≠ 'Z' := by
    rintro c hc rfl
    exact absurd (isDigit_of_mem_digits hc) (by decide)
  rw [hyear] at hdigit
  have ha := hdigit a (by simp)
  have hb := hdigit b (by simp)
  obtain ⟨rest, htext⟩ : ∃ rest, withOffset (formatRequestedAt t) = a :: b :: '-' :: rest := by
    rw [formatRequestedAt, hyear]
    simp only [List.cons_append, List.nil_append, List.append_assoc, withOffset, List.flatMap_cons, if_neg ha, if_neg hb]
    exact ⟨_, rfl⟩
  rw [htext, fromisoformat, if_neg]
  rintro ⟨-, hdigits⟩
  have hhyphen := List.all_eq_true.1 hdigits '-' (by simp)
  revert hhyphen
  decide

/-- The text of a run's cursor is 59 characters longer than its time without the digits of the year: it fills its groups
only for the years from 10 to 99, and `fromisoformat` does not read those. -/
theorem decodeRunCursor_encode (readIso : List Char → Option Instant) {t : Instant} {u : Uuid} {cursor : List Char}
    (h : encodeRunCursor t u = .ok cursor) : ∃ e, decodeRunCursor readIso cursor = .error e := by
  have hsorted : KeyedList.sorted Prod.fst
      [("v", Json.int 1), ("ra", .str (String.ofList (formatRequestedAt t))), ("id", .str u.str)] =
      flatMembers [("id", u.str), ("ra", String.ofList (formatRequestedAt t))] := rfl
  have hdistinct : KeyedList.Distinct Prod.fst
      (flatMembers [("id", u.str), ("ra", String.ofList (formatRequestedAt t))]) := by
    show (["id", "ra", "v"] : List String).Nodup
    decide
  obtain ⟨hlength, rfl⟩ := (encodeCursor_eq_ok hsorted).1 h
  have hread := readPayload_encode hdistinct hlength
  have htext : (cursorText [("id", u.str), ("ra", String.ofList (formatRequestedAt t))]).length =
      (digits t.year).length + 82 := by
    have hid : escapedLength "id" = 2 := by decide
    have hra : escapedLength "ra" = 2 := by decide
    rw [length_cursorText_cons, length_cursorText_cons, length_cursorText_nil, hid, hra, escapedLength_uuid,
      escapedLength_requestedAt]
    omega
  rw [htext] at hread
  by_cases hgroups : ((digits t.year).length + 82) % 3 = 0
  · rw [if_pos hgroups] at hread
    have hyear : (digits t.year).length = 2 := by
      have hle : (digits t.year).length ≤ 4 := digits_length_le (by decide) (by have := t.year_ok.2; omega)
      omega
    have hra : member "ra" (flatMembers [("id", u.str), ("ra", String.ofList (formatRequestedAt t))]) =
        some (.str (String.ofList (formatRequestedAt t))) := rfl
    have hid : member "id" (flatMembers [("id", u.str), ("ra", String.ofList (formatRequestedAt t))]) =
        some (.str u.str) := rfl
    refine ⟨.crashed, ?_⟩
    rw [decodeRunCursor, hread, Results.bind_eq_error]
    refine Or.inr ⟨_, payloadFields_flat .crashed hdistinct, ?_⟩
    rw [hra, hid]
    dsimp only
    rw [Py.chars_eq, String.toList_ofList, fromisoformat_of_short_year readIso hyear]
    rfl
  · rw [if_neg hgroups] at hread
    refine ⟨.invalidPaginationCursor, ?_⟩
    rw [decodeRunCursor, hread]
    rfl

theorem length_matrixText {i : String} (hi : Plain (Py.chars i)) :
    (cursorText [("ai", i)]).length = (Py.chars i).length + 15 := by
  have hai : escapedLength "ai" = 2 := by decide
  have hescaped := escapedLength_of_plain hi
  rw [ofList_chars] at hescaped
  rw [length_cursorText_cons, length_cursorText_nil, hai, hescaped]
  omega

theorem matrixCursor_isOk {i : String} (hi : Plain (Py.chars i)) :
    (∃ cursor, encodeMatrixCursor i = .ok cursor) ↔ (Py.chars i).length + 15 ≤ 1536 := by
  rw [← length_matrixText hi]
  exact encodeCursor_isOk rfl

theorem matrixCursor_spec {i : String} {cursor : List Char} (hi : Plain (Py.chars i))
    (h : encodeMatrixCursor i = .ok cursor) :
    decodeMatrixCursor cursor = if (Py.chars i).length % 3 = 0 then .ok i else .error .invalidPaginationCursor := by
  have hsorted : KeyedList.sorted Prod.fst [("v", Json.int 1), ("ai", .str i)] = flatMembers [("ai", i)] := rfl
  have hdistinct : KeyedList.Distinct Prod.fst (flatMembers [("ai", i)]) := by
    show (["ai", "v"] : List String).Nodup
    decide
  obtain ⟨hlength, rfl⟩ := (encodeCursor_eq_ok hsorted).1 h
  have hread := readPayload_encode hdistinct hlength
  have hgroups : ((Py.chars i).length + 15) % 3 = (Py.chars i).length % 3 := by omega
  rw [length_matrixText hi, hgroups] at hread
  rw [decodeMatrixCursor, hread]
  split_ifs
  · show (do let fields ← payloadFields .crashed (.obj (flatMembers [("ai", i)])); _) = _
    rw [payloadFields_flat .crashed hdistinct]
    rfl
  · rfl

theorem length_proposalText (p : String) (u : Uuid) :
    (cursorText [("id", u.str), ("jp", p)]).length = escapedLength p + 59 := by
  have hid : escapedLength "id" = 2 := by decide
  have hjp : escapedLength "jp" = 2 := by decide
  rw [length_cursorText_cons, length_cursorText_cons, length_cursorText_nil, hid, hjp, escapedLength_uuid]
  omega

theorem proposalCursor_isOk (p : String) (u : Uuid) :
    (∃ cursor, encodeProposalCursor p u = .ok cursor) ↔ escapedLength p + 59 ≤ 1536 := by
  rw [← length_proposalText p u]
  exact encodeCursor_isOk rfl

theorem proposalCursor_spec (readWide : List Nat → Option (List Char)) {p : String} {u : Uuid} {cursor : List Char}
    (h : encodeProposalCursor p u = .ok cursor) :
    decodeProposalCursor readWide cursor =
      if (escapedLength p + 59) % 3 = 0 ∧ p ≠ "" then .ok (p, u) else .error .invalidPaginationCursor := by
  have hsorted : KeyedList.sorted Prod.fst [("v", Json.int 1), ("jp", .str p), ("id", .str u.str)] =
      flatMembers [("id", u.str), ("jp", p)] := rfl
  have hdistinct : KeyedList.Distinct Prod.fst (flatMembers [("id", u.str), ("jp", p)]) := by
    show (["id", "jp", "v"] : List String).Nodup
    decide
  obtain ⟨hlength, rfl⟩ := (encodeCursor_eq_ok hsorted).1 h
  have hread := readProposalPayload_encode readWide hdistinct hlength
  rw [length_proposalText p u] at hread
  rw [decodeProposalCursor, hread]
  by_cases hgroups : (escapedLength p + 59) % 3 = 0
  · rw [if_pos hgroups]
    show (do let fields ← payloadFields .invalidPaginationCursor (.obj (flatMembers [("id", u.str), ("jp", p)])); _) = _
    rw [payloadFields_flat .invalidPaginationCursor hdistinct]
    have hid : proposalId? (some (.str u.str)) = some u := Uuid.parse_str u
    show (do
      ensure (p ≠ "") ListError.invalidPaginationCursor
      let proposalId ← orRaise (proposalId? (some (.str u.str))) .invalidPaginationCursor
      return (p, proposalId)) = _
    rw [hid]
    by_cases hp : p = ""
    · rw [if_neg fun hboth => hboth.2 hp, ensure, if_neg fun hne => hne hp]
      rfl
    · rw [if_pos ⟨hgroups, hp⟩, ensure, if_pos hp]
      rfl
  · rw [if_neg hgroups, if_neg fun hboth => hgroups hboth.1]
    rfl

end AtoService.Listing
