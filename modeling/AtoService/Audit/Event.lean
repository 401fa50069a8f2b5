/-
Audit events: `audit.py` and the table that it appends to.

`AuditFields` is what an event's digest covers, in one canonical JSON text, and `AuditEvent` adds the digest.
`appendAuditEvent` validates a call, takes the advisory lock, names the digest of the latest event in the table and signs
the new one. The latest event is the last by `occurred_at` and then by `audit_event_id`, not the one appended last.

An aware `datetime` is given by its fields in UTC and a dict by its members in the order of their keys, so that two of them
are equal here when they are equal in Python. A call has a dict of metadata; the column holds any JSON value (`Metadata`),
of which the digest covers what `dict(metadata or {})` makes of it (`metadataMembers`). The table is one for all events; transactions that append to it are
serialized by the lock, so it changes by one transaction at a time (`step`).
-/
import Mathlib.Data.Prod.Lex
import AtoService.Lib.JsonRoundTrip
import AtoService.Lib.JsonSchema
import AtoService.Lib.Sha
import AtoService.Workspace.Contracts

namespace AtoService.Audit

open AtoService.Workspace (Uuid)

/-! ## Values -/

def isLeapYear (year : Nat) : Bool := year % 4 = 0 ∧ (year % 100 ≠ 0 ∨ year % 400 = 0)

def daysInMonth (year month : Nat) : Nat :=
  if month = 2 then (if isLeapYear year then 29 else 28)
  else if month ∈ [4, 6, 9, 11] then 30
  else 31

/-- an instant, as the fields of a `datetime` in UTC -/
structure Instant where
  year : Nat
  month : Nat
  day : Nat
  hour : Nat
  minute : Nat
  second : Nat
  microsecond : Nat
  year_ok : 1 ≤ year ∧ year ≤ 9999
  month_ok : 1 ≤ month ∧ month ≤ 12
  day_ok : 1 ≤ day ∧ day ≤ daysInMonth year month
  time_ok : hour < 24 ∧ minute < 60 ∧ second < 60 ∧ microsecond < 1000000
deriving DecidableEq, Repr

/-- the fields in the order in which instants are compared -/
def Instant.fields (t : Instant) : List Nat := [t.year, t.month, t.day, t.hour, t.minute, t.second, t.microsecond]

theorem Instant.fields_injective : Function.Injective Instant.fields := by
  rintro ⟨⟩ ⟨⟩ h
  simp only [Instant.fields, List.cons.injEq, and_true] at h
  obtain ⟨rfl, rfl, rfl, rfl, rfl, rfl, rfl⟩ := h
  rfl

instance instantLinearOrder : LinearOrder Instant := LinearOrder.lift' Instant.fields Instant.fields_injective

theorem uuidDigits_injective : Function.Injective Uuid.digits := by
  rintro ⟨⟩ ⟨⟩ rfl
  rfl

instance uuidLinearOrder : LinearOrder Uuid := LinearOrder.lift' Uuid.digits uuidDigits_injective

/-- a `datetime` as a caller passes it -/
structure PyDatetime where
  value : Instant
  aware : Bool := true

/-- a `dict` of JSON members, in the order of its keys -/
structure Dict where
  members : List (String × Json)
  wellFormed : (Json.obj members).WellFormed
  canonical : (Json.obj members).canon = .obj members

namespace Dict

def empty : Dict := ⟨[], ⟨List.nodup_nil, trivial⟩, rfl⟩

theorem ext {d d' : Dict} (h : d.members = d'.members) : d = d' := by
  cases d
  cases d'
  cases h
  rfl

/-- the dict that a JSONB column gives back -/
def jsonb (d : Dict) : Dict where
  members := Json.jsonbFields d.members
  wellFormed := Json.wellFormed_jsonb _ d.wellFormed
  canonical := by
    have h := Json.canon_jsonb (.obj d.members)
    rw [d.canonical] at h
    exact h

end Dict

/-- a value of the metadata column, with the members of its objects in the order of their keys -/
structure Metadata where
  value : Json
  wellFormed : value.WellFormed
  canonical : value.canon = value

namespace Metadata

theorem ext {m m' : Metadata} (h : m.value = m'.value) : m = m' := by
  cases m
  cases m'
  cases h
  rfl

/-- the value that a JSONB column gives back -/
def jsonb (m : Metadata) : Metadata where
  value := m.value.jsonb
  wellFormed := Json.wellFormed_jsonb _ m.wellFormed
  canonical := by rw [Json.canon_jsonb, m.canonical]

/-- the metadata is a dict, as `append_audit_event` writes it -/
def isDict (m : Metadata) : Bool := m.value.asObj.isSome

end Metadata

def Dict.toMetadata (d : Dict) : Metadata := ⟨.obj d.members, d.wellFormed, d.canonical⟩

/-! ## Metadata as a dict -/

/-- the number that a key or a value is for `==` and `<` -/
def pyNumber : Json → Option ℚ
  | .bool b => some (if b then 1 else 0)
  | .int n => some n
  | .float (.finite d) => some ((if d.neg then -1 else 1) * JsonSchema.magnitude d)
  | _ => none

/-- `bool(value)` is false -/
def falsy : Json → Bool
  | .null | .arr [] | .obj [] => true
  | .str s => s = ""
  | v => pyNumber v = some 0

def hashable : Json → Bool
  | .arr _ | .obj _ => false
  | _ => true

/-- two keys are one key of a dict -/
def sameKey : Json → Json → Bool
  | .null, .null => true
  | .str s, .str t => s = t
  | k, k' => match pyNumber k, pyNumber k' with
    | some n, some n' => n = n'
    | _, _ => false

/-- a JSONB column gives the shorter of two keys first -/
def jsonbBefore (k k' : String) : Bool :=
  (Sha.utf8 (Py.chars k)).length < (Sha.utf8 (Py.chars k')).length ||
    (Sha.utf8 (Py.chars k)).length = (Sha.utf8 (Py.chars k')).length && decide (k ≤ k')

/-- the key and the value that `dict` takes from an item of a list: a pair, a text of two characters, or the two keys of an
object -/
def pairOf : Json → Option (Json × Json)
  | .arr [k, v] => if hashable k then some (k, v) else none
  | .str s => match Py.chars s with
    | [c, c'] => some (.str (String.ofList [c]), .str (String.ofList [c']))
    | _ => none
  | .obj [(k, _), (k', _)] => some (if jsonbBefore k k' then (.str k, .str k') else (.str k', .str k))
  | _ => none

/-- a later value replaces an earlier one, under the key that was there -/
def setItem (d : List (Json × Json)) (p : Json × Json) : List (Json × Json) :=
  if d.any fun q => sameKey q.1 p.1 then d.map fun q => if sameKey q.1 p.1 then (q.1, p.2) else q else d ++ [p]

/-- `sorted(d.items())`: texts and numbers do not compare, and `None` compares with nothing -/
def sortItems (d : List (Json × Json)) : Option (List (Json × Json)) :=
  if d.length ≤ 1 then some d
  else if d.all fun p => p.1.asStr.isSome then
    some (d.insertionSort fun p q => (p.1.asStr.getD "" : String) ≤ q.1.asStr.getD "")
  else if d.all fun p => (pyNumber p.1).isSome then
    some (d.insertionSort fun p q => (pyNumber p.1).getD 0 ≤ (pyNumber q.1).getD 0)
  else none

/-- a key as `json.dumps` writes it, without its quotes -/
def keyText : Json → String
  | .str s => s
  | k => String.ofList (k.dumps .compact)

/-- the members of `dict(metadata or {})` in the order in which `json.dumps` writes them with sorted keys, where none of
the two raises -/
def metadataMembers : Json → Option (List (String × Json))
  | .obj fs => some (KeyedList.sorted Prod.fst fs)
  | .arr items => do
    let pairs ← items.mapM pairOf
    let sorted ← sortItems (pairs.foldl setItem [])
    return sorted.map fun p => (keyText p.1, p.2)
  | v => if falsy v then some [] else none

/-! ## Events -/

/-- what the digest of an event covers -/
structure AuditFields where
  auditEventId : Uuid
  occurredAt : Instant
  actorType : String
  actorId : String
  action : String
  objectType : String
  objectId : String
  outcome : String
  reasonCode : Option String
  metadata : Metadata
  previousEventHash : String

structure AuditEvent extends AuditFields where
  eventHash : String

def genesisPreviousEventHash : String := String.ofList (List.replicate 64 '0')

def minAuditHmacKeyBytes : Nat := 32

inductive AuditError where
  -- AuditValidationError
  | validation (detail : String)
  -- AuditUnavailableError
  | unavailable (detail : String)
  -- what `dict(metadata)` or the sort of its keys raises
  | metadata
  -- what the database raises
  | database (detail : String)
  | zeroDivision
deriving DecidableEq, Repr

/-- two digits, as `%m` prints them -/
def twoDigits (n : Nat) : List Char := [Nat.digitChar (n / 10), Nat.digitChar (n % 10)]

/-- `f"{n:06d}"` -/
def sixDigits (n : Nat) : List Char := List.replicate (6 - (digits n).length) '0' ++ digits n

/-- `%Y` does not pad on this platform -/
def formatOccurredAt (t : Instant) : List Char :=
  let text := digits t.year ++ '-' :: twoDigits t.month ++ '-' :: twoDigits t.day ++ 'T' :: twoDigits t.hour ++
    ':' :: twoDigits t.minute ++ ':' :: twoDigits t.second
  let fraction :=
    if t.microsecond ≠ 0 then
      Py.rstripChars (· == '.') (Py.rstripChars (· == '0') ('.' :: sixDigits t.microsecond))
    else []
  text ++ fraction ++ ['Z']

def optStr : Option String → Json
  | none => .null
  | some s => .str s

/-- the members of the payload beside the metadata -/
def canonicalAuditEventPayload (f : AuditFields) : List (String × Json) := [
  ("actor_id", .str f.actorId),
  ("actor_type", .str f.actorType),
  ("audit_event_id", .str f.auditEventId.str),
  ("action", .str f.action),
  ("object_id", .str f.objectId),
  ("object_type", .str f.objectType),
  ("occurred_at", .str (String.ofList (formatOccurredAt f.occurredAt))),
  ("outcome", .str f.outcome),
  ("previous_event_hash", .str f.previousEventHash),
  ("reason_code", optStr f.reasonCode)]

/-- a dict as it is written, from its members in their order -/
def dictText (members : List (String × Json)) : List Char :=
  '{' :: joinText [','] (members.map (Json.memberText .compact)) ++ ['}']

/-- `json.dumps(payload, ensure_ascii=False, sort_keys=True, separators=(",", ":"))`, from the members of the metadata -/
def canonicalText (f : AuditFields) (metadata : List (String × Json)) : List Char :=
  let texts := ("metadata", quote (Py.chars "metadata") ++ ':' :: dictText metadata) ::
    Json.dumpsFields .compact (canonicalAuditEventPayload f)
  '{' :: joinText [','] ((KeyedList.sorted Prod.fst texts).map Prod.snd) ++ ['}']

/-- the bytes of the text, where the metadata makes a dict -/
def canonicalJsonBytes (f : AuditFields) : Option (List Nat) :=
  (metadataMembers f.metadata.value).map fun metadata => Sha.utf8 (canonicalText f metadata)

def requireAuditHmacKey (hmacKey : Option (List Nat)) : Except AuditError (List Nat) :=
  match hmacKey with
  | none => .error (.unavailable "audit HMAC key is required")
  | some key =>
    if key.length < minAuditHmacKeyBytes then
      .error (.unavailable ("audit HMAC key must be at least " ++ toString minAuditHmacKeyBytes ++ " bytes"))
    else .ok key

/-- the digest of an event under a key -/
def digest (key : List Nat) (f : AuditFields) : Option String := (canonicalJsonBytes f).map (Sha.hmacSha256Hex key)

def computeAuditEventHash (hmacKey : List Nat) (f : AuditFields) : Except AuditError String := do
  let validatedKey ← requireAuditHmacKey (some hmacKey)
  match digest validatedKey f with
  | some eventHash => .ok eventHash
  | none => .error .metadata

/-- `_SHA256_PATTERN.fullmatch(s)` -/
def isSha256 (s : String) : Bool :=
  (Py.chars s).length = 64 ∧ (Py.chars s).all fun c => ('a' ≤ c && c ≤ 'f') || ('0' ≤ c && c ≤ '9')

/-- sixty-four characters out of the digits that are written -/
theorem isSha256_of_hex {s : String} (hlen : s.length = 64) (hdigits : ∀ c ∈ s.toList, c ∈ "0123456789abcdef".toList) :
    isSha256 s = true := by
  have hhex : ∀ c ∈ "0123456789abcdef".toList, (('a' ≤ c && c ≤ 'f') || ('0' ≤ c && c ≤ '9')) = true :=
    List.all_eq_true.1 rfl
  simp only [isSha256, decide_eq_true_eq, Py.chars_eq, List.all_eq_true]
  refine ⟨?_, fun c hc => ?_⟩
  · rw [String.length_toList]
    exact hlen
  · exact hhex c (hdigits c hc)

def verifyAuditEventHash (hmacKey : List Nat) (e : AuditEvent) : Except AuditError Bool :=
  if !isSha256 e.eventHash then .ok false
  else do
    let expected ← computeAuditEventHash hmacKey e.toAuditFields
    return expected = e.eventHash

/-! ## Validation of a call -/

def isLower (c : Char) : Bool := 'a' ≤ c && c ≤ 'z'

def isUpper (c : Char) : Bool := 'A' ≤ c && c ≤ 'Z'

/-- `^[a-z][a-z0-9…]{lo,hi}$`, with the characters `extra` allowed beside letters and digits -/
def isSlug (extra : List Char) (lo hi : Nat) (s : String) : Bool :=
  match Py.chars s with
  | [] => false
  | c :: cs =>
    isLower c && cs.all (fun c => isLower c || JsonText.isDigit c || extra.contains c) && lo ≤ cs.length && cs.length ≤ hi

def secretWords : List String :=
  ["password", "passwd", "secret", "apikey", "api_key", "api-key", "privatekey", "private_key", "private-key",
    "accesstoken", "access_token", "access-token", "refreshtoken", "refresh_token", "refresh-token", "authtoken",
    "auth_token", "auth-token", "bearer", "session", "prompt", "credential"]

/-- `_SECRET_KEY_PATTERN.search` from a place on; `start` tells whether a word may begin here. The keys searched are in
lower case. -/
def searchSecretKey (start : Bool) : List Char → Bool
  | [] => false
  | c :: cs =>
    (start && secretWords.any fun w => (Py.chars w).isPrefixOf (c :: cs) &&
      (((c :: cs).drop (Py.chars w).length).head?.all (· == '_'))) || searchSecretKey (c == '_') cs

/-- `$` also matches before a line feed that ends the text -/
def dropFinalNewline (cs : List Char) : List Char := if cs.getLast? = some '\n' then cs.dropLast else cs

def isWord (c : Char) : Bool := isLower c || isUpper c || JsonText.isDigit c

/-- `_SECRET_VALUE_PATTERNS` -/
def isSecretValue (s : String) : Bool :=
  match Py.chars s with
  | 's' :: 'k' :: '-' :: cs => let cs := dropFinalNewline cs; 20 ≤ cs.length && cs.all isWord
  | 'A' :: 'K' :: 'I' :: 'A' :: cs =>
    let cs := dropFinalNewline cs
    cs.length = 16 && cs.all fun c => isUpper c || JsonText.isDigit c
  | 'e' :: 'y' :: 'J' :: cs =>
    let parts := (dropFinalNewline cs).splitOn '.'
    parts.length = 3 && parts.all fun p => !p.isEmpty && p.all fun c => isWord c || c == '_' || c == '-'
  | cs =>
    (cs.take 6).map Char.toLower = ['b', 'e', 'a', 'r', 'e', 'r'] && (cs.drop 6).head?.any Py.isSpace &&
      !((cs.drop 6).dropWhile Py.isSpace).isEmpty

def auditActorTypeValues : List String := ["user", "service"]

def auditOutcomeValues : List String := ["succeeded", "denied", "failed"]

/-- `if not p: raise AuditValidationError(detail)` -/
def requireThat (p : Prop) [Decidable p] (detail : String) : Except AuditError Unit :=
  if p then .ok () else .error (.validation detail)

def requireMetadataValue (key : String) : Json → Except AuditError Unit
  | .null | .bool _ | .int _ | .float _ => .ok ()
  | .str s => do
    requireThat (s.length ≤ 4000) ("metadata value for " ++ key ++ " exceeds the maximum length")
    requireThat (¬isSecretValue s) ("metadata value for " ++ key ++ " contains secret-like material")
  | _ => .error (.validation ("metadata value for " ++ key ++ " must be string, number, integer, boolean, or null"))

def requireMetadata (metadata : Dict) : Except AuditError Unit := do
  requireThat (metadata.members.length ≤ 50) "metadata must contain at most 50 properties"
  metadata.members.forM fun (key, value) => do
    requireThat (key ≠ "" ∧ key.length ≤ 128) "metadata keys must be between 1 and 128 characters"
    requireThat (isSlug ['_'] 0 key.length key) "metadata keys must match the contract pattern"
    requireThat (¬searchSecretKey true (Py.chars key))
      ("metadata key '" ++ key ++ "' uses a secret-bearing field name")
    requireMetadataValue key value

/-- the arguments of `append_audit_event`, with the identifier and the time that it draws -/
structure AppendCall where
  actorType : String
  actorId : String
  action : String
  objectType : String
  objectId : String
  outcome : String
  reasonCode : Option String
  metadata : Option Dict
  occurredAt : Option PyDatetime
  now : Instant
  auditEventId : Uuid

namespace AppendCall

/-- `metadata or {}` -/
def metadataOrEmpty (c : AppendCall) : Dict := c.metadata.getD .empty

/-- `occurred_at or datetime.now(timezone.utc)` -/
def moment (c : AppendCall) : PyDatetime := c.occurredAt.getD { value := c.now }

/-- the checks of `append_audit_event`, in its order -/
def validate (c : AppendCall) (hmacKey : List Nat) : Except AuditError (List Nat) := do
  let validatedKey ← requireAuditHmacKey (some hmacKey)
  requireThat (c.actorType ∈ auditActorTypeValues) "actor_type must be a supported audit actor type"
  requireThat (c.actorId ≠ "" ∧ c.actorId.length ≤ 255) "actor_id must be between 1 and 255 characters"
  requireThat (isSlug ['_', '.'] 2 127 c.action) "action must match the stable audit-action pattern"
  requireThat (isSlug ['_'] 2 63 c.objectType) "object_type must match the stable audit-object-type pattern"
  requireThat (c.objectId ≠ "" ∧ c.objectId.length ≤ 255) "object_id must be between 1 and 255 characters"
  requireThat (c.outcome ∈ auditOutcomeValues) "outcome must be a supported audit outcome"
  requireThat (∀ code ∈ c.reasonCode, isSlug ['_'] 2 127 code = true) "reason_code must match the stable error-code pattern"
  requireMetadata c.metadataOrEmpty
  requireThat (c.moment.aware = true) "occurred_at must be a timezone-aware datetime"
  return validatedKey

end AppendCall

/-! ## The table -/

/-- `ORDER BY occurred_at, audit_event_id` -/
def AuditFields.sortKey (f : AuditFields) : Instant ×ₗ Uuid := toLex (f.occurredAt, f.auditEventId)

def AppendCall.sortKey (c : AppendCall) : Instant ×ₗ Uuid := toLex (c.moment.value, c.auditEventId)

/-- the table in ascending order -/
def orderedEvents (table : List AuditEvent) : List AuditEvent :=
  table.insertionSort fun a b => a.sortKey ≤ b.sortKey

/-- `ORDER BY occurred_at DESC, audit_event_id DESC LIMIT 1` -/
def loadLatestAuditEvent (table : List AuditEvent) : Option AuditEvent :=
  (table.insertionSort fun a b => b.sortKey ≤ a.sortKey).head?

/-- the event that a call makes after `previousEventHash` -/
def AppendCall.fields (c : AppendCall) (previousEventHash : String) : AuditFields where
  auditEventId := c.auditEventId
  occurredAt := c.moment.value
  actorType := c.actorType
  actorId := c.actorId
  action := c.action
  objectType := c.objectType
  objectId := c.objectId
  outcome := c.outcome
  reasonCode := c.reasonCode
  metadata := c.metadataOrEmpty.toMetadata
  previousEventHash := previousEventHash

def appendAuditEvent (hmacKey : List Nat) (table : List AuditEvent) (c : AppendCall) : Except AuditError AuditEvent := do
  let validatedKey ← c.validate hmacKey
  let latest := loadLatestAuditEvent table
  let previousEventHash := (latest.map AuditEvent.eventHash).getD genesisPreviousEventHash
  let fields := c.fields previousEventHash
  let eventHash ← computeAuditEventHash validatedKey fields
  return { fields with eventHash }

/-- the row that a flush writes: the metadata goes through a JSONB column -/
def AuditEvent.stored (e : AuditEvent) : AuditEvent := { e with metadata := e.metadata.jsonb }

/-- the flush of a new row -/
def insertEvent (table : List AuditEvent) (e : AuditEvent) : Except AuditError (List AuditEvent) :=
  if ¬Json.storableText e.actorId ∨ ¬Json.storableText e.objectId ∨ ¬e.metadata.value.storable then
    .error (.database "invalid byte sequence or number")
  else if e.auditEventId ∈ table.map (fun r => r.auditEventId) then .error (.database "audit_events_pkey")
  else .ok (table ++ [e.stored])

/-- one call inside a transaction: a refused call leaves the transaction as it was, a failed flush ends it -/
def appendInTransaction (hmacKey : List Nat) (table : List AuditEvent) (c : AppendCall) :
    Except AuditError (List AuditEvent) :=
  match appendAuditEvent hmacKey table c with
  | .error _ => .ok table
  | .ok e => insertEvent table e

/-- the appends of one transaction, and whether it commits -/
structure Transaction where
  calls : List AppendCall
  commits : Bool := true

/-- one transaction, which the advisory lock separates from all others -/
def step (hmacKey : List Nat) (table : List AuditEvent) (tx : Transaction) : List AuditEvent :=
  match tx.calls.foldlM (appendInTransaction hmacKey) table with
  | .ok after => if tx.commits then after else table
  | .error _ => table

end AtoService.Audit
