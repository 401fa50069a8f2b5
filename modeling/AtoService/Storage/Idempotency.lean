/-
Idempotency records: how a mutation that may be sent twice is looked up and recorded.

A request is known by its principal, its operation and its key. A record holds the digest of the request and the response
that was sent, for twenty-four hours; it is refused when it looks as if it held a secret. Times are microseconds, aware and in
UTC. Response bodies are stored as JSONB, and read back so. `repr` of a text is an argument.
-/
import AtoService.Audit.Event
import AtoService.Lib.IgnoreCase
import AtoService.Lib.JsonSchema
import AtoService.Lib.Results
import AtoService.Lib.Sha

namespace AtoService.Idempotency

open Json JsonSchema Results

/-- `IdempotencyValidationError` -/
structure IdempotencyValidationError where
  message : String
deriving DecidableEq, Repr

/-! ## Secrets -/

def secretWords : List String :=
  ["password", "passwd", "secret", "apikey", "api_key", "api-key", "privatekey", "private_key", "private-key",
    "accesstoken", "access_token", "access-token", "refreshtoken", "refresh_token", "refresh-token", "authtoken",
    "auth_token", "auth-token", "bearer", "session"]

/-- `(?:$|_)`; the end also stands before a final newline -/
def endsWord : List Char → Bool
  | [] | ['\n'] => true
  | c :: _ => c = '_'

/-- a secret word starts here, and is a part of the name by itself -/
def secretWordAt (cs : List Char) : Bool :=
  secretWords.any fun word => (Py.dropWord (Py.chars word) cs).any endsWord

/-- `_SECRET_KEY_PATTERN.search(key)`: a word at the start, or after an underscore -/
def isSecretKey (key : String) : Bool :=
  secretWordAt (Py.chars key) || (Py.chars key).tails.any fun rest =>
    match rest with
    | '_' :: rest => secretWordAt rest
    | _ => false

def isTokenChar (c : Char) : Bool := c.isAlphanum || c = '_' || c = '-'

/-- what follows a text that is written in the case of the pattern -/
def dropText (text : String) (cs : List Char) : Option (List Char) :=
  if (Py.chars text).isPrefixOf cs then some (cs.drop (Py.chars text).length) else none

/-- `sk-[A-Za-z0-9]{20,}` -/
def isServiceKey (s : String) : Bool := (dropText "sk-" (Py.chars s)).any fun cs => 20 ≤ cs.length && cs.all Char.isAlphanum

/-- `AKIA[0-9A-Z]{16}` -/
def isAccessKey (s : String) : Bool :=
  (dropText "AKIA" (Py.chars s)).any fun cs => cs.length = 16 && cs.all fun c => c.isDigit || c.isUpper

/-- `eyJ[A-Za-z0-9_-]+\.[A-Za-z0-9_-]+\.[A-Za-z0-9_-]+` -/
def isWebToken (s : String) : Bool :=
  match (Py.chars s).splitOn '.' with
  | [header, payload, signature] => (dropText "eyJ" header).any (fun cs => !cs.isEmpty && cs.all isTokenChar) &&
      !payload.isEmpty && payload.all isTokenChar && !signature.isEmpty && signature.all isTokenChar
  | _ => false

/-- `^Bearer\s+\S+` -/
def isBearer (s : String) : Bool :=
  (Py.dropWord (Py.chars "bearer") (Py.chars s)).any fun cs =>
    cs.head?.any Py.isSpace && !(cs.dropWhile Py.isSpace).isEmpty

def isSecretValue (s : String) : Bool :=
  searchPattern isServiceKey s || searchPattern isAccessKey s || searchPattern isWebToken s || isBearer s

def indexText (n : Nat) : String := String.ofList (digits n)

mutual

def rejectObviousSecrets (keyPath : String) : Json → Except IdempotencyValidationError Unit
  | .obj fields => rejectSecretMembers keyPath fields
  | .arr items => rejectSecretItems keyPath 0 items
  | .str s => ensure (isSecretValue s = false)
      ⟨(if keyPath = "" then "<root>" else keyPath) ++ " contains secret-like material"⟩
  | _ => .ok ()

def rejectSecretItems (keyPath : String) (index : Nat) : List Json → Except IdempotencyValidationError Unit
  | [] => .ok ()
  | item :: items => do
    rejectObviousSecrets (keyPath ++ "[" ++ indexText index ++ "]") item
    rejectSecretItems keyPath (index + 1) items

def rejectSecretMembers (keyPath : String) : List (String × Json) → Except IdempotencyValidationError Unit
  | [] => .ok ()
  | (key, nested) :: fields => do
    let nestedPath := if keyPath = "" then key else keyPath ++ "." ++ key
    ensure (isSecretKey key = false) ⟨nestedPath ++ " uses a secret-bearing field name"⟩
    rejectObviousSecrets nestedPath nested
    rejectSecretMembers keyPath fields

end

example : isSecretKey "X_API-Key" = true := by decide

example : isSecretKey "sessions" = false := by decide

/-! ## Requests and records -/

/-- what the rows are unique by -/
structure Scope where
  principal : String
  operation : String
  idempotencyKey : String
deriving DecidableEq, Repr

structure Response where
  status : Int
  body : Fields
  headers : List (String × String)

structure IdempotencyRecord where
  scope : Scope
  requestDigest : String
  response : Response
  createdAt : Int
  expiresAt : Int

def idempotencyRetention : Int := 24 * 3600 * 1000000

def canonicalJsonText (document : Fields) : Except IdempotencyValidationError (List Char) := do
  rejectObviousSecrets "" (.obj document)
  return Json.dumps .compact (.obj document)

def requestDigestFromPayload (payload : Fields) : Except IdempotencyValidationError String := do
  let text ← canonicalJsonText payload
  return Sha.sha256Hex text

/-- the eight bytes that the two numbers are read from, in hexadecimal digits -/
def idempotencyAdvisoryLockKeys (scope : Scope) : List Char :=
  (Py.chars (Sha.sha256Hex (Py.chars scope.principal ++ '\x00' :: Py.chars scope.operation ++
    '\x00' :: Py.chars scope.idempotencyKey))).take 16

def requirePrincipal (principal : String) : Except IdempotencyValidationError Unit :=
  ensure (principal ≠ "" ∧ (Py.chars principal).length ≤ 255) ⟨"principal must be between 1 and 255 characters"⟩

def requireOperation (operation : String) : Except IdempotencyValidationError Unit :=
  ensure (operation ≠ "" ∧ (Py.chars operation).length ≤ 128) ⟨"operation must be between 1 and 128 characters"⟩

def isKeyChar (c : Char) : Bool := c.isAlphanum || c = '.' || c = '_' || c = ':' || c = '-'

def requireIdempotencyKey (key : String) : Except IdempotencyValidationError Unit :=
  ensure (16 ≤ (Py.chars key).length ∧ (Py.chars key).length ≤ 128 ∧ (Py.chars key).all isKeyChar = true)
    ⟨"idempotency_key must match the contract idempotency-key pattern"⟩

def requireRequestDigest (requestDigest : String) : Except IdempotencyValidationError Unit :=
  ensure (Audit.isSha256 requestDigest = true) ⟨"request_digest must be a lowercase SHA-256 hex digest"⟩

/-- the checks that looking up and recording begin with -/
def requireRequest (scope : Scope) (requestDigest : String) : Except IdempotencyValidationError Unit := do
  requirePrincipal scope.principal
  requireOperation scope.operation
  requireIdempotencyKey scope.idempotencyKey
  requireRequestDigest requestDigest

def requireResponseStatus (status : Int) : Except IdempotencyValidationError Unit :=
  ensure (100 ≤ status ∧ status ≤ 599) ⟨"response_status must be between 100 and 599"⟩

def forbiddenResponseHeaderNames : List String := ["authorization", "cookie", "set-cookie", "x-csrf-token"]

def isHeaderNameChar (c : Char) : Bool := c.isAlphanum || "!#$%&'*+.^_`|~-".toList.contains c

/-- the letters that `str.lower` turns into those of the forbidden names -/
def lowerHeader (name : String) : String :=
  String.ofList ((Py.chars name).map fun c => if c.toNat = 0x212a then 'k' else c.toLower)

section

variable (pyRepr : String → String)

/-- one round of the loop over the headers -/
def requireResponseHeader (header : String × String) : Except IdempotencyValidationError Unit := do
  ensure (header.1 ≠ "") ⟨"response header names must be nonempty strings"⟩
  ensure (lowerHeader header.1 ∉ forbiddenResponseHeaderNames)
    ⟨"response header " ++ pyRepr header.1 ++ " must not be stored"⟩
  ensure ((Py.chars header.1).all isHeaderNameChar = true)
    ⟨"response header name " ++ pyRepr header.1 ++ " is not valid"⟩
  ensure ((Py.chars header.2).all (fun c => c = '\t' || 0x20 ≤ c.toNat && c.toNat ≤ 0x7e) = true)
    ⟨"response header value for " ++ pyRepr header.1 ++ " is not valid"⟩

def requireResponseHeaders (headers : List (String × String)) : Except IdempotencyValidationError Unit :=
  headers.forM (requireResponseHeader pyRepr)

/-- `record_idempotency_outcome`: the row, as it is read back -/
def recordIdempotencyOutcome (scope : Scope) (requestDigest : String) (response : Response) (now : Int) :
    Except IdempotencyValidationError IdempotencyRecord := do
  requireRequest scope requestDigest
  requireResponseStatus response.status
  rejectObviousSecrets "" (.obj response.body)
  requireResponseHeaders pyRepr response.headers
  return { scope, requestDigest, response := { response with body := jsonbFields response.body }
           createdAt := now, expiresAt := now + idempotencyRetention }

end

/-- the row of a scope; the unique constraint allows one -/
def rowOf (scope : Scope) (table : List IdempotencyRecord) : Option IdempotencyRecord :=
  table.find? fun row => row.scope = scope

inductive Lookup where
  /-- no row; or one that has expired, and is deleted -/
  | absent (expired : Option IdempotencyRecord)
  | replay (response : Response)
  | conflict (row : IdempotencyRecord)

/-- `load_idempotency_replay`, after the lock -/
def loadIdempotencyReplay (scope : Scope) (requestDigest : String) (now : Int) (table : List IdempotencyRecord) : Lookup :=
  match rowOf scope table with
  | none => .absent none
  | some row =>
    if row.expiresAt ≤ now then .absent (some row)
    else if row.requestDigest = requestDigest then .replay row.response
    else .conflict row

end AtoService.Idempotency
