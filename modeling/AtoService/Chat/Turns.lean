/-
Chat turns of one service: reserving a turn, completing it, releasing it, and the token budget of an actor.

An actor has one conversation for each workspace. A reservation takes the actor's advisory lock, reclaims the expired
reservation at the end of the conversation, charges the actor's budget and inserts a pending turn with a lease. The model
is called outside any transaction. Completion and release are transactions of their own under the same lock, so the
transactions of one actor follow one another; each is a function from the committed tables to the tables it commits, or
an error, after which the tables are as before.

A session returns a conversation that it still holds from an earlier transaction as it first read it. Completion and
release take such a row as `held`. The row of the turn is not held: it is read when it is needed.

Identifiers are compared for equality only; those that `uuid.uuid4()` draws are arguments. Times are microseconds.
-/
import Mathlib.Tactic

namespace AtoService.Chat

/-! ## Times -/

abbrev Uuid := Nat

/-- microseconds since 1970-01-01T00:00:00Z -/
abbrev Instant := Int

/-- days since 1970-01-01 -/
abbrev Date := Int

def microsecondsPerSecond : Int := 1000000

def microsecondsPerDay : Int := 86400 * microsecondsPerSecond

/-- `t.date()` of a time in UTC -/
def date (t : Instant) : Date := t / microsecondsPerDay

def addSeconds (t : Instant) (seconds : Nat) : Instant := t + seconds * microsecondsPerSecond

/-- the days from 1970-01-01 to a day of the proleptic Gregorian calendar -/
def daysFromCivil (year month day : Int) : Int :=
  let y := if month ≤ 2 then year - 1 else year
  let era := y / 400
  let yearOfEra := y - era * 400
  let dayOfYear := (153 * (month + if 2 < month then -3 else 9) + 2) / 5 + day - 1
  era * 146097 + (yearOfEra * 365 + yearOfEra / 4 - yearOfEra / 100 + dayOfYear) - 719468

/-- the year, the month and the day of the month -/
def civilFromDays (days : Int) : Int × Int × Int :=
  let z := days + 719468
  let era := z / 146097
  let dayOfEra := z - era * 146097
  let yearOfEra := (dayOfEra - dayOfEra / 1460 + dayOfEra / 36524 - dayOfEra / 146096) / 365
  let dayOfYear := dayOfEra - (365 * yearOfEra + yearOfEra / 4 - yearOfEra / 100)
  let m := (5 * dayOfYear + 2) / 153
  let month := m + if m < 10 then 3 else -9
  (yearOfEra + era * 400 + (if month ≤ 2 then 1 else 0), month, dayOfYear - (153 * m + 2) / 5 + 1)

def isLeapYear (year : Int) : Bool := year % 4 = 0 && (year % 100 ≠ 0 || year % 400 = 0)

def chatRetentionYears : Int := 7

/-- seven calendar years later; February 29 becomes February 28 in a year that has none -/
def chatRetentionExpiry (completedAt : Instant) : Instant :=
  let (year, month, day) := civilFromDays (date completedAt)
  let year := year + chatRetentionYears
  let day := if month = 2 ∧ day = 29 ∧ isLeapYear year = false then 28 else day
  daysFromCivil year month day * microsecondsPerDay + completedAt % microsecondsPerDay

example : civilFromDays 19782 = (2024, 2, 29) := by decide

example : chatRetentionExpiry (daysFromCivil 2024 2 29 * microsecondsPerDay + 5) =
    daysFromCivil 2031 2 28 * microsecondsPerDay + 5 := by decide

/-! ## Tables -/

structure Conversation where
  conversationId : Uuid
  workspaceId : Uuid
  actorId : String
  lastSequence : Nat
  rateWindowStartedAt : Instant
  rateWindowCount : Nat
  dailyTokenCount : Nat
  usageDate : Date
  createdAt : Instant
  updatedAt : Instant
deriving DecidableEq, Repr

inductive TurnStatus where
  | pending | completed
deriving DecidableEq, Repr

structure Turn where
  turnId : Uuid
  conversationId : Uuid
  sequence : Nat
  requestId : Uuid
  requestFingerprint : String
  expectedRevisionId : Uuid
  contextFingerprint : String
  leaseToken : Uuid
  leaseExpiresAt : Option Instant
  status : TurnStatus
  createdAt : Instant
  completedAt : Option Instant
  expiresAt : Option Instant
deriving DecidableEq, Repr

inductive Role where
  | user | assistant
deriving DecidableEq, Repr

/-- a source that an answer cites, as it is stored -/
structure Source where
  sourceId : String
  row : String
deriving DecidableEq, Repr

structure Message where
  turnId : Uuid
  conversationId : Uuid
  sequence : Nat
  role : Role
  content : String
  createdAt : Instant
  expiresAt : Instant
  sources : List Source
  contextFingerprint : String
deriving DecidableEq, Repr

structure Db where
  conversations : List Conversation := []
  turns : List Turn := []
  messages : List Message := []
deriving DecidableEq, Repr

/-! ## Errors -/

inductive ErrorCode where
  | sequenceConflict | requestConflict | rateLimit | dailyTokenLimit | contextStale | keyError | integrityError
deriving DecidableEq, Repr

structure ChatError where
  code : ErrorCode
  message : String
deriving DecidableEq, Repr

def raise {α : Type} (code : ErrorCode) (message : String) : Except ChatError α := .error ⟨code, message⟩

/-- `if not p: raise …` -/
def require (p : Prop) [Decidable p] (code : ErrorCode) (message : String) : Except ChatError Unit :=
  if p then .ok () else raise code message

/-! ## Requests -/

structure ChatMessageRequest where
  message : String
  expectedRevisionId : Uuid
  requestId : Uuid
  expectedSequence : Nat
  focus : Option String
deriving DecidableEq, Repr

structure ContextSnapshot where
  fingerprint : String
  sources : List Source
deriving DecidableEq, Repr

structure Limits where
  rateLimitWindowSeconds : Nat
  rateLimitMaxRequests : Nat
  dailyTokenLimitPerUser : Nat
deriving DecidableEq, Repr

structure Reservation where
  conversationId : Uuid
  actorId : String
  turnId : Uuid
  sequence : Nat
  leaseToken : Uuid
  context : ContextSnapshot
deriving DecidableEq, Repr

structure ChatModelOutput where
  answer : String
  sourceIds : List String
deriving DecidableEq, Repr

def chatReservationLeaseSeconds : Nat := 300

/-! ## Conversations and the budget -/

namespace Db

def conversation? (db : Db) (id : Uuid) : Option Conversation :=
  db.conversations.find? fun c => c.conversationId = id

/-- write a conversation under its identifier -/
def putConversation (db : Db) (c : Conversation) : Db :=
  { db with conversations := db.conversations.map fun c' => if c'.conversationId = c.conversationId then c else c' }

end Db

/-- The conversation of an actor and a workspace, which is inserted when there is none; `conversationId` is the
identifier drawn for it. -/
def ensureConversation (db : Db) (workspaceId : Uuid) (actorId : String) (conversationId : Uuid) (now : Instant) :
    Except ChatError (Conversation × Db) :=
  match db.conversations.find? fun c => c.workspaceId = workspaceId && c.actorId = actorId with
  | some c => .ok (c, db)
  | none => do
    let c : Conversation :=
      { conversationId, workspaceId, actorId, lastSequence := 0, rateWindowStartedAt := now, rateWindowCount := 0
        dailyTokenCount := 0, usageDate := date now, createdAt := now, updatedAt := now }
    require (db.conversation? conversationId = none) .integrityError "conversation_id"
    return (c, { db with conversations := db.conversations ++ [c] })

/-- bring the counters of a conversation to the date and the rate window of a request -/
def normalizeUsage (limits : Limits) (now : Instant) (c : Conversation) : Conversation :=
  let dated := c.usageDate = date now
  let windowed := now - c.rateWindowStartedAt < limits.rateLimitWindowSeconds * microsecondsPerSecond
  { c with
    usageDate := date now
    dailyTokenCount := if dated then c.dailyTokenCount else 0
    rateWindowStartedAt := if windowed then c.rateWindowStartedAt else now
    rateWindowCount := if windowed then c.rateWindowCount else 0
    updatedAt := if dated ∧ windowed then c.updatedAt else now }

/-- the tokens that the conversations of an actor count -/
def actorDailyTokenCount (actorId : String) (conversations : List Conversation) : Nat :=
  ((conversations.filter fun c => c.actorId = actorId).map Conversation.dailyTokenCount).sum

def actorRateCount (actorId : String) (conversations : List Conversation) : Nat :=
  ((conversations.filter fun c => c.actorId = actorId).map Conversation.rateWindowCount).sum

/-- charge a conversation of an actor -/
def charge (conversationId : Uuid) (now : Instant) (estimatedTokens : Nat) (c : Conversation) : Conversation :=
  if c.conversationId = conversationId then
    { c with rateWindowCount := c.rateWindowCount + 1, dailyTokenCount := c.dailyTokenCount + estimatedTokens
             updatedAt := now }
  else c

/-- charge the actor's budget for a reservation in a conversation -/
def reserveUsage (db : Db) (conversationId : Uuid) (actorId : String) (now : Instant) (limits : Limits)
    (estimatedTokens : Nat) : Except ChatError Db := do
  let conversations := db.conversations.map fun c => if c.actorId = actorId then normalizeUsage limits now c else c
  require (actorRateCount actorId conversations < limits.rateLimitMaxRequests) .rateLimit
    "chat request rate limit exceeded"
  require (actorDailyTokenCount actorId conversations + estimatedTokens ≤ limits.dailyTokenLimitPerUser)
    .dailyTokenLimit "chat daily token limit exceeded"
  return { db with conversations := conversations.map (charge conversationId now estimatedTokens) }

/-! ## Reserving -/

/-- Delete the expired reservations at the end of a conversation, the last first, and stop at one that is not at the
end. The result is the last sequence and the identifiers of the deleted turns. -/
def reclaim (last : Nat) : List Turn → Nat × List Uuid
  | [] => (last, [])
  | t :: ts =>
    if t.sequence ≠ last then (last, [])
    else
      let rest := reclaim (last - 1) ts
      (rest.1, t.turnId :: rest.2)

/-- `lease_expires_at <= now`, which does not hold of a missing lease -/
def Turn.expired (t : Turn) (now : Instant) : Bool := t.leaseExpiresAt.any fun e => e ≤ now

def Turn.active (t : Turn) (now : Instant) : Bool := t.leaseExpiresAt.any fun e => now < e

/-- the expired reservations of a conversation, the last first -/
def expiredPending (db : Db) (conversationId : Uuid) (now : Instant) : List Turn :=
  (db.turns.filter fun t => t.conversationId = conversationId && t.status = .pending && t.expired now).insertionSort
    fun a b => b.sequence ≤ a.sequence

/-- reclaim the end of a conversation -/
def reclaimExpired (db : Db) (c : Conversation) (now : Instant) : Conversation × Db :=
  let (last, deleted) := reclaim c.lastSequence (expiredPending db c.conversationId now)
  let c := { c with lastSequence := last }
  (c, { db.putConversation c with turns := db.turns.filter fun t => t.turnId ∉ deleted })

/-- the identifiers drawn for a reservation -/
structure Drawn where
  conversationId : Uuid
  turnId : Uuid
  leaseToken : Uuid
deriving DecidableEq, Repr

structure ReserveRequest where
  workspaceId : Uuid
  actorId : String
  payload : ChatMessageRequest
  /-- the digest of the payload -/
  fingerprint : String
  context : ContextSnapshot
  now : Instant
  estimatedTokens : Nat
  drawn : Drawn
deriving DecidableEq, Repr

/-- take over the expired reservation of the same request -/
def renew (db : Db) (r : ReserveRequest) (c : Conversation) (existing : Turn) :
    Except ChatError (Reservation × Db) := do
  require (existing.requestFingerprint = r.fingerprint) .requestConflict
    "request ID was reused with a different payload"
  require (¬(existing.status = .completed ∧ existing.expiresAt.any (r.now < ·) = true)) .requestConflict
    "completed request replay is handled by history"
  require (¬(existing.status = .pending ∧ existing.active r.now = true)) .sequenceConflict
    "identical chat request is already in progress"
  require (existing.status = .pending) .requestConflict "request ID is no longer replayable"
  require (existing.sequence = r.payload.expectedSequence + 1) .sequenceConflict "chat request sequence is stale"
  let renewed := { existing with
    leaseToken := r.drawn.leaseToken
    leaseExpiresAt := some (addSeconds r.now chatReservationLeaseSeconds) }
  let db := { db with turns := db.turns.map fun t => if t.turnId = existing.turnId then renewed else t }
  return (⟨c.conversationId, r.actorId, existing.turnId, existing.sequence, r.drawn.leaseToken, r.context⟩, db)

/-- the turn of a new reservation -/
def newTurn (r : ReserveRequest) (conversationId : Uuid) : Turn where
  turnId := r.drawn.turnId
  conversationId := conversationId
  sequence := r.payload.expectedSequence + 1
  requestId := r.payload.requestId
  requestFingerprint := r.fingerprint
  expectedRevisionId := r.payload.expectedRevisionId
  contextFingerprint := r.context.fingerprint
  leaseToken := r.drawn.leaseToken
  leaseExpiresAt := some (addSeconds r.now chatReservationLeaseSeconds)
  status := .pending
  createdAt := r.now
  completedAt := none
  expiresAt := none

/-- reserve a new turn at the end of a conversation -/
def reserveNew (limits : Limits) (db : Db) (r : ReserveRequest) (c : Conversation) :
    Except ChatError (Reservation × Db) := do
  require (¬∃ t ∈ db.turns, t.conversationId = c.conversationId ∧ t.status = .pending ∧ t.active r.now = true)
    .sequenceConflict "a chat turn is already in progress"
  require (c.lastSequence = r.payload.expectedSequence) .sequenceConflict "chat conversation sequence is stale"
  let charged ← reserveUsage db c.conversationId r.actorId r.now limits r.estimatedTokens
  let turn := newTurn r c.conversationId
  require (turn.turnId ∉ charged.turns.map Turn.turnId) .integrityError "turn_id"
  let conversations := charged.conversations.map fun c' =>
    if c'.conversationId = c.conversationId then { c' with lastSequence := turn.sequence } else c'
  return (⟨c.conversationId, r.actorId, turn.turnId, turn.sequence, turn.leaseToken, r.context⟩,
    { charged with conversations, turns := charged.turns ++ [turn] })

def reserveTurn (limits : Limits) (db : Db) (r : ReserveRequest) : Except ChatError (Reservation × Db) := do
  let (c, db) ← ensureConversation db r.workspaceId r.actorId r.drawn.conversationId r.now
  let (c, db) := reclaimExpired db c r.now
  match db.turns.find? fun t => t.conversationId = c.conversationId && t.requestId = r.payload.requestId with
  | some existing => renew db r c existing
  | none => reserveNew limits db r c

/-! ## Completing and releasing -/

structure CompleteRequest where
  reservation : Reservation
  payload : ChatMessageRequest
  output : ChatModelOutput
  currentContext : ContextSnapshot
  completedAt : Instant
  /-- the conversation as the session holds it -/
  held : Option Conversation
deriving DecidableEq, Repr

/-- a SELECT of a conversation by identifier: a row that the session holds is returned as it was first read -/
def loadConversation (db : Db) (held : Option Conversation) (id : Uuid) : Option Conversation :=
  (db.conversation? id).map fun c => (held.filter fun h => h.conversationId = id).getD c

/-- the row of a source that the answer cites -/
def sourceRow (context : ContextSnapshot) (id : String) : Except ChatError Source :=
  match context.sources.find? fun s => s.sourceId = id with
  | none => raise .keyError id
  | some s => .ok s

def userMessage (t : Turn) (r : CompleteRequest) : Message where
  turnId := t.turnId
  conversationId := t.conversationId
  sequence := t.sequence
  role := .user
  content := r.payload.message
  createdAt := r.completedAt
  expiresAt := chatRetentionExpiry r.completedAt
  sources := []
  contextFingerprint := r.currentContext.fingerprint

def assistantMessage (t : Turn) (r : CompleteRequest) (sources : List Source) : Message where
  turnId := t.turnId
  conversationId := t.conversationId
  sequence := t.sequence
  role := .assistant
  content := r.output.answer
  createdAt := r.completedAt
  expiresAt := chatRetentionExpiry r.completedAt
  sources := sources
  contextFingerprint := r.currentContext.fingerprint

/-- the turn that a reservation names -/
def reservedTurn? (db : Db) (r : Reservation) : Option Turn :=
  db.turns.find? fun t => t.turnId = r.turnId && t.conversationId = r.conversationId && t.sequence = r.sequence

def completed (t : Turn) (completedAt : Instant) : Turn :=
  { t with status := .completed, completedAt := some completedAt, expiresAt := some (chatRetentionExpiry completedAt)
           leaseExpiresAt := none }

def found {α : Type} (x : Option α) : Except ChatError α :=
  match x with
  | none => raise .sequenceConflict "chat reservation is no longer available"
  | some a => .ok a

def completeTurn (db : Db) (r : CompleteRequest) : Except ChatError Db := do
  let conversation ← found (loadConversation db r.held r.reservation.conversationId)
  let turn ← found (reservedTurn? db r.reservation)
  require (turn.status = .pending ∧ turn.leaseToken = r.reservation.leaseToken) .sequenceConflict
    "chat reservation was superseded"
  require (turn.active r.completedAt = true) .sequenceConflict "chat reservation lease expired"
  require (conversation.lastSequence = r.reservation.sequence) .sequenceConflict
    "chat conversation sequence changed"
  require (r.currentContext.fingerprint = r.reservation.context.fingerprint) .contextStale
    "canonical SSP context changed during chat"
  let sources ← r.output.sourceIds.mapM (sourceRow r.currentContext)
  return { conversations := db.conversations.map fun c =>
             if c.conversationId = conversation.conversationId then { c with updatedAt := r.completedAt } else c
           turns := db.turns.map fun t => if t.turnId = turn.turnId then completed turn r.completedAt else t
           messages := db.messages ++ [userMessage turn r, assistantMessage turn r sources] }

/-- remove a failed reservation; the tables are left as they are when it is no longer the end of the conversation -/
def releaseReservation (db : Db) (held : Option Conversation) (r : Reservation) : Db :=
  match loadConversation db held r.conversationId,
    db.turns.find? fun t => t.turnId = r.turnId && t.leaseToken = r.leaseToken && t.status = .pending with
  | some conversation, some turn =>
    if conversation.lastSequence = r.sequence then
      { db with
        conversations := db.conversations.map fun c =>
          if c.conversationId = r.conversationId then { c with lastSequence := r.sequence - 1 } else c
        turns := db.turns.filter fun t => t.turnId ≠ turn.turnId }
    else db
  | _, _ => db

end AtoService.Chat
