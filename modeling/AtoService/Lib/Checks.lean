/-
Checks of the arguments of a queue operation, in terms of the error that they raise.

Times are microseconds, of any size; a `Datetime` may lack a time zone. `valueError` builds the error from its message.
-/
import AtoService.Lib.PyText
import AtoService.Lib.Results

namespace AtoService.Checks

/-- microseconds since 1970-01-01T00:00:00Z -/
abbrev Instant := Int

/-- a `datetime`; `aware`: it has a time zone -/
structure Datetime where
  instant : Instant
  aware : Bool
deriving DecidableEq, Repr

def microsecondsPerSecond : Int := 1000000

variable {ε : Type} (valueError : String → ε)

def requireAwareUtc (value : Datetime) (fieldName : String) : Except ε Instant :=
  if value.aware then .ok value.instant else .error (valueError (fieldName ++ " must be a timezone-aware datetime"))

def requirePositiveInt (value : Int) (fieldName : String) : Except ε Unit :=
  Results.ensure (1 ≤ value) (valueError (fieldName ++ " must be positive"))

def requireLeaseOwner (leaseOwner : String) : Except ε Unit :=
  Results.ensure (leaseOwner ≠ "" ∧ leaseOwner.length ≤ 255)
    (valueError "lease_owner must be between 1 and 255 characters")

def isLower (c : Char) : Bool := 'a' ≤ c && c ≤ 'z'

/-- the pattern `^[a-z][a-z0-9_]{2,127}$` -/
def isErrorCode (s : String) : Bool :=
  match Py.chars s with
  | [] => false
  | c :: cs => isLower c && cs.all (fun c => isLower c || ('0' ≤ c && c ≤ '9') || c == '_') &&
      2 ≤ cs.length && cs.length ≤ 127

def requireErrorCode (errorCode : String) : Except ε Unit :=
  Results.ensure (isErrorCode errorCode = true) (valueError "error_code must match the stable error-code pattern")

/-- a lease without an expiry counts as expired -/
def leaseIsExpired (leaseExpiresAt : Option Instant) (now : Instant) : Bool := leaseExpiresAt.all fun e => e ≤ now

end AtoService.Checks
