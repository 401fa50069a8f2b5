/-
Tests of JSON values, as a JSON Schema states them.

A number without a fraction is an integer, however it is written; text lengths count characters. Each test has a lemma that
gives what a value that meets it holds.
-/
import AtoService.Lib.Binary64
import AtoService.Lib.Json

namespace AtoService.JsonSchema

open Json

abbrev Fields := List (String × Json)

/-- the magnitude of a float, as the double that is nearest to its decimal -/
def magnitude (d : Decimal) : ℚ := Binary64.nearest (d.coeff * (10 : ℚ) ^ d.exp)

/-- the value of a number that is an integer: also a float without a fraction, which infinity is not -/
def asInteger : Json → Option Int
  | .int n => some n
  | .float (.finite d) =>
    if (magnitude d).den = 1 ∧ magnitude d < 2 ^ 1024 then
      some (if d.neg then -(magnitude d).num else (magnitude d).num)
    else none
  | _ => none

def isIntegerFrom (low : Int) (v : Json) : Bool := (asInteger v).any fun n => low ≤ n

def isText : Json → Bool
  | .str _ => true
  | _ => false

def isTextOf (low high : Nat) : Json → Bool
  | .str s => low ≤ (Py.chars s).length && (Py.chars s).length ≤ high
  | _ => false

def isTextWith (pattern : String → Bool) : Json → Bool
  | .str s => pattern s
  | _ => false

/-- `re.search` for a pattern between `^` and `$`, which also matches before a final newline -/
def searchPattern (full : String → Bool) (s : String) : Bool :=
  full s || match (Py.chars s).reverse with
    | '\n' :: rest => full (String.ofList rest.reverse)
    | _ => false

def isOneOf (texts : List String) : Json → Bool
  | .str s => texts.contains s
  | _ => false

def isBool : Json → Bool
  | .bool _ => true
  | _ => false

/-- a missing bound admits any length -/
def isListOf (low : Nat) (high : Option Nat) (test : Json → Bool) : Json → Bool
  | .arr xs => low ≤ xs.length && high.all (xs.length ≤ ·) && xs.all test
  | _ => false

def isObjectWith (test : Fields → Bool) : Json → Bool
  | .obj fields => test fields
  | _ => false

/-- the test, where null is admitted beside it -/
def orNull (test : Json → Bool) : Json → Bool
  | .null => true
  | v => test v

/-- the member is there, and meets the test -/
def memberMeets (key : String) (test : Json → Bool) (fields : Fields) : Bool := (member key fields).any test

/-- the member meets the test, or is not there -/
def optionalMeets (key : String) (test : Json → Bool) (fields : Fields) : Bool := (member key fields).all test

def onlyKeys (keys : List String) (fields : Fields) : Bool := fields.all fun p => keys.contains p.1

/-! ## What a value that meets a test holds -/

variable {v : Json}

theorem memberMeets_iff {key : String} {test : Json → Bool} {fields : Fields} :
    memberMeets key test fields = true ↔ ∃ v, member key fields = some v ∧ test v = true := Option.any_eq_true _ _

theorem eq_arr_of_isListOf {low : Nat} {high : Option Nat} {test : Json → Bool} (h : isListOf low high test v = true) :
    ∃ xs, v = .arr xs ∧ ∀ x ∈ xs, test x = true := by
  cases v with
  | arr xs =>
    simp only [isListOf, Bool.and_eq_true, List.all_eq_true] at h
    exact ⟨xs, rfl, h.2⟩
  | _ => simp [isListOf] at h

theorem eq_obj_of_isObjectWith {test : Fields → Bool} (h : isObjectWith test v = true) :
    ∃ fields, v = .obj fields ∧ test fields = true := by
  cases v with
  | obj fields => exact ⟨fields, rfl, h⟩
  | _ => simp [isObjectWith] at h

end AtoService.JsonSchema
