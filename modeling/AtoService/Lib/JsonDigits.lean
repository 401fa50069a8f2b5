/-
Reading JSON text with a bound on the digits of an integer.

`withinDigits` is the bound on a value that was read. `json.loads` hands the digits of an integer literal to `int`, which
refuses more of them than the interpreter's limit with `ValueError`, and that is not the error for a text that is no JSON.
`readValueWithin` is the reader of `JsonLoads` with the two errors told apart.
-/
import AtoService.Lib.JsonLoads

namespace AtoService.JsonText

/-- `sys.int_info.default_max_str_digits` -/
def maxStrDigits : Nat := 4300

mutual

/-- no integer of the value has more digits than `int` takes -/
def withinDigits (limit : Nat) : Json → Bool
  | .int n => (digits n.natAbs).length ≤ limit
  | .arr xs => itemsWithinDigits limit xs
  | .obj fields => fieldsWithinDigits limit fields
  | _ => true

def itemsWithinDigits (limit : Nat) : List Json → Bool
  | [] => true
  | x :: xs => withinDigits limit x && itemsWithinDigits limit xs

def fieldsWithinDigits (limit : Nat) : List (String × Json) → Bool
  | [] => true
  | (_, v) :: fields => withinDigits limit v && fieldsWithinDigits limit fields

end

inductive LoadError where
  /-- `JSONDecodeError` -/
  | decode
  /-- the `ValueError` of `int` -/
  | digits
deriving DecidableEq, Repr

def orDecode {α : Type} : Option α → Except LoadError α
  | some a => .ok a
  | none => .error .decode

section

variable (limit : Nat)

def readNumberWithin (neg : Bool) (cs : List Char) : Except LoadError (Json × List Char) :=
  match readNumber neg cs with
  | some (.int n, rest) => if (digits n.natAbs).length ≤ limit then .ok (.int n, rest) else .error .digits
  | p => orDecode p

mutual

/-- `readValue`, with the error -/
def readValueWithin : Nat → List Char → Except LoadError (Json × List Char)
  | 0, _ => .error .decode
  | _, [] => .error .decode
  | k + 1, c :: cs =>
    if c = '"' then orDecode ((readString (cs.length + 1) cs).map fun p => (.str (String.ofList p.1), p.2))
    else if c = '[' then
      match skipWs cs with
      | ']' :: rest => .ok (.arr [], rest)
      | cs => (readItemsWithin k cs).map fun p => (.arr p.1, p.2)
    else if c = '{' then
      match skipWs cs with
      | '}' :: rest => .ok (.obj [], rest)
      | cs => (readMembersWithin k cs).map fun p => (.obj (KeyedList.ofList Prod.fst p.1), p.2)
    else if c = '-' then
      match keyword ['I', 'n', 'f', 'i', 'n', 'i', 't', 'y'] (.float (.inf true)) cs with
      | some p => .ok p
      | none => readNumberWithin limit true cs
    else
      match (keyword ['n', 'u', 'l', 'l'] .null (c :: cs)).or <|
        (keyword ['t', 'r', 'u', 'e'] (.bool true) (c :: cs)).or <|
        (keyword ['f', 'a', 'l', 's', 'e'] (.bool false) (c :: cs)).or <|
        (keyword ['N', 'a', 'N'] (.float .nan) (c :: cs)).or <|
        keyword ['I', 'n', 'f', 'i', 'n', 'i', 't', 'y'] (.float (.inf false)) (c :: cs) with
      | some p => .ok p
      | none => readNumberWithin limit false (c :: cs)

def readItemsWithin : Nat → List Char → Except LoadError (List Json × List Char)
  | 0, _ => .error .decode
  | k + 1, cs =>
    match readValueWithin k cs with
    | .ok (v, rest) =>
      match skipWs rest with
      | ']' :: rest => .ok ([v], rest)
      | ',' :: rest => (readItemsWithin k (skipWs rest)).map fun p => (v :: p.1, p.2)
      | _ => .error .decode
    | .error e => .error e

def readMembersWithin : Nat → List Char → Except LoadError (List (String × Json) × List Char)
  | 0, _ => .error .decode
  | k + 1, cs =>
    match cs with
    | '"' :: cs =>
      match readString (cs.length + 1) cs with
      | some (key, rest) =>
        match skipWs rest with
        | ':' :: rest =>
          match readValueWithin k (skipWs rest) with
          | .ok (v, rest) =>
            match skipWs rest with
            | '}' :: rest => .ok ([(String.ofList key, v)], rest)
            | ',' :: rest => (readMembersWithin k (skipWs rest)).map fun p => ((String.ofList key, v) :: p.1, p.2)
            | _ => .error .decode
          | .error e => .error e
        | _ => .error .decode
      | none => .error .decode
    | _ => .error .decode

end

end

end AtoService.JsonText
