/-
Reading JSON text: `json.loads`.

A recursive-descent reader over characters. Each function returns the value and the text after it, or nothing where
`json.loads` raises `JSONDecodeError`. The fuel of `readValue` counts nested values; `loads` gives it the length of the
text, which no nesting exceeds. Like `json.loads` the reader accepts `NaN` and the infinities, refuses control characters
in strings, joins surrogate escapes, and keeps the last of two members with one key. Unlike `json.loads` it refuses the
escape of a surrogate without its pair, so texts with one are not read here. A literal with a fraction or an exponent is
kept as the decimal it writes: rounding to a double, the interpreter's recursion limit and its limit on the digits of an
integer are left out.
-/
import AtoService.Lib.Json

namespace AtoService.JsonText

def isWs (c : Char) : Bool := c == ' ' || c == '\t' || c == '\n' || c == '\r'

def skipWs (cs : List Char) : List Char := cs.dropWhile isWs

def isDigit (c : Char) : Bool := '0' ≤ c && c ≤ '9'

def digitVal (c : Char) : Nat := c.toNat - 48

/-- the number that decimal digits write -/
def natOf (ds : List Char) : Nat := ds.foldl (fun n c => 10 * n + digitVal c) 0

/-! ## Numbers -/

/-- drop trailing zeros of a coefficient, raising the exponent; `k` bounds their number -/
def stripZeros : Nat → Nat → Int → Nat × Int
  | 0, n, e => (n, e)
  | k + 1, n, e => if n % 10 = 0 ∧ n ≠ 0 then stripZeros k (n / 10) (e + 1) else (n, e)

/-- the decimal `± coeff * 10 ^ exp` -/
def decimalOf (neg : Bool) (coeff : Nat) (exp : Int) : Decimal :=
  let p := stripZeros coeff coeff exp
  if h : p.1 % 10 ≠ 0 then ⟨neg, p.1, p.2, Or.inl h⟩ else ⟨neg, 0, 0, Or.inr ⟨rfl, rfl⟩⟩

/-- the digits at the head of a text, and the rest -/
def spanDigits (cs : List Char) : List Char × List Char := cs.span isDigit

/-- an optional `.` and digits -/
def readFraction : List Char → List Char × List Char
  | '.' :: cs =>
    match spanDigits cs with
    | ([], _) => ([], '.' :: cs)
    | p => p
  | cs => ([], cs)

/-- an optional `e`, a sign and digits -/
def readExponent : List Char → Option Int × List Char
  | c :: cs =>
    if c = 'e' ∨ c = 'E' then
      let (neg, ds) :=
        match cs with
        | '-' :: ds => (true, ds)
        | '+' :: ds => (false, ds)
        | ds => (false, ds)
      match spanDigits ds with
      | ([], _) => (none, c :: cs)
      | (ds, rest) => (some (if neg then -(natOf ds : Int) else natOf ds), rest)
    else (none, c :: cs)
  | [] => (none, [])

/-- `0|[1-9][0-9]*`, then an optional fraction and exponent -/
def readNumber (neg : Bool) (cs : List Char) : Option (Json × List Char) :=
  let (whole, rest) :=
    match cs with
    | '0' :: rest => (['0'], rest)
    | cs => spanDigits cs
  if whole.isEmpty then none
  else
    let (fraction, rest) := readFraction rest
    let (exponent, rest) := readExponent rest
    if fraction.isEmpty && exponent.isNone then
      let n : Int := natOf whole
      some (.int (if neg then -n else n), rest)
    else
      let exp := exponent.getD 0 - fraction.length
      some (.float (.finite (decimalOf neg (natOf (whole ++ fraction)) exp)), rest)

/-! ## Strings -/

def hexVal (c : Char) : Option Nat :=
  let n := c.toNat
  if 48 ≤ n ∧ n ≤ 57 then some (n - 48)
  else if 97 ≤ n ∧ n ≤ 102 then some (n - 87)
  else if 65 ≤ n ∧ n ≤ 70 then some (n - 55)
  else none

def hex4 : List Char → Option (Nat × List Char)
  | a :: b :: c :: d :: cs => do
    let a ← hexVal a
    let b ← hexVal b
    let c ← hexVal c
    let d ← hexVal d
    return (((a * 16 + b) * 16 + c) * 16 + d, cs)
  | _ => none

/-- a `\u` escape, joined with a second one when the two are a surrogate pair; a surrogate without its pair is refused, as no
text of characters holds it -/
def readUnicode (cs : List Char) : Option (Char × List Char) := do
  let (n, cs) ← hex4 cs
  if 0xD800 ≤ n ∧ n < 0xDC00 then
    match cs with
    | '\\' :: 'u' :: cs' =>
      let (m, rest) ← hex4 cs'
      if 0xDC00 ≤ m ∧ m < 0xE000 then some (Char.ofNat (0x10000 + (n - 0xD800) * 0x400 + (m - 0xDC00)), rest)
      else none
    | _ => none
  else if 0xDC00 ≤ n ∧ n < 0xE000 then none
  else some (Char.ofNat n, cs)

/-- the characters up to the closing quote; `k` bounds them -/
def readString : Nat → List Char → Option (List Char × List Char)
  | 0, _ => none
  | _, [] => none
  | k + 1, c :: cs =>
    if c = '"' then some ([], cs)
    else if c = '\\' then do
      let (d, cs) ←
        match cs with
        | '"' :: cs => some ('"', cs)
        | '\\' :: cs => some ('\\', cs)
        | '/' :: cs => some ('/', cs)
        | 'b' :: cs => some (Char.ofNat 8, cs)
        | 'f' :: cs => some (Char.ofNat 12, cs)
        | 'n' :: cs => some ('\n', cs)
        | 'r' :: cs => some ('\r', cs)
        | 't' :: cs => some ('\t', cs)
        | 'u' :: cs => readUnicode cs
        | _ => none
      let (ds, rest) ← readString k cs
      return (d :: ds, rest)
    else if c.toNat < 32 then none
    else do
      let (ds, rest) ← readString k cs
      return (c :: ds, rest)

/-! ## Values -/

/-- a keyword, when the text starts with it -/
def keyword (word : List Char) (v : Json) (cs : List Char) : Option (Json × List Char) :=
  if word.isPrefixOf cs then some (v, cs.drop word.length) else none

mutual

/-- the value at the head of a text that starts with no blank -/
def readValue : Nat → List Char → Option (Json × List Char)
  | 0, _ => none
  | _, [] => none
  | k + 1, c :: cs =>
    if c = '"' then (readString (cs.length + 1) cs).map fun p => (.str (String.ofList p.1), p.2)
    else if c = '[' then
      match skipWs cs with
      | ']' :: rest => some (.arr [], rest)
      | cs => (readItems k cs).map fun p => (.arr p.1, p.2)
    else if c = '{' then
      match skipWs cs with
      | '}' :: rest => some (.obj [], rest)
      | cs => (readMembers k cs).map fun p => (.obj (KeyedList.ofList Prod.fst p.1), p.2)
    else if c = '-' then
      (keyword ['I', 'n', 'f', 'i', 'n', 'i', 't', 'y'] (.float (.inf true)) cs).or (readNumber true cs)
    else
      ((keyword ['n', 'u', 'l', 'l'] .null (c :: cs)).or <|
        (keyword ['t', 'r', 'u', 'e'] (.bool true) (c :: cs)).or <|
        (keyword ['f', 'a', 'l', 's', 'e'] (.bool false) (c :: cs)).or <|
        (keyword ['N', 'a', 'N'] (.float .nan) (c :: cs)).or <|
        (keyword ['I', 'n', 'f', 'i', 'n', 'i', 't', 'y'] (.float (.inf false)) (c :: cs)).or
          (readNumber false (c :: cs)))

/-- the items of an array up to its bracket -/
def readItems : Nat → List Char → Option (List Json × List Char)
  | 0, _ => none
  | k + 1, cs =>
    match readValue k cs with
    | some (v, rest) =>
      match skipWs rest with
      | ']' :: rest => some ([v], rest)
      | ',' :: rest => (readItems k (skipWs rest)).map fun p => (v :: p.1, p.2)
      | _ => none
    | none => none

/-- the members of an object up to its brace -/
def readMembers : Nat → List Char → Option (List (String × Json) × List Char)
  | 0, _ => none
  | k + 1, cs =>
    match cs with
    | '"' :: cs =>
      match readString (cs.length + 1) cs with
      | some (key, rest) =>
        match skipWs rest with
        | ':' :: rest =>
          match readValue k (skipWs rest) with
          | some (v, rest) =>
            match skipWs rest with
            | '}' :: rest => some ([(String.ofList key, v)], rest)
            | ',' :: rest => (readMembers k (skipWs rest)).map fun p => ((String.ofList key, v) :: p.1, p.2)
            | _ => none
          | none => none
        | _ => none
      | none => none
    | _ => none

end

/-- `json.loads(text)`; nothing where it raises `JSONDecodeError` -/
def loads (cs : List Char) : Option Json :=
  match readValue (2 * cs.length + 2) (skipWs cs) with
  | some (v, rest) => if (skipWs rest).isEmpty then some v else none
  | none => none

end AtoService.JsonText
