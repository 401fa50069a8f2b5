/-
JSON values as Python holds them, their text, and what a JSONB column keeps of them.

`Json` is what `json.loads` returns and `json.dumps` takes. An object is the list of its members in insertion order. A
finite float is carried as the decimal that `repr` prints for it: a coefficient without trailing zeros and a power of
ten. Texts are lists of characters.

Writing: `dumps` follows `json.dumps(value, ensure_ascii=False, sort_keys=True, separators=...)`.

Storing: a JSONB column holds numbers as exact decimals and prints them in full, so a float of 1e16 or more comes back
as an integer and negative zero as zero (`jsonb`); NaN, the infinities and strings with a NUL are refused
(`storable`). The order of an object's members, which JSONB does not keep either, is left as it is: no function here
reads it. `jsonb_jsonb`: storing once more changes nothing.
-/
import AtoService.Lib.KeyedList
import AtoService.Lib.PyText

namespace AtoService

/-! ## Values -/

/-- a decimal without trailing zeros -/
structure Decimal where
  neg : Bool
  coeff : Nat
  exp : Int
  normal : coeff % 10 ≠ 0 ∨ coeff = 0 ∧ exp = 0
deriving DecidableEq, Repr

inductive PyFloat where
  | nan
  | inf (neg : Bool)
  | finite (d : Decimal)
deriving DecidableEq, Repr

inductive Json where
  | null
  | bool (b : Bool)
  | int (n : Int)
  | float (x : PyFloat)
  | str (s : String)
  | arr (xs : List Json)
  | obj (fields : List (String × Json))
deriving Repr

namespace Json

/-- the value, when it is a string -/
def asStr : Json → Option String
  | .str s => some s
  | _ => none

/-- the members, when it is an object -/
def asObj : Json → Option (List (String × Json))
  | .obj fs => some fs
  | _ => none

/-- the entries, when it is an array -/
def asArr : Json → Option (List Json)
  | .arr xs => some xs
  | _ => none

/-- `fields.get(key)` of an object's members -/
def member (key : String) (fields : List (String × Json)) : Option Json :=
  (KeyedList.get? Prod.fst key fields).map Prod.snd

end Json

/-! ## Writing numbers and strings -/

/-- the decimal digits of a number -/
def digits (n : Nat) : List Char := Nat.toDigits 10 n

namespace Decimal

/-- the number of digits before the decimal point, when the coefficient is read as a fraction of one -/
def point (d : Decimal) : Int := (digits d.coeff).length + d.exp

def sign (d : Decimal) : List Char := if d.neg then ['-'] else []

/-- the exponent part of `repr`: a sign and at least two digits -/
def expText (e : Int) : List Char :=
  let ds := digits e.natAbs
  (if e < 0 then '-' else '+') :: (if ds.length < 2 then '0' :: ds else ds)

/-- `repr(x)` of a finite float: positional while the point stands between -3 and 16, else with an exponent -/
def repr (d : Decimal) : List Char :=
  let ds := digits d.coeff
  if -4 < d.point ∧ d.point ≤ 16 then
    if 0 ≤ d.exp then d.sign ++ ds ++ List.replicate d.exp.toNat '0' ++ ['.', '0']
    else if 0 < d.point then d.sign ++ ds.take d.point.toNat ++ '.' :: ds.drop d.point.toNat
    else d.sign ++ ['0', '.'] ++ List.replicate (-d.point).toNat '0' ++ ds
  else
    match ds with
    | [c] => d.sign ++ c :: 'e' :: expText (d.point - 1)
    | ds => d.sign ++ ds.take 1 ++ '.' :: ds.drop 1 ++ 'e' :: expText (d.point - 1)

/-- a number that JSONB prints without a decimal point: `repr` wrote it with a positive exponent -/
def printsWhole (d : Decimal) : Bool := 16 < d.point

/-- the integer that a decimal with `0 ≤ exp` stands for -/
def toInt (d : Decimal) : Int :=
  let n : Int := d.coeff * 10 ^ d.exp.toNat
  if d.neg then -n else n

/-- the zero that JSONB keeps has no sign -/
def unsigned (d : Decimal) : Decimal := if d.coeff = 0 then { d with neg := false } else d

theorem printsWhole_unsigned (d : Decimal) : d.unsigned.printsWhole = d.printsWhole := by
  unfold unsigned
  split_ifs <;> rfl

theorem unsigned_unsigned (d : Decimal) : d.unsigned.unsigned = d.unsigned := by
  unfold unsigned
  by_cases h : d.coeff = 0 <;> simp [h]

end Decimal

/-- `json.dumps` of a float -/
def PyFloat.text : PyFloat → List Char
  | .nan => ['N', 'a', 'N']
  | .inf neg => (if neg then ['-'] else []) ++ ['I', 'n', 'f', 'i', 'n', 'i', 't', 'y']
  | .finite d => d.repr

def intText (n : Int) : List Char := (if n < 0 then ['-'] else []) ++ digits n.natAbs

def hexChar (n : Nat) : Char := if n < 10 then Char.ofNat (48 + n) else Char.ofNat (87 + n)

/-- the escape of one character with `ensure_ascii=False` -/
def escapeChar (c : Char) : List Char :=
  if c = '"' then ['\\', '"']
  else if c = '\\' then ['\\', '\\']
  else if c = '\n' then ['\\', 'n']
  else if c = '\r' then ['\\', 'r']
  else if c = '\t' then ['\\', 't']
  else if c.toNat = 12 then ['\\', 'f']
  else if c.toNat = 8 then ['\\', 'b']
  else if c.toNat < 32 then ['\\', 'u', '0', '0', hexChar (c.toNat / 16), hexChar (c.toNat % 16)]
  else [c]

def quote (cs : List Char) : List Char := '"' :: cs.flatMap escapeChar ++ ['"']

/-! ## Writing values -/

/-- `separators=(item, key)` -/
structure Separators where
  item : List Char
  key : List Char

/-- the default `(", ", ": ")` -/
def Separators.spaced : Separators := ⟨[',', ' '], [':', ' ']⟩

/-- `(",", ":")` -/
def Separators.compact : Separators := ⟨[','], [':']⟩

/-- texts joined by a separator -/
def joinText (sep : List Char) : List (List Char) → List Char
  | [] => []
  | [t] => t
  | t :: ts => t ++ sep ++ joinText sep ts

namespace Json

mutual

/-- `json.dumps(value, ensure_ascii=False, sort_keys=True, separators=...)` -/
def dumps (f : Separators) : Json → List Char
  | .null => ['n', 'u', 'l', 'l']
  | .bool b => if b then ['t', 'r', 'u', 'e'] else ['f', 'a', 'l', 's', 'e']
  | .int n => intText n
  | .float x => x.text
  | .str s => quote (Py.chars s)
  | .arr xs => '[' :: joinText f.item (dumpsItems f xs) ++ [']']
  | .obj fs => '{' :: joinText f.item ((KeyedList.sorted Prod.fst (dumpsFields f fs)).map Prod.snd) ++ ['}']

def dumpsItems (f : Separators) : List Json → List (List Char)
  | [] => []
  | x :: xs => dumps f x :: dumpsItems f xs

/-- each member with its key, which `sort_keys` sorts by, and its text -/
def dumpsFields (f : Separators) : List (String × Json) → List (String × List Char)
  | [] => []
  | (k, v) :: fs => (k, quote (Py.chars k) ++ f.key ++ dumps f v) :: dumpsFields f fs

end

/-! ## A JSONB column -/

mutual

/-- a value stored in a JSONB column and read back -/
def jsonb : Json → Json
  | .float (.finite d) => if d.printsWhole then .int d.toInt else .float (.finite d.unsigned)
  | .arr xs => .arr (jsonbItems xs)
  | .obj fs => .obj (jsonbFields fs)
  | v => v

def jsonbItems : List Json → List Json
  | [] => []
  | x :: xs => jsonb x :: jsonbItems xs

def jsonbFields : List (String × Json) → List (String × Json)
  | [] => []
  | (k, v) :: fs => (k, jsonb v) :: jsonbFields fs

end

def storableText (s : String) : Bool := !(Py.chars s).contains '\x00'

mutual

/-- what PostgreSQL accepts as JSONB -/
def storable : Json → Bool
  | .float (.finite _) => true
  | .float _ => false
  | .str s => storableText s
  | .arr xs => storableItems xs
  | .obj fs => storableFields fs
  | _ => true

def storableItems : List Json → Bool
  | [] => true
  | x :: xs => storable x && storableItems xs

def storableFields : List (String × Json) → Bool
  | [] => true
  | (k, v) :: fs => storableText k && storable v && storableFields fs

end

@[simp] theorem jsonb_null : jsonb .null = .null := rfl

@[simp] theorem jsonb_bool (b : Bool) : jsonb (.bool b) = .bool b := rfl

@[simp] theorem jsonb_int (n : Int) : jsonb (.int n) = .int n := rfl

@[simp] theorem jsonb_str (s : String) : jsonb (.str s) = .str s := rfl

@[simp] theorem jsonb_arr (xs : List Json) : jsonb (.arr xs) = .arr (xs.map jsonb) := by
  have h : ∀ ys : List Json, jsonbItems ys = ys.map jsonb := by
    intro ys
    induction ys with
    | nil => rfl
    | cons y ys ih => simp [jsonbItems, ih]
  rw [jsonb, h]

theorem jsonbFields_eq (fs : List (String × Json)) : jsonbFields fs = fs.map fun p => (p.1, jsonb p.2) := by
  induction fs with
  | nil => rfl
  | cons p fs ih => simp [jsonbFields, ih]

@[simp] theorem jsonb_obj (fs : List (String × Json)) :
    jsonb (.obj fs) = .obj (fs.map fun p => (p.1, jsonb p.2)) := by
  rw [jsonb, jsonbFields_eq]

@[simp] theorem asStr_str (s : String) : (Json.str s).asStr = some s := rfl

theorem eq_str_of_asStr {v : Json} {s : String} (h : v.asStr = some s) : v = .str s := by
  cases v <;> simp [asStr] at h
  exact h ▸ rfl

/-- entries that are all objects are the objects of their members -/
theorem eq_map_obj {items : List Json} {objects : List (List (String × Json))}
    (h : List.Forall₂ (fun v fields => v.asObj = some fields) items objects) : items = objects.map .obj := by
  induction h with
  | nil => rfl
  | @cons v fields items objects hv _ ih =>
    have hobj : v = .obj fields := by
      cases v <;> simp [asObj] at hv
      exact congrArg Json.obj hv
    rw [List.map_cons, hobj, ih]

/-- strings come back as they were, and nothing else becomes one -/
@[simp] theorem asStr_jsonb (v : Json) : v.jsonb.asStr = v.asStr := by
  cases v with
  | float x =>
    cases x with
    | finite d => by_cases h : d.printsWhole = true <;> simp [jsonb, h, asStr]
    | _ => rfl
  | arr xs => rw [jsonb_arr]; rfl
  | obj fs => rw [jsonb_obj]; rfl
  | _ => rfl

theorem member_nil (key : String) : member key [] = none := rfl

theorem member_cons (key k : String) (v : Json) (fs : List (String × Json)) :
    member key ((k, v) :: fs) = if k = key then some v else member key fs := by
  rw [member, KeyedList.get?_cons]
  split_ifs <;> rfl

theorem member_jsonb (key : String) (fs : List (String × Json)) :
    member key (fs.map fun p => (p.1, jsonb p.2)) = (member key fs).map jsonb := by
  unfold member
  have h : KeyedList.get? Prod.fst key (fs.map fun p => (p.1, jsonb p.2)) =
      (KeyedList.get? Prod.fst key fs).map fun p => (p.1, jsonb p.2) := KeyedList.get?_map (fun _ => rfl) key fs
  rw [h, Option.map_map, Option.map_map]
  rfl

mutual

/-- storing once more changes nothing -/
theorem jsonb_jsonb : ∀ v : Json, v.jsonb.jsonb = v.jsonb
  | .null | .bool _ | .int _ | .str _ | .float .nan | .float (.inf _) => rfl
  | .float (.finite d) => by
    by_cases h : d.printsWhole = true
    · simp [jsonb, h]
    · simp [jsonb, h, Decimal.printsWhole_unsigned, Decimal.unsigned_unsigned]
  | .arr xs => by rw [jsonb, jsonb, jsonbItems_jsonbItems xs]
  | .obj fs => by rw [jsonb, jsonb, jsonbFields_jsonbFields fs]

theorem jsonbItems_jsonbItems : ∀ xs : List Json, jsonbItems (jsonbItems xs) = jsonbItems xs
  | [] => rfl
  | x :: xs => by rw [jsonbItems, jsonbItems, jsonb_jsonb x, jsonbItems_jsonbItems xs]

theorem jsonbFields_jsonbFields : ∀ fs : List (String × Json), jsonbFields (jsonbFields fs) = jsonbFields fs
  | [] => rfl
  | (k, v) :: fs => by rw [jsonbFields, jsonbFields, jsonb_jsonb v, jsonbFields_jsonbFields fs]

end

end Json

end AtoService
