/-
Literal text of a pattern with `re.IGNORECASE`: the small letters and signs of ASCII, and what else they take.
-/
import AtoService.Lib.PyText

namespace AtoService.Py

/-- a small letter or a sign of a pattern takes the character -/
def takesChar (p c : Char) : Bool :=
  c.toLower = p || p = 'i' && (c.toNat = 0x130 || c.toNat = 0x131) || p = 's' && c.toNat = 0x17f ||
    p = 'k' && c.toNat = 0x212a

/-- what follows the word -/
def dropWord : List Char → List Char → Option (List Char)
  | [], cs => some cs
  | p :: ps, c :: cs => if takesChar p c then dropWord ps cs else none
  | _ :: _, [] => none

end AtoService.Py
