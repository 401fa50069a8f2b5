/-
SHA-256 for proofs by evaluation: the same function, with every word worked out once.

`sha256_eq_eval`, `hmacSha256Hex_eq_eval`: rewriting with them makes the digest of a long text cheap to check.
-/
import AtoService.Lib.Sha

namespace AtoService.Sha

theorem force_eq {α : Type} (n : Nat) (f : Nat → α) : force n f = f n := by
  cases n <;> rfl

/-- `rounds256` with the window and the working variables as numbers of their own, each worked out once -/
def evalRounds256 : List Nat → (w₀ w₁ w₂ w₃ w₄ w₅ w₆ w₇ w₈ w₉ w₁₀ w₁₁ w₁₂ w₁₃ w₁₄ w₁₅ a b c d e f g h : Nat) → Hash256
  | [], _, _, _, _, _, _, _, _, _, _, _, _, _, _, _, _, a, b, c, d, e, f, g, h => ⟨a, b, c, d, e, f, g, h⟩
  | k :: ks, w₀, w₁, w₂, w₃, w₄, w₅, w₆, w₇, w₈, w₉, w₁₀, w₁₁, w₁₂, w₁₃, w₁₄, w₁₅,
      a, b, c, d, e, f, g, h =>
    force (add w₀ (add (rotr 7 w₁ ^^^ rotr 18 w₁ ^^^ w₁ / 2 ^ 3)
      (add w₉ (rotr 17 w₁₄ ^^^ rotr 19 w₁₄ ^^^ w₁₄ / 2 ^ 10)))) fun w =>
    force (add h (add (rotr 6 e ^^^ rotr 11 e ^^^ rotr 25 e) (add ((e &&& f) ^^^ (not32 e &&& g)) (add k w₀)))) fun t =>
    force (add t (add (rotr 2 a ^^^ rotr 13 a ^^^ rotr 22 a) ((a &&& b) ^^^ (a &&& c) ^^^ (b &&& c)))) fun a' =>
    force (add d t) fun e' =>
    evalRounds256 ks w₁ w₂ w₃ w₄ w₅ w₆ w₇ w₈ w₉ w₁₀ w₁₁ w₁₂ w₁₃ w₁₄ w₁₅ w a' a b c e' e f g

theorem rounds256_eq (ks : List Nat) (w₀ w₁ w₂ w₃ w₄ w₅ w₆ w₇ w₈ w₉ w₁₀ w₁₁ w₁₂ w₁₃ w₁₄ w₁₅ a b c d e f g h : Nat) :
    rounds256 ks [w₀, w₁, w₂, w₃, w₄, w₅, w₆, w₇, w₈, w₉, w₁₀, w₁₁, w₁₂, w₁₃, w₁₄, w₁₅] ⟨a, b, c, d, e, f, g, h⟩ =
      evalRounds256 ks w₀ w₁ w₂ w₃ w₄ w₅ w₆ w₇ w₈ w₉ w₁₀ w₁₁ w₁₂ w₁₃ w₁₄ w₁₅ a b c d e f g h := by
  induction ks generalizing w₀ w₁ w₂ w₃ w₄ w₅ w₆ w₇ w₈ w₉ w₁₀ w₁₁ w₁₂ w₁₃ w₁₄ w₁₅ a b c d e f g h with
  | nil => rfl
  | cons k ks ih =>
    simp only [rounds256, evalRounds256, force_eq, round256, nextWord256]
    exact ih ..

def evalBlock256 (s : Hash256) : List Nat → Hash256
  | [w₀, w₁, w₂, w₃, w₄, w₅, w₆, w₇, w₈, w₉, w₁₀, w₁₁, w₁₂, w₁₃, w₁₄, w₁₅] =>
    force s.a fun a => force s.b fun b => force s.c fun c => force s.d fun d =>
    force s.e fun e => force s.f fun f => force s.g fun g => force s.h fun h =>
    force w₀ fun w₀ => force w₁ fun w₁ => force w₂ fun w₂ => force w₃ fun w₃ =>
    force w₄ fun w₄ => force w₅ fun w₅ => force w₆ fun w₆ => force w₇ fun w₇ =>
    force w₈ fun w₈ => force w₉ fun w₉ => force w₁₀ fun w₁₀ => force w₁₁ fun w₁₁ =>
    force w₁₂ fun w₁₂ => force w₁₃ fun w₁₃ => force w₁₄ fun w₁₄ => force w₁₅ fun w₁₅ =>
    let r := evalRounds256 constants256 w₀ w₁ w₂ w₃ w₄ w₅ w₆ w₇ w₈ w₉ w₁₀ w₁₁ w₁₂ w₁₃ w₁₄ w₁₅ a b c d e f g h
    ⟨add a r.a, add b r.b, add c r.c, add d r.d, add e r.e, add f r.f, add g r.g, add h r.h⟩
  | ws => block256 s ws

theorem block256_eq (s : Hash256) (ws : List Nat) : block256 s ws = evalBlock256 s ws := by
  unfold evalBlock256
  split
  · simp only [force_eq, block256, ← rounds256_eq]
  · rfl

/-- `sha256`, for a proof by evaluation -/
def evalSha256 (bs : List Nat) : List Nat :=
  let s := (messageBlocks bs).foldl evalBlock256 initial256
  [s.a, s.b, s.c, s.d, s.e, s.f, s.g, s.h].flatMap (bytesOf 4)

theorem sha256_eq_eval (bs : List Nat) : sha256 bs = evalSha256 bs := by
  have hblock : block256 = evalBlock256 := funext fun s => funext fun ws => block256_eq s ws
  rw [sha256, hblock]
  rfl

/-- `hmacSha256Hex`, for a proof by evaluation -/
def evalHmacSha256Hex (key message : List Nat) : String :=
  let key := if 64 < key.length then evalSha256 key else key
  hex (evalSha256 (xorPad 0x5c key ++ evalSha256 (xorPad 0x36 key ++ message)))

theorem hmacSha256Hex_eq_eval (key : List Nat) : hmacSha256Hex key = evalHmacSha256Hex key := by
  funext message
  simp only [hmacSha256Hex, evalHmacSha256Hex, sha256_eq_eval]

end AtoService.Sha
