/-
UTF-8, SHA-256 and SHA-1, on lists of numbers.

A byte is a number below 256 and a word a number below 2^32; sums are taken `% 2^32`. A text is given by its
characters. `sha256Hex` and `sha1` are what `hashlib.sha256(s.encode("utf-8")).hexdigest()` and
`hashlib.sha1(bytes).digest()` return, `hmacSha256Hex` what `hmac.new(key, bytes, hashlib.sha256).hexdigest()` does.

`utf8_injective`: no two texts have the same bytes. `sha256Hex_length` and `sha256Hex_digits` give the shape of a digest:
sixty-four lowercase hexadecimal digits, whatever is hashed.
-/
import Mathlib.Tactic

namespace AtoService.Sha

/-! ## Bytes -/

/-- `chr(n).encode("utf-8")` -/
def utf8Char (c : Char) : List Nat :=
  let n := c.toNat
  if n < 0x80 then [n]
  else if n < 0x800 then [0xC0 + n / 64, 0x80 + n % 64]
  else if n < 0x10000 then [0xE0 + n / 4096, 0x80 + n / 64 % 64, 0x80 + n % 64]
  else [0xF0 + n / 262144, 0x80 + n / 4096 % 64, 0x80 + n / 64 % 64, 0x80 + n % 64]

def utf8 (cs : List Char) : List Nat := cs.flatMap utf8Char

/-- `n` in `k` bytes, most significant first -/
def bytesOf : Nat → Nat → List Nat
  | 0, _ => []
  | k + 1, n => n / 256 ^ k % 256 :: bytesOf k n

def hexDigit (n : Nat) : Char := if n < 10 then Char.ofNat (48 + n) else Char.ofNat (87 + n)

/-- `bytes.hex()` -/
def hex (bs : List Nat) : String := String.ofList (bs.flatMap fun b => [hexDigit (b / 16), hexDigit (b % 16)])

def word (b₀ b₁ b₂ b₃ : Nat) : Nat := ((b₀ * 256 + b₁) * 256 + b₂) * 256 + b₃

def words : List Nat → List Nat
  | b₀ :: b₁ :: b₂ :: b₃ :: bs => word b₀ b₁ b₂ b₃ :: words bs
  | _ => []

/-- the padded message of both hashes: a one bit, zero bits, and the length in bits -/
def padding (bs : List Nat) : List Nat :=
  bs ++ 0x80 :: List.replicate ((119 - bs.length % 64) % 64) 0 ++ bytesOf 8 (8 * bs.length)

/-- the message in blocks of sixteen words; `k` bounds their number -/
def blocks : Nat → List Nat → List (List Nat)
  | 0, _ => []
  | k + 1, ws => if ws.isEmpty then [] else ws.take 16 :: blocks k (ws.drop 16)

def messageBlocks (bs : List Nat) : List (List Nat) :=
  let ws := words (padding bs)
  blocks (ws.length / 16) ws

/-! ## Words -/

def add (x y : Nat) : Nat := (x + y) % 0x100000000

def rotr (k x : Nat) : Nat := x / 2 ^ k + x % 2 ^ k * 2 ^ (32 - k)

def rotl (k x : Nat) : Nat := rotr (32 - k) x

def not32 (x : Nat) : Nat := 0xFFFFFFFF - x

/-- `f n`, with `n` worked out before it is handed on: a proof by evaluation then computes each word once -/
def force {α : Type} (n : Nat) (f : Nat → α) : α :=
  match n with
  | 0 => f 0
  | k + 1 => f (k + 1)

/-! ## SHA-256 -/

/-- the working variables of SHA-256 -/
structure Hash256 where
  a : Nat
  b : Nat
  c : Nat
  d : Nat
  e : Nat
  f : Nat
  g : Nat
  h : Nat
deriving DecidableEq, Repr

def initial256 : Hash256 :=
  ⟨0x6a09e667, 0xbb67ae85, 0x3c6ef372, 0xa54ff53a, 0x510e527f, 0x9b05688c, 0x1f83d9ab, 0x5be0cd19⟩

def constants256 : List Nat :=
  [0x428a2f98, 0x71374491, 0xb5c0fbcf, 0xe9b5dba5, 0x3956c25b, 0x59f111f1, 0x923f82a4, 0xab1c5ed5,
   0xd807aa98, 0x12835b01, 0x243185be, 0x550c7dc3, 0x72be5d74, 0x80deb1fe, 0x9bdc06a7, 0xc19bf174,
   0xe49b69c1, 0xefbe4786, 0x0fc19dc6, 0x240ca1cc, 0x2de92c6f, 0x4a7484aa, 0x5cb0a9dc, 0x76f988da,
   0x983e5152, 0xa831c66d, 0xb00327c8, 0xbf597fc7, 0xc6e00bf3, 0xd5a79147, 0x06ca6351, 0x14292967,
   0x27b70a85, 0x2e1b2138, 0x4d2c6dfc, 0x53380d13, 0x650a7354, 0x766a0abb, 0x81c2c92e, 0x92722c85,
   0xa2bfe8a1, 0xa81a664b, 0xc24b8b70, 0xc76c51a3, 0xd192e819, 0xd6990624, 0xf40e3585, 0x106aa070,
   0x19a4c116, 0x1e376c08, 0x2748774c, 0x34b0bcb5, 0x391c0cb3, 0x4ed8aa4a, 0x5b9cca4f, 0x682e6ff3,
   0x748f82ee, 0x78a5636f, 0x84c87814, 0x8cc70208, 0x90befffa, 0xa4506ceb, 0xbef9a3f7, 0xc67178f2]

/-- one round, for the round's constant and the schedule's word -/
def round256 (s : Hash256) (k w : Nat) : Hash256 :=
  let s1 := rotr 6 s.e ^^^ rotr 11 s.e ^^^ rotr 25 s.e
  let ch := (s.e &&& s.f) ^^^ (not32 s.e &&& s.g)
  let t1 := add s.h (add s1 (add ch (add k w)))
  let s0 := rotr 2 s.a ^^^ rotr 13 s.a ^^^ rotr 22 s.a
  let maj := (s.a &&& s.b) ^^^ (s.a &&& s.c) ^^^ (s.b &&& s.c)
  force (add t1 (add s0 maj)) fun a => force (add s.d t1) fun e => ⟨a, s.a, s.b, s.c, e, s.e, s.f, s.g⟩

/-- the next word of the schedule, from the sixteen words before it -/
def nextWord256 (ws : List Nat) : Nat :=
  let w15 := ws.getD 1 0
  let w2 := ws.getD 14 0
  let s0 := rotr 7 w15 ^^^ rotr 18 w15 ^^^ w15 / 2 ^ 3
  let s1 := rotr 17 w2 ^^^ rotr 19 w2 ^^^ w2 / 2 ^ 10
  add (ws.getD 0 0) (add s0 (add (ws.getD 9 0) s1))

/-- the rounds of one block; the list `ws` is the window of the schedule's sixteen words still to come -/
def rounds256 : List Nat → List Nat → Hash256 → Hash256
  | [], _, s => s
  | k :: ks, ws, s =>
    force (nextWord256 ws) fun w => rounds256 ks (ws.drop 1 ++ [w]) (round256 s k (ws.getD 0 0))

def block256 (s : Hash256) (ws : List Nat) : Hash256 :=
  let r := rounds256 constants256 ws s
  ⟨add s.a r.a, add s.b r.b, add s.c r.c, add s.d r.d, add s.e r.e, add s.f r.f, add s.g r.g, add s.h r.h⟩

def sha256 (bs : List Nat) : List Nat :=
  let s := (messageBlocks bs).foldl block256 initial256
  [s.a, s.b, s.c, s.d, s.e, s.f, s.g, s.h].flatMap (bytesOf 4)

def sha256Hex (cs : List Char) : String := hex (sha256 (utf8 cs))

/-! ## HMAC -/

def xorPad (pad : Nat) (key : List Nat) : List Nat := (key ++ List.replicate (64 - key.length) 0).map (· ^^^ pad)

/-- `hmac.new(key, message, hashlib.sha256).hexdigest()` -/
def hmacSha256Hex (key message : List Nat) : String :=
  let key := if 64 < key.length then sha256 key else key
  hex (sha256 (xorPad 0x5c key ++ sha256 (xorPad 0x36 key ++ message)))

/-! ## SHA-1 -/

structure Hash1 where
  a : Nat
  b : Nat
  c : Nat
  d : Nat
  e : Nat
deriving DecidableEq, Repr

def round1 (t : Nat) (s : Hash1) (w : Nat) : Hash1 :=
  let (f, k) :=
    if t < 20 then ((s.b &&& s.c) ||| (not32 s.b &&& s.d), 0x5A827999)
    else if t < 40 then (s.b ^^^ s.c ^^^ s.d, 0x6ED9EBA1)
    else if t < 60 then ((s.b &&& s.c) ||| (s.b &&& s.d) ||| (s.c &&& s.d), 0x8F1BBCDC)
    else (s.b ^^^ s.c ^^^ s.d, 0xCA62C1D6)
  ⟨add (rotl 5 s.a) (add f (add s.e (add k w))), s.a, rotl 30 s.b, s.c, s.d⟩

def nextWord1 (ws : List Nat) : Nat := rotl 1 (ws.getD 13 0 ^^^ ws.getD 8 0 ^^^ ws.getD 2 0 ^^^ ws.getD 0 0)

def rounds1 : List Nat → List Nat → Hash1 → Hash1
  | [], _, s => s
  | t :: ts, ws, s => rounds1 ts (ws.drop 1 ++ [nextWord1 ws]) (round1 t s (ws.getD 0 0))

def block1 (s : Hash1) (ws : List Nat) : Hash1 :=
  let r := rounds1 (List.range 80) ws s
  ⟨add s.a r.a, add s.b r.b, add s.c r.c, add s.d r.d, add s.e r.e⟩

def sha1 (bs : List Nat) : List Nat :=
  let s := (messageBlocks bs).foldl block1 ⟨0x67452301, 0xEFCDAB89, 0x98BADCFE, 0x10325476, 0xC3D2E1F0⟩
  [s.a, s.b, s.c, s.d, s.e].flatMap (bytesOf 4)

/-! ## UTF-8 is read back -/

/-- the first byte of a character tells how many follow -/
theorem utf8Char_append {c c' : Char} {bs bs' : List Nat} (h : utf8Char c ++ bs = utf8Char c' ++ bs') :
    c = c' ∧ bs = bs' := by
  have hc : c.toNat < 0x110000 := by
    have := c.valid
    rcases this with h | ⟨-, h⟩
    · exact Nat.lt_trans h (by decide)
    · exact h
  have hc' : c'.toNat < 0x110000 := by
    have := c'.valid
    rcases this with h | ⟨-, h⟩
    · exact Nat.lt_trans h (by decide)
    · exact h
  have hnat : c.toNat = c'.toNat ∧ bs = bs' := by
    unfold utf8Char at h
    dsimp only at h
    split_ifs at h <;> simp only [List.cons_append, List.nil_append, List.cons.injEq] at h
    all_goals first
      | exact ⟨by omega, by tauto⟩
      | (exfalso; omega)
  exact ⟨Char.ext (UInt32.toNat_inj.1 hnat.1), hnat.2⟩

theorem utf8Char_ne_nil (c : Char) : utf8Char c ≠ [] := by
  unfold utf8Char
  dsimp only
  split_ifs <;> simp

theorem utf8_injective {cs cs' : List Char} (h : utf8 cs = utf8 cs') : cs = cs' := by
  induction cs generalizing cs' with
  | nil =>
    cases cs' with
    | nil => rfl
    | cons c' cs' =>
      rw [utf8, utf8, List.flatMap_nil, List.flatMap_cons] at h
      exact absurd (List.append_eq_nil_iff.1 h.symm).1 (utf8Char_ne_nil c')
  | cons c cs ih =>
    cases cs' with
    | nil =>
      rw [utf8, utf8, List.flatMap_nil, List.flatMap_cons] at h
      exact absurd (List.append_eq_nil_iff.1 h).1 (utf8Char_ne_nil c)
    | cons c' cs' =>
      rw [utf8, utf8, List.flatMap_cons, List.flatMap_cons] at h
      obtain ⟨rfl, hrest⟩ := utf8Char_append h
      rw [ih hrest]

/-! ## The shape of a digest -/

theorem bytesOf_length (k n : Nat) : (bytesOf k n).length = k := by
  induction k with
  | zero => rfl
  | succ k ih => simp [bytesOf, ih]

theorem bytesOf_lt {k n b : Nat} (h : b ∈ bytesOf k n) : b < 256 := by
  induction k with
  | zero => simp [bytesOf] at h
  | succ k ih =>
    rw [bytesOf, List.mem_cons] at h
    rcases h with rfl | h
    · exact Nat.mod_lt _ (by decide)
    · exact ih h

theorem sha256_length (bs : List Nat) : (sha256 bs).length = 32 := by
  simp [sha256, bytesOf_length]

theorem sha256_lt {bs : List Nat} {b : Nat} (h : b ∈ sha256 bs) : b < 256 := by
  rw [sha256, List.mem_flatMap] at h
  obtain ⟨w, -, hb⟩ := h
  exact bytesOf_lt hb

/-- the characters of a hexadecimal digest -/
def IsHexDigit (c : Char) : Prop := c ∈ "0123456789abcdef".toList

theorem hexDigit_isHexDigit : ∀ n < 16, IsHexDigit (hexDigit n) := by
  unfold IsHexDigit
  decide

theorem hex_length (bs : List Nat) : (hex bs).length = 2 * bs.length := by
  rw [hex, String.length_ofList]
  induction bs with
  | nil => rfl
  | cons b bs ih => simp [ih]; omega

theorem hex_digits {bs : List Nat} (h : ∀ b ∈ bs, b < 256) : ∀ c ∈ (hex bs).toList, IsHexDigit c := by
  intro c hc
  rw [hex, String.toList_ofList, List.mem_flatMap] at hc
  obtain ⟨b, hb, hc⟩ := hc
  have hlt := h b hb
  rcases List.mem_cons.1 hc with rfl | hc
  · exact hexDigit_isHexDigit _ (by omega)
  · rw [List.mem_singleton] at hc
    exact hc ▸ hexDigit_isHexDigit _ (by omega)

theorem hmacSha256Hex_length (key message : List Nat) : (hmacSha256Hex key message).length = 64 := by
  rw [hmacSha256Hex, hex_length, sha256_length]

theorem hmacSha256Hex_digits (key message : List Nat) : ∀ c ∈ (hmacSha256Hex key message).toList, IsHexDigit c :=
  hex_digits fun _ hb => sha256_lt hb

/-- **A digest has sixty-four characters.** -/
theorem sha256Hex_length (cs : List Char) : (sha256Hex cs).length = 64 := by
  rw [sha256Hex, hex_length, sha256_length]

/-- **A digest is written in lowercase hexadecimal.** -/
theorem sha256Hex_digits (cs : List Char) : ∀ c ∈ (sha256Hex cs).toList, IsHexDigit c := hex_digits fun _ hb => sha256_lt hb

example : sha256Hex ['a', 'b', 'c'] = "ba7816bf8f01cfea414140de5dae2223b00361a396177a9cb410ff61f20015ad" := by
  decide +kernel

example : hmacSha256Hex (utf8 ['k', 'e', 'y']) (utf8 ['a', 'b', 'c']) =
    "9c196e32dc0175f86f4b1cb89289d6619de6bee699e4c378e68309ed97a1a6ab" := by
  decide +kernel

example : hex (sha1 (utf8 ['a', 'b', 'c'])) = "a9993e364706816aba3e25717850c26c9cd0d89d" := by decide +kernel

end AtoService.Sha
