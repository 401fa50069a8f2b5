/-
URL-safe base64: `base64.urlsafe_b64encode` and `base64.urlsafe_b64decode`.

Bytes are numbers below 256. The decoder is the lenient one: it skips what is not of the alphabet, stops at a pad that
completes a group of four, and fails when a group is left open. `decode_encode_pads` reads every text back, and
`decode_encode` one of whole groups of three bytes; `encode_body` takes the pads off; `mem_encode_pad` says which texts
carry pads, and `length_encode` how long they are.
-/
import Mathlib.Data.List.Basic
import Mathlib.Tactic

-- what holds of the characters of a text is decided along the text, not along all characters
attribute [instance (high)] List.decidableBAll List.decidableBEx

namespace AtoService.Base64

/-- the character of six bits -/
def digit (n : Nat) : Char :=
  if n < 26 then Char.ofNat (65 + n)
  else if n < 52 then Char.ofNat (71 + n)
  else if n < 62 then Char.ofNat (n - 4)
  else if n = 62 then '-'
  else '_'

/-- the six bits of a character, of either alphabet -/
def value? (c : Char) : Option Nat :=
  let n := c.toNat
  if 65 ≤ n ∧ n ≤ 90 then some (n - 65)
  else if 97 ≤ n ∧ n ≤ 122 then some (n - 71)
  else if 48 ≤ n ∧ n ≤ 57 then some (n + 4)
  else if c = '-' ∨ c = '+' then some 62
  else if c = '_' ∨ c = '/' then some 63
  else none

/-- `urlsafe_b64encode(bytes)` -/
def encode : List Nat → List Char
  | [] => []
  | [a] => [digit (a / 4), digit (a % 4 * 16), '=', '=']
  | [a, b] => [digit (a / 4), digit (a % 4 * 16 + b / 16), digit (b % 16 * 4), '=']
  | a :: b :: c :: bs =>
    digit (a / 4) :: digit (a % 4 * 16 + b / 16) :: digit (b % 16 * 4 + c / 64) :: digit (c % 64) :: encode bs

/-- the decoder `position` characters into a group, with `left` over from the one before and `pads` seen since -/
def decodeFrom (position left pads : Nat) : List Char → Option (List Nat)
  | [] => if position = 0 then some [] else none
  | c :: cs =>
    if c = '=' then
      if position < 2 then decodeFrom position left pads cs
      else if 4 ≤ position + (pads + 1) then some []
      else decodeFrom position left (pads + 1) cs
    else
      match value? c with
      | none => decodeFrom position left pads cs
      | some v =>
        match position with
        | 0 => decodeFrom 1 v 0 cs
        | 1 => ((left * 4 + v / 16) :: ·) <$> decodeFrom 2 (v % 16) 0 cs
        | 2 => ((left * 16 + v / 4) :: ·) <$> decodeFrom 3 (v % 4) 0 cs
        | _ => ((left * 64 + v) :: ·) <$> decodeFrom 0 0 0 cs

/-- `urlsafe_b64decode(text)`; nothing where it raises -/
def decode (cs : List Char) : Option (List Nat) := decodeFrom 0 0 0 cs

/-- `[A-Za-z0-9_-]` -/
def isUrlSafe (c : Char) : Bool :=
  let n := c.toNat
  (65 ≤ n && n ≤ 90) || (97 ≤ n && n ≤ 122) || (48 ≤ n && n ≤ 57) || c == '_' || c == '-'

/-! ## What is written -/

theorem digit_spec : ∀ n < 64, value? (digit n) = some n ∧ digit n ≠ '=' ∧ isUrlSafe (digit n) = true := by decide

theorem value?_digit {n : Nat} (h : n < 64) : value? (digit n) = some n := (digit_spec n h).1

theorem digit_ne_pad {n : Nat} (h : n < 64) : digit n ≠ '=' := (digit_spec n h).2.1

theorem isUrlSafe_digit {n : Nat} (h : n < 64) : isUrlSafe (digit n) = true := (digit_spec n h).2.2

theorem length_encode (bs : List Nat) : (encode bs).length = 4 * ((bs.length + 2) / 3) := by
  induction bs using encode.induct with
  | case1 => rfl
  | case2 a => simp [encode]
  | case3 a b => simp [encode]
  | case4 a b c bs ih =>
    simp only [encode, List.length_cons, ih]
    omega

/-- the alphabet, and pads -/
theorem isUrlSafe_of_mem_encode {bs : List Nat} (h : ∀ b ∈ bs, b < 256) {c : Char} (hc : c ∈ encode bs) :
    isUrlSafe c = true ∨ c = '=' := by
  induction bs using encode.induct with
  | case1 => cases hc
  | case2 a =>
    have ha := h a (by simp)
    simp only [encode, List.mem_cons, List.not_mem_nil, or_false] at hc
    rcases hc with rfl | rfl | rfl | rfl
    · exact Or.inl (isUrlSafe_digit (by omega))
    · exact Or.inl (isUrlSafe_digit (by omega))
    · exact Or.inr rfl
    · exact Or.inr rfl
  | case3 a b =>
    have ha := h a (by simp)
    have hb := h b (by simp)
    simp only [encode, List.mem_cons, List.not_mem_nil, or_false] at hc
    rcases hc with rfl | rfl | rfl | rfl
    · exact Or.inl (isUrlSafe_digit (by omega))
    · exact Or.inl (isUrlSafe_digit (by omega))
    · exact Or.inl (isUrlSafe_digit (by omega))
    · exact Or.inr rfl
  | case4 a b d bs ih =>
    have ha := h a (by simp)
    have hb := h b (by simp)
    have hd := h d (by simp)
    simp only [encode, List.mem_cons] at hc
    rcases hc with rfl | rfl | rfl | rfl | hc
    · exact Or.inl (isUrlSafe_digit (by omega))
    · exact Or.inl (isUrlSafe_digit (by omega))
    · exact Or.inl (isUrlSafe_digit (by omega))
    · exact Or.inl (isUrlSafe_digit (by omega))
    · exact ih (fun x hx => h x (by simp [hx])) hc

/-- pads stand where the bytes do not fill their groups -/
theorem mem_encode_pad {bs : List Nat} (h : ∀ b ∈ bs, b < 256) : '=' ∈ encode bs ↔ bs.length % 3 ≠ 0 := by
  induction bs using encode.induct with
  | case1 => simp [encode]
  | case2 a => simp [encode]
  | case3 a b => simp [encode]
  | case4 a b d bs ih =>
    have ha := h a (by simp)
    have hb := h b (by simp)
    have hd := h d (by simp)
    have hrest := ih fun x hx => h x (by simp [hx])
    simp only [encode, List.mem_cons, List.length_cons, hrest]
    constructor
    · rintro (hpad | hpad | hpad | hpad | hpad)
      · exact absurd hpad.symm (digit_ne_pad (by omega))
      · exact absurd hpad.symm (digit_ne_pad (by omega))
      · exact absurd hpad.symm (digit_ne_pad (by omega))
      · exact absurd hpad.symm (digit_ne_pad (by omega))
      · omega
    · intro hlength
      exact Or.inr (Or.inr (Or.inr (Or.inr (by omega))))

/-! ## What is read back -/

/-- one character of the alphabet -/
theorem decodeFrom_digit {n : Nat} (h : n < 64) (position left pads : Nat) (cs : List Char) :
    decodeFrom position left pads (digit n :: cs) =
      match position with
      | 0 => decodeFrom 1 n 0 cs
      | 1 => ((left * 4 + n / 16) :: ·) <$> decodeFrom 2 (n % 16) 0 cs
      | 2 => ((left * 16 + n / 4) :: ·) <$> decodeFrom 3 (n % 4) 0 cs
      | _ => ((left * 64 + n) :: ·) <$> decodeFrom 0 0 0 cs := by
  rw [decodeFrom, if_neg (digit_ne_pad h), value?_digit h]

/-- **Whole groups are read back**, before whatever text follows. -/
theorem decode_encode_append {bs : List Nat} (h : ∀ b ∈ bs, b < 256) (hlength : bs.length % 3 = 0) (cs : List Char) :
    decode (encode bs ++ cs) = (bs ++ ·) <$> decode cs := by
  induction bs using encode.induct with
  | case1 =>
    show decode cs = _
    cases decode cs <;> rfl
  | case2 a => simp at hlength
  | case3 a b => simp at hlength
  | case4 a b d bs ih =>
    have ha := h a (by simp)
    have hb := h b (by simp)
    have hd := h d (by simp)
    have hrest := ih (fun x hx => h x (by simp [hx])) (by simp only [List.length_cons] at hlength; omega)
    unfold decode at hrest ⊢
    have h1 : a / 4 < 64 := by omega
    have h2 : a % 4 * 16 + b / 16 < 64 := by omega
    have h3 : b % 16 * 4 + d / 64 < 64 := by omega
    have h4 : d % 64 < 64 := by omega
    rw [encode]
    simp only [List.cons_append, decodeFrom_digit h1, decodeFrom_digit h2, decodeFrom_digit h3, decodeFrom_digit h4, hrest]
    have hfirst : a / 4 * 4 + (a % 4 * 16 + b / 16) / 16 = a := by omega
    have hsecond : (a % 4 * 16 + b / 16) % 16 * 16 + (b % 16 * 4 + d / 64) / 4 = b := by omega
    have hthird : (b % 16 * 4 + d / 64) % 4 * 64 + d % 64 = d := by omega
    rw [hfirst, hsecond, hthird]
    cases decodeFrom 0 0 0 cs <;> rfl

theorem decode_encode {bs : List Nat} (h : ∀ b ∈ bs, b < 256) (hlength : bs.length % 3 = 0) :
    decode (encode bs) = some bs := by
  have hread := decode_encode_append h hlength []
  rw [List.append_nil] at hread
  rw [hread]
  show some (bs ++ []) = some bs
  rw [List.append_nil]

/-- **Every text is read back**, pads and all. -/
theorem decode_encode_pads {bs : List Nat} (h : ∀ b ∈ bs, b < 256) : decode (encode bs) = some bs := by
  induction bs using encode.induct with
  | case1 => rfl
  | case2 a =>
    have ha := h a (by simp)
    have h1 : a / 4 < 64 := by omega
    have h2 : a % 4 * 16 < 64 := by omega
    have hpads : ∀ left, decodeFrom 2 left 0 ['=', '='] = some [] := fun left => rfl
    have hfirst : a / 4 * 4 + a % 4 * 16 / 16 = a := by omega
    rw [encode, decode]
    simp only [decodeFrom_digit h1, decodeFrom_digit h2, hpads, hfirst]
    rfl
  | case3 a b =>
    have ha := h a (by simp)
    have hb := h b (by simp)
    have h1 : a / 4 < 64 := by omega
    have h2 : a % 4 * 16 + b / 16 < 64 := by omega
    have h3 : b % 16 * 4 < 64 := by omega
    have hpad : ∀ left, decodeFrom 3 left 0 ['='] = some [] := fun left => rfl
    have hfirst : a / 4 * 4 + (a % 4 * 16 + b / 16) / 16 = a := by omega
    have hsecond : (a % 4 * 16 + b / 16) % 16 * 16 + b % 16 * 4 / 4 = b := by omega
    rw [encode, decode]
    simp only [decodeFrom_digit h1, decodeFrom_digit h2, decodeFrom_digit h3, hpad, hfirst, hsecond]
    rfl
  | case4 a b d bs ih =>
    have hgroup : ∀ x ∈ [a, b, d], x < 256 := fun x hx => h x (by
      simp only [List.mem_cons, List.not_mem_nil, or_false] at hx ⊢
      tauto)
    have hrest := ih fun x hx => h x (by simp [hx])
    have hread := decode_encode_append hgroup (by simp) (encode bs)
    rw [hrest] at hread
    exact hread

/-- a text is a body without pads and the pads that fill its last group of four -/
theorem encode_body {bs : List Nat} (h : ∀ b ∈ bs, b < 256) : ∃ body k, encode bs = body ++ List.replicate k '=' ∧
    (∀ c ∈ body, isUrlSafe c = true) ∧ k < 3 ∧ (body.length + k) % 4 = 0 := by
  induction bs using encode.induct with
  | case1 => exact ⟨[], 0, rfl, by simp, by decide, rfl⟩
  | case2 a =>
    have ha := h a (by simp)
    refine ⟨[digit (a / 4), digit (a % 4 * 16)], 2, rfl, ?_, by decide, by simp⟩
    intro c hc
    simp only [List.mem_cons, List.not_mem_nil, or_false] at hc
    rcases hc with rfl | rfl
    · exact isUrlSafe_digit (by omega)
    · exact isUrlSafe_digit (by omega)
  | case3 a b =>
    have ha := h a (by simp)
    have hb := h b (by simp)
    refine ⟨[digit (a / 4), digit (a % 4 * 16 + b / 16), digit (b % 16 * 4)], 1, rfl, ?_, by decide, by simp⟩
    intro c hc
    simp only [List.mem_cons, List.not_mem_nil, or_false] at hc
    rcases hc with rfl | rfl | rfl
    · exact isUrlSafe_digit (by omega)
    · exact isUrlSafe_digit (by omega)
    · exact isUrlSafe_digit (by omega)
  | case4 a b d bs ih =>
    have ha := h a (by simp)
    have hb := h b (by simp)
    have hd := h d (by simp)
    obtain ⟨body, k, hbody, hsafe, hk, hlength⟩ := ih fun x hx => h x (by simp [hx])
    refine ⟨digit (a / 4) :: digit (a % 4 * 16 + b / 16) :: digit (b % 16 * 4 + d / 64) :: digit (d % 64) :: body, k,
      by rw [encode, hbody]; rfl, ?_, hk, by simp only [List.length_cons]; omega⟩
    intro c hc
    simp only [List.mem_cons] at hc
    rcases hc with rfl | rfl | rfl | rfl | hc
    · exact isUrlSafe_digit (by omega)
    · exact isUrlSafe_digit (by omega)
    · exact isUrlSafe_digit (by omega)
    · exact isUrlSafe_digit (by omega)
    · exact hsafe c hc

end AtoService.Base64
