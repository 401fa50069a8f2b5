/-
Python text: `str.isspace`, `str.strip`, `str.lstrip(cs)`, `str.splitlines`, on Lean strings read as sequences of
code points.

`hasText s` is the test `bool(s.strip())`; `hasText_iff` reads it by characters and `hasText_strip` says that
stripping does not change it. `strip_strip`: stripping is done once and for all. `chars_eq`: the characters that are read
off the bytes of a plain text are its characters; lengths and orders are decided on them, so that definitions over texts
can be run.
-/
import Mathlib.Data.String.Basic
import Mathlib.Tactic

namespace AtoService.Py

/-! ## Characters -/

/-- the characters of a text; plain ASCII is read off its bytes -/
def chars (s : String) : List Char :=
  if s.toByteArray.data.toList.all (fun b => b.toNat < 128) then s.toByteArray.data.toList.map fun b => Char.ofNat b.toNat
  else s.toList

theorem utf8EncodeChar_ascii {c : Char} (h : ∀ b ∈ String.utf8EncodeChar c, b.toNat < 128) :
    (String.utf8EncodeChar c).map (fun b => Char.ofNat b.toNat) = [c] := by
  unfold String.utf8EncodeChar at h ⊢
  simp only at h ⊢
  -- a character of more than one byte starts with a byte from 192 on
  split_ifs at h ⊢ with h₁ h₂ h₃
  · have hc : (UInt8.ofNat c.val.toNat).toNat = c.toNat := by
      exact Nat.mod_eq_of_lt (show c.val.toNat < 2 ^ 8 by omega)
    rw [List.map_singleton, hc, Char.ofNat_toNat]
  · have h' := h _ List.mem_cons_self
    simp at h'
    omega
  · have h' := h _ List.mem_cons_self
    simp at h'
    omega
  · have h' := h _ List.mem_cons_self
    simp at h'
    omega

theorem chars_eq (s : String) : chars s = s.toList := by
  have hbytes : s.toByteArray.data.toList = s.toList.flatMap String.utf8EncodeChar := by
    rw [← String.utf8Encode_toList, List.utf8Encode]
    simp
  have hascii : ∀ cs : List Char, (cs.flatMap String.utf8EncodeChar).all (fun b => b.toNat < 128) = true →
      (cs.flatMap String.utf8EncodeChar).map (fun b => Char.ofNat b.toNat) = cs := by
    intro cs h
    induction cs with
    | nil => rfl
    | cons c cs ih =>
      rw [List.flatMap_cons, List.all_append, Bool.and_eq_true] at h
      rw [List.flatMap_cons, List.map_append, ih h.2, utf8EncodeChar_ascii (by simpa using h.1)]
      rfl
  unfold chars
  rw [hbytes]
  split_ifs with h
  · exact hascii _ h
  · rfl

instance (priority := high) decidableLengthLe (s : String) (n : Nat) : Decidable (s.length ≤ n) :=
  decidable_of_iff ((chars s).length ≤ n) (by rw [chars_eq]; rfl)

instance (priority := high) decidableLeLength (s : String) (n : Nat) : Decidable (n ≤ s.length) :=
  decidable_of_iff (n ≤ (chars s).length) (by rw [chars_eq]; rfl)

instance (priority := high) decidableLengthLt (s : String) (n : Nat) : Decidable (s.length < n) :=
  decidable_of_iff ((chars s).length < n) (by rw [chars_eq]; rfl)

instance (priority := high) decidableLe (s t : String) : Decidable (s ≤ t) :=
  decidable_of_iff (chars s ≤ chars t) (by rw [chars_eq, chars_eq]; exact String.le_iff_toList_le.symm)

/-- `str.isspace` of one character -/
def isSpace (c : Char) : Bool :=
  let n := c.toNat
  (9 ≤ n && n ≤ 13) || (28 ≤ n && n ≤ 32) || n == 0x85 || n == 0xA0 || n == 0x1680 || (0x2000 ≤ n && n ≤ 0x200A) ||
    n == 0x2028 || n == 0x2029 || n == 0x202F || n == 0x205F || n == 0x3000

/-- drop at the end what `p` holds of -/
def rstripChars (p : Char → Bool) (cs : List Char) : List Char := (cs.reverse.dropWhile p).reverse

def stripChars (p : Char → Bool) (cs : List Char) : List Char := rstripChars p (cs.dropWhile p)

/-- `s.strip()` -/
def strip (s : String) : String := String.ofList (stripChars isSpace (chars s))

/-- `s.lstrip(cs)` -/
def lstripOf (cs : List Char) (s : String) : String := String.ofList ((chars s).dropWhile fun c => cs.contains c)

/-- `bool(s.strip())` -/
def hasText (s : String) : Bool := strip s != ""

/-- the characters at which `splitlines` ends a line -/
def isLineBreak (c : Char) : Bool :=
  let n := c.toNat
  (10 ≤ n && n ≤ 13) || (28 ≤ n && n ≤ 30) || n == 0x85 || n == 0x2028 || n == 0x2029

/-- `splitlines` on characters; `cur` is the line read so far, reversed. `\r\n` is one break. -/
def splitLinesAux : List Char → List Char → List String
  | cur, [] => if cur.isEmpty then [] else [String.ofList cur.reverse]
  | cur, [c] => if isLineBreak c then [String.ofList cur.reverse] else [String.ofList (c :: cur).reverse]
  | cur, c :: c' :: cs =>
    if c = '\r' ∧ c' = '\n' then String.ofList cur.reverse :: splitLinesAux [] cs
    else if isLineBreak c then String.ofList cur.reverse :: splitLinesAux [] (c' :: cs)
    else splitLinesAux (c :: cur) (c' :: cs)

/-- `s.splitlines()` -/
def splitLines (s : String) : List String := splitLinesAux [] (chars s)

/-! ## Stripping -/

section Strip

variable {p : Char → Bool} {cs : List Char}

theorem dropWhile_eq_nil : cs.dropWhile p = [] ↔ ∀ c ∈ cs, p c = true := by
  induction cs with
  | nil => simp
  | cons c cs ih =>
    by_cases h : p c = true
    · simp [h, ih]
    · simp [h]

theorem dropWhile_dropWhile : (cs.dropWhile p).dropWhile p = cs.dropWhile p := by
  induction cs with
  | nil => rfl
  | cons c cs ih =>
    by_cases h : p c = true
    · simpa [h] using ih
    · simp [h]

theorem dropWhile_eq_self (h : ∀ c ∈ cs.head?, p c = false) : cs.dropWhile p = cs := by
  cases cs with
  | nil => rfl
  | cons c cs => simp [h c rfl]

theorem head?_dropWhile (c : Char) (h : c ∈ (cs.dropWhile p).head?) : p c = false := by
  induction cs with
  | nil => simp at h
  | cons d cs ih =>
    by_cases hd : p d = true
    · exact ih (by simpa [hd] using h)
    · have : c = d := by simpa [hd, eq_comm] using h
      simpa [this] using hd

/-- dropping at the end keeps the first character unless it drops everything -/
theorem head?_rstripChars (h : ∀ c ∈ cs.head?, p c = false) : (rstripChars p cs).head? = cs.head? := by
  cases cs with
  | nil => rfl
  | cons c cs =>
    have hc : p c = false := h c rfl
    have key : ∀ ds : List Char, ∃ es, (ds ++ [c]).dropWhile p = es ++ [c] := by
      intro ds
      induction ds with
      | nil => exact ⟨[], by simp [hc]⟩
      | cons d ds ih =>
        by_cases hd : p d = true
        · simpa [hd] using ih
        · exact ⟨d :: ds, by simp [hd]⟩
    obtain ⟨es, hes⟩ := key cs.reverse
    simp [rstripChars, hes]

theorem stripChars_eq_nil : stripChars p cs = [] ↔ ∀ c ∈ cs, p c = true := by
  have hnil : ∀ ds : List Char, rstripChars p ds = [] ↔ ∀ c ∈ ds, p c = true := by
    intro ds
    rw [rstripChars, List.reverse_eq_nil_iff, dropWhile_eq_nil]
    simp
  rw [stripChars, hnil, ← dropWhile_eq_nil, dropWhile_dropWhile, dropWhile_eq_nil]

theorem stripChars_stripChars : stripChars p (stripChars p cs) = stripChars p cs := by
  have hhead : ∀ c ∈ (stripChars p cs).head?, p c = false := by
    intro c hc
    rw [stripChars, head?_rstripChars fun d hd => head?_dropWhile d hd] at hc
    exact head?_dropWhile c hc
  conv_lhs => rw [stripChars, dropWhile_eq_self hhead]
  simp only [stripChars, rstripChars, List.reverse_reverse, dropWhile_dropWhile]

/-- what is left ends with a character that is not stripped -/
theorem getLast?_stripChars (c : Char) (h : c ∈ (stripChars p cs).getLast?) : p c = false := by
  rw [stripChars, rstripChars, List.getLast?_reverse] at h
  exact head?_dropWhile c h

end Strip

theorem strip_strip (s : String) : strip (strip s) = strip s := by
  simp only [strip, chars_eq, String.toList_ofList, stripChars_stripChars]

theorem hasText_iff {s : String} : hasText s = true ↔ ∃ c ∈ s.toList, isSpace c = false := by
  have hnil : strip s = "" ↔ ∀ c ∈ s.toList, isSpace c = true := by
    rw [← stripChars_eq_nil, strip, chars_eq, ← String.toList_inj, String.toList_ofList]
    exact Iff.rfl
  rw [hasText, bne_iff_ne, ne_eq, hnil]
  simp

theorem hasText_strip (s : String) : hasText (strip s) = hasText s := by
  simp only [hasText, strip_strip]

theorem hasText_of_ne {s : String} (h : strip s ≠ "") : hasText s = true := bne_iff_ne.2 h

@[simp] theorem hasText_empty : hasText "" = false := by decide

/-- text that starts with a character other than blank space is not blank -/
theorem hasText_of_head {s : String} {c : Char} {cs : List Char} (h : s.toList = c :: cs) (hc : isSpace c = false) :
    hasText s = true :=
  hasText_iff.2 ⟨c, by simp [h], hc⟩

end AtoService.Py
