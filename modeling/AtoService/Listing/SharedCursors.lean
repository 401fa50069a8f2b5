/-
The shared cursors of `pagination.py`, and the lists that page with them.

The encoder writes the six digits of a fraction of a second, and none for a whole second; the decoder wants a fraction
without trailing zeros. So a cursor is read back exactly where its time has no fraction, or one that needs all six digits
(`cursorRoundTrips_iff`). The decoder itself refuses every other text as an invalid cursor (`decodePaginationCursor_total`).
`sharedCursors_iff`: review comments, package revisions and systems are read in full exactly where the rows that end
a page have such times.
-/
import AtoService.Listing.Pages

namespace AtoService.Listing

open AtoService.Audit AtoService.JsonText
open AtoService.Json (member)
open AtoService.Keyset (listPage ordered Follows PageEnds RoundTrips Refused)
open AtoService.Results (ensure orRaise)
open AtoService.Workspace (Uuid)

/-! ## Aware times -/

/-- `datetime(year, month, day, hour, minute, second, microsecond)`; nothing where it raises `ValueError` -/
def instant? (year month day hour minute second microsecond : Nat) : Option Instant :=
  if h : (1 ≤ year ∧ year ≤ 9999) ∧ (1 ≤ month ∧ month ≤ 12) ∧ (1 ≤ day ∧ day ≤ daysInMonth year month) ∧
      hour < 24 ∧ minute < 60 ∧ second < 60 ∧ microsecond < 1000000 then
    some ⟨year, month, day, hour, minute, second, microsecond, h.1, h.2.1, h.2.2.1, h.2.2.2⟩
  else none

/-- an aware `datetime`: what its clock shows, and its offset from UTC in microseconds, which is less than a day -/
structure AwareDatetime where
  clock : Instant
  utcoffset : Int
  utcoffset_lt : -86400000000 < utcoffset ∧ utcoffset < 86400000000

namespace AwareDatetime

/-- the day before; none is before the first day of the first year -/
def yesterday (year month day : Nat) : Option (Nat × Nat × Nat) :=
  if 1 < day then some (year, month, day - 1)
  else if 1 < month then some (year, month - 1, daysInMonth year (month - 1))
  else if 1 < year then some (year - 1, 12, 31)
  else none

/-- the day after; none is after the last day of year 9999 -/
def tomorrow (year month day : Nat) : Option (Nat × Nat × Nat) :=
  if day < daysInMonth year month then some (year, month, day + 1)
  else if month < 12 then some (year, month + 1, 1)
  else if year < 9999 then some (year + 1, 1, 1)
  else none

/-- the microseconds since midnight -/
def microseconds (t : Instant) : Int :=
  ((t.hour * 60 + t.minute) * 60 + t.second) * 1000000 + t.microsecond

/-- `t.astimezone(timezone.utc)`; nothing where it raises `OverflowError` -/
def utc? (t : AwareDatetime) : Option Instant := do
  let elapsed := microseconds t.clock - t.utcoffset
  let (year, month, day) ←
    if elapsed < 0 then yesterday t.clock.year t.clock.month t.clock.day
    else if elapsed < 86400000000 then some (t.clock.year, t.clock.month, t.clock.day)
    else tomorrow t.clock.year t.clock.month t.clock.day
  let n := (elapsed % 86400000000).toNat
  instant? year month day (n / 3600000000) (n / 60000000 % 60) (n / 1000000 % 60) (n % 1000000)

/-- the time of a row, as the database gives it -/
def ofUtc (t : Instant) : AwareDatetime := ⟨t, 0, by decide⟩

end AwareDatetime

/-! ## Times in cursors -/

/-- `f"{n:04d}"`, of a year -/
def fourDigits (n : Nat) : List Char :=
  [Nat.digitChar (n / 1000), Nat.digitChar (n / 100 % 10), Nat.digitChar (n / 10 % 10), Nat.digitChar (n % 10)]

/-- a time up to its second -/
def clockText (t : Instant) : List Char :=
  fourDigits t.year ++ '-' :: twoDigits t.month ++ '-' :: twoDigits t.day ++ 'T' :: twoDigits t.hour ++
    ':' :: twoDigits t.minute ++ ':' :: twoDigits t.second

/-- `value.isoformat(timespec="microseconds")`, of a naive value -/
def isoformat (t : Instant) : List Char := clockText t ++ '.' :: sixDigits t.microsecond

/-- `if text.endswith(suffix): text = text[:-len(suffix)]` -/
def dropSuffix (suffix text : List Char) : List Char :=
  if suffix.isSuffixOf text then text.take (text.length - suffix.length) else text

def formatCursorCreatedAt (value : AwareDatetime) : Except ListError (List Char) := do
  let utcValue ← orRaise value.utc? .crashed
  let text := dropSuffix "+00:00".toList (isoformat utcValue)
  let text := dropSuffix ".000000".toList text
  return text ++ ['Z']

/-- the parts of a text that matches `_UTC_DATETIME_PATTERN` -/
structure UtcText where
  year : Nat
  month : Nat
  day : Nat
  hour : Nat
  minute : Nat
  second : Nat
  fraction : List Char
deriving DecidableEq, Repr

/-- `(?:\.[0-9]{1,6})?Z`, and the digits in it -/
def readSeconds : List Char → Option (List Char)
  | ['Z'] => some []
  | '.' :: cs =>
    let (fraction, rest) := spanDigits cs
    if 1 ≤ fraction.length ∧ fraction.length ≤ 6 ∧ rest = ['Z'] then some fraction else none
  | _ => none

/-- `_UTC_DATETIME_PATTERN.fullmatch(text)`, and the parts that are split off it -/
def readUtcText : List Char → Option UtcText
  | y₁ :: y₂ :: y₃ :: y₄ :: '-' :: m₁ :: m₂ :: '-' :: d₁ :: d₂ :: 'T' :: h₁ :: h₂ :: ':' :: n₁ :: n₂ :: ':' ::
      s₁ :: s₂ :: rest => do
    let fraction ← readSeconds rest
    if [y₁, y₂, y₃, y₄, m₁, m₂, d₁, d₂, h₁, h₂, n₁, n₂, s₁, s₂].all isDigit then
      some ⟨natOf [y₁, y₂, y₃, y₄], natOf [m₁, m₂], natOf [d₁, d₂], natOf [h₁, h₂], natOf [n₁, n₂], natOf [s₁, s₂],
        fraction⟩
    else none
  | _ => none

/-- `fraction.ljust(6, "0")` -/
def ljustZeros (fraction : List Char) : List Char := fraction ++ List.replicate (6 - fraction.length) '0'

/-- `_parse_cursor_created_at(value)`; nothing where it raises `ValueError` -/
def parseCursorCreatedAt (value : List Char) : Option Instant := do
  let p ← readUtcText value
  let parsed ← instant? p.year p.month p.day p.hour p.minute p.second
    (if p.fraction.isEmpty then 0 else natOf ((ljustZeros p.fraction).take 6))
  if !p.fraction.isEmpty && p.fraction != Py.rstripChars (· == '0') p.fraction then none else some parsed

/-! ## Cursors -/

theorem sixteen_ne_zero : NeZero 16 := ⟨by decide⟩

attribute [local instance] sixteen_ne_zero

/-- the version of an identifier is 4, and its variant the one of RFC 4122 -/
def isV4 (u : Uuid) : Bool :=
  (u.digits.drop 12).head? = some 4 && (u.digits.drop 16).head?.any fun d => d ∈ [8, 9, 10, 11]

def isLowerHex (c : Char) : Bool := isDigit c || ('a' ≤ c && c ≤ 'f')

/-- `_UUID_V4_PATTERN.fullmatch(text)` -/
def isUuidV4Text (text : List Char) : Bool :=
  match text.splitOn '-' with
  | [a, b, c, d, e] =>
    a.length = 8 && b.length = 4 && c.length = 4 && d.length = 4 && e.length = 12 &&
      (a ++ b ++ c ++ d ++ e).all isLowerHex && c.head? = some '4' && d.head?.any fun x => x ∈ ['8', '9', 'a', 'b']
  | _ => false

def cursorKeys : List String := ["v", "created_at", "id"]

/-- `type(version) is int and version == 1` -/
def isVersion : Option Json → Bool
  | some (.int n) => n == 1
  | _ => false

def validateCursorPayload : Json → Except ListError (Instant ×ₗ Uuid)
  | .obj payload => do
    let keys := payload.map Prod.fst
    ensure (keys ⊆ cursorKeys ∧ cursorKeys ⊆ keys) .invalidPaginationCursor
    ensure (isVersion (member "v" payload)) .invalidPaginationCursor
    match member "created_at" payload, member "id" payload with
    | some (.str createdAt), some (.str itemId) => do
      ensure (readUtcText (Py.chars createdAt)).isSome .invalidPaginationCursor
      ensure (isUuidV4Text (Py.chars itemId)) .invalidPaginationCursor
      let parsedCreatedAt ← orRaise (parseCursorCreatedAt (Py.chars createdAt)) .invalidPaginationCursor
      let itemId ← orRaise (Uuid.parse itemId) .crashed
      return toLex (parsedCreatedAt, itemId)
    | _, _ => throw .invalidPaginationCursor
  | _ => throw .invalidPaginationCursor

/-- `text.rstrip("=")` -/
def rstripPads (text : List Char) : List Char := Py.rstripChars (· == '=') text

def decodeCanonicalUrlsafeBase64 (cursor : List Char) : Except ListError (List Nat) := do
  ensure ('=' ∉ cursor) .invalidPaginationCursor
  ensure (cursor ≠ [] ∧ ∀ c ∈ cursor, Base64.isUrlSafe c = true) .invalidPaginationCursor
  let padding := List.replicate ((4 - cursor.length % 4) % 4) '='
  let decoded ← orRaise (Base64.decode (cursor ++ padding)) .invalidPaginationCursor
  ensure (rstripPads (Base64.encode decoded) = cursor) .invalidPaginationCursor
  return decoded

/-- `format_uuid` lowers a text that has no upper-case letters -/
def encodePaginationCursor (createdAt : AwareDatetime) (itemId : Uuid) : Except ListError (List Char) := do
  let text ← formatCursorCreatedAt createdAt
  let payload : Json := .obj [("v", .int 1), ("created_at", .str (String.ofList text)), ("id", .str itemId.str)]
  return rstripPads (Base64.encode (Sha.utf8 (dumpsAscii .compact payload)))

def maxCursorJsonBytes : Nat := 512

def decodePaginationCursor (cursor : List Char) : Except ListError (Instant ×ₗ Uuid) := do
  ensure (cursor ≠ [] ∧ cursor.length ≤ maxCursorLength) .invalidPaginationCursor
  let decoded ← decodeCanonicalUrlsafeBase64 cursor
  ensure (decoded.length ≤ maxCursorJsonBytes) .invalidPaginationCursor
  let payload ← orRaise (utf8Decode decoded >>= loads) .invalidPaginationCursor
  validateCursorPayload payload

/-! ## Times -/

theorem instant?_eq_some {year month day hour minute second microsecond : Nat} {t : Instant} :
    instant? year month day hour minute second microsecond = some t ↔
      t.fields = [year, month, day, hour, minute, second, microsecond] := by
  unfold instant?
  split_ifs with h
  · rw [Option.some.injEq]
    constructor
    · rintro rfl
      rfl
    · intro hfields
      exact Instant.fields_injective hfields.symm
  · refine iff_of_false (by simp) fun hfields => h ?_
    simp only [Instant.fields, List.cons.injEq, and_true] at hfields
    obtain ⟨rfl, rfl, rfl, rfl, rfl, rfl, rfl⟩ := hfields
    exact ⟨t.year_ok, t.month_ok, t.day_ok, t.time_ok⟩

theorem utc?_ofUtc (t : Instant) : (AwareDatetime.ofUtc t).utc? = some t := by
  obtain ⟨hhour, hminute, hsecond, hmicro⟩ := t.time_ok
  have hday : 0 ≤ AwareDatetime.microseconds t ∧ AwareDatetime.microseconds t < 86400000000 := by
    simp only [AwareDatetime.microseconds]
    omega
  have helapsed : ((AwareDatetime.microseconds t - 0) % 86400000000).toNat =
      ((t.hour * 60 + t.minute) * 60 + t.second) * 1000000 + t.microsecond := by
    rw [sub_zero, Int.emod_eq_of_lt hday.1 hday.2, AwareDatetime.microseconds]
    omega
  simp only [AwareDatetime.utc?, AwareDatetime.ofUtc, sub_zero, if_neg (not_lt.2 hday.1), if_pos hday.2,
    Option.bind_eq_bind, Option.bind_some]
  rw [instant?_eq_some]
  simp only [Instant.fields, List.cons.injEq, and_true, true_and]
  omega

theorem natOf_fourDigits {n : Nat} (hn : n ≤ 9999) : natOf (fourDigits n) = n := by
  have h1 := JsonText.digitVal_digitChar (n / 1000) (by omega)
  have h2 := JsonText.digitVal_digitChar (n / 100 % 10) (by omega)
  have h3 := JsonText.digitVal_digitChar (n / 10 % 10) (by omega)
  have h4 := JsonText.digitVal_digitChar (n % 10) (by omega)
  simp only [fourDigits, natOf, List.foldl_cons, List.foldl_nil, h1, h2, h3, h4]
  omega

theorem isDigit_fourDigits {n : Nat} (hn : n ≤ 9999) : ∀ c ∈ fourDigits n, isDigit c = true := by
  intro c hc
  simp only [fourDigits, List.mem_cons, List.not_mem_nil, or_false] at hc
  rcases hc with rfl | rfl | rfl | rfl
  · exact isDigit_digitChar _ (by omega)
  · exact isDigit_digitChar _ (by omega)
  · exact isDigit_digitChar _ (by omega)
  · exact isDigit_digitChar _ (by omega)

theorem isDigit_twoDigits {n : Nat} (hn : n < 100) : ∀ c ∈ twoDigits n, isDigit c = true := by
  intro c hc
  simp only [twoDigits, List.mem_cons, List.not_mem_nil, or_false] at hc
  rcases hc with rfl | rfl
  · exact isDigit_digitChar _ (by omega)
  · exact isDigit_digitChar _ (by omega)

/-- the parts of a time up to its second -/
theorem readUtcText_clockText (t : Instant) (rest : List Char) : readUtcText (clockText t ++ rest) =
    (readSeconds rest).map fun fraction => ⟨t.year, t.month, t.day, t.hour, t.minute, t.second, fraction⟩ := by
  obtain ⟨hmonth, hday, hhour, hminute, hsecond⟩ := t.small
  have hyear : t.year ≤ 9999 := t.year_ok.2
  have hdigits : (fourDigits t.year ++ twoDigits t.month ++ twoDigits t.day ++ twoDigits t.hour ++
      twoDigits t.minute ++ twoDigits t.second).all isDigit = true := by
    rw [List.all_eq_true]
    intro c hc
    simp only [List.mem_append] at hc
    rcases hc with ((((hc | hc) | hc) | hc) | hc) | hc
    · exact isDigit_fourDigits hyear c hc
    · exact isDigit_twoDigits hmonth c hc
    · exact isDigit_twoDigits hday c hc
    · exact isDigit_twoDigits hhour c hc
    · exact isDigit_twoDigits hminute c hc
    · exact isDigit_twoDigits hsecond c hc
  show (do
    let fraction ← readSeconds rest
    if (fourDigits t.year ++ twoDigits t.month ++ twoDigits t.day ++ twoDigits t.hour ++
        twoDigits t.minute ++ twoDigits t.second).all isDigit then
      some (⟨natOf (fourDigits t.year), natOf (twoDigits t.month), natOf (twoDigits t.day), natOf (twoDigits t.hour),
        natOf (twoDigits t.minute), natOf (twoDigits t.second), fraction⟩ : UtcText)
    else none) = _
  rw [natOf_fourDigits hyear, natOf_twoDigits hmonth, natOf_twoDigits hday, natOf_twoDigits hhour,
    natOf_twoDigits hminute, natOf_twoDigits hsecond, hdigits]
  cases readSeconds rest <;> rfl

/-- what stands after the second in a cursor -/
def fractionText (t : Instant) : List Char := if t.microsecond = 0 then [] else '.' :: sixDigits t.microsecond

theorem dropSuffix_append {suffix pre tail : List Char} (h : suffix.length = tail.length) :
    dropSuffix suffix (pre ++ tail) = if suffix = tail then pre else pre ++ tail := by
  have hiff : suffix.isSuffixOf (pre ++ tail) = true ↔ suffix = tail := by
    rw [List.isSuffixOf_iff_suffix]
    constructor
    · intro hsuffix
      exact (List.suffix_of_suffix_length_le hsuffix (List.suffix_append pre tail) h.le).eq_of_length h
    · rintro rfl
      exact List.suffix_append _ _
  rw [dropSuffix]
  by_cases heq : suffix = tail
  · rw [if_pos (hiff.2 heq), if_pos heq, List.length_append, h, Nat.add_sub_cancel, List.take_left]
  · rw [if_neg fun hs => heq (hiff.1 hs), if_neg heq]

theorem formatCursorCreatedAt_eq {t : AwareDatetime} {u : Instant} (h : t.utc? = some u) :
    formatCursorCreatedAt t = .ok (clockText u ++ fractionText u ++ ['Z']) := by
  have hmicro := u.time_ok.2.2.2
  have hplus : dropSuffix "+00:00".toList (isoformat u) = isoformat u := by
    have hne : "+00:00".toList ≠ sixDigits u.microsecond := by
      intro heq
      have hdigit := isDigit_of_mem_sixDigits (n := u.microsecond) (c := '+') (heq ▸ by decide)
      revert hdigit
      decide
    have hsplit : isoformat u = (clockText u ++ ['.']) ++ sixDigits u.microsecond := by
      rw [isoformat, List.append_assoc, List.singleton_append]
    rw [hsplit, dropSuffix_append (by rw [sixDigits_length hmicro]; rfl), if_neg hne]
  have hzeros : ".000000".toList = '.' :: sixDigits u.microsecond ↔ u.microsecond = 0 := by
    constructor
    · intro heq
      have hsix : "000000".toList = sixDigits u.microsecond := (List.cons.inj heq).2
      have hvalue := natOf_sixDigits u.microsecond
      rw [← hsix] at hvalue
      exact hvalue.symm
    · intro hzero
      rw [hzero]
      decide
  have htext : dropSuffix ".000000".toList (isoformat u) = clockText u ++ fractionText u := by
    rw [isoformat, dropSuffix_append (by rw [List.length_cons, sixDigits_length hmicro]; rfl), fractionText]
    by_cases hzero : u.microsecond = 0
    · rw [if_pos (hzeros.2 hzero), if_pos hzero, List.append_nil]
    · rw [if_neg fun heq => hzero (hzeros.1 heq), if_neg hzero]
  rw [formatCursorCreatedAt, h]
  show Except.ok (dropSuffix _ (dropSuffix _ _) ++ ['Z']) = _
  rw [hplus, htext]

/-- the time has no fraction of a second, or one that takes all six digits -/
def CursorTime (t : Instant) : Prop := t.microsecond = 0 ∨ t.microsecond % 10 ≠ 0

instance (t : Instant) : Decidable (CursorTime t) := inferInstanceAs (Decidable (_ ∨ _))

theorem sixDigits_concat (n : Nat) : ∃ ds, sixDigits n = ds ++ [Nat.digitChar (n % 10)] := by
  rw [sixDigits]
  by_cases hn : n < 10
  · rw [digits_of_lt hn, Nat.mod_eq_of_lt hn]
    exact ⟨_, rfl⟩
  · refine ⟨List.replicate (6 - (digits n).length) '0' ++ digits (n / 10), ?_⟩
    rw [List.append_assoc, ← digits_of_ge hn]

theorem rstrip_sixDigits (n : Nat) : Py.rstripChars (· == '0') (sixDigits n) = sixDigits n ↔ n % 10 ≠ 0 := by
  have hzero : ∀ d < 10, (Nat.digitChar d == '0') = true ↔ d = 0 := by decide
  obtain ⟨ds, hds⟩ := sixDigits_concat n
  have hlast := hzero (n % 10) (Nat.mod_lt _ (by decide))
  rw [hds, Py.rstripChars, List.reverse_append, List.reverse_singleton, List.singleton_append, List.dropWhile_cons]
  by_cases hn : n % 10 = 0
  · rw [if_pos (hlast.2 hn)]
    refine iff_of_false (fun heq => ?_) fun hne => hne hn
    have hlength := congrArg List.length heq
    have hle := (List.dropWhile_sublist (l := ds.reverse) (· == '0')).length_le
    simp only [List.length_reverse, List.length_append, List.length_singleton] at hlength hle
    omega
  · rw [if_neg fun hd => hn (hlast.1 hd)]
    exact iff_of_true (by simp) hn

theorem readSeconds_fractionText (t : Instant) : readSeconds (fractionText t ++ ['Z']) =
    some (if t.microsecond = 0 then [] else sixDigits t.microsecond) := by
  rw [fractionText]
  split_ifs
  · rfl
  · have hspan : spanDigits (sixDigits t.microsecond ++ ['Z']) = (sixDigits t.microsecond, ['Z']) :=
      spanDigits_append (fun c hc => isDigit_of_mem_sixDigits hc) (by rintro c ⟨⟩; decide)
    rw [List.cons_append]
    simp only [readSeconds, hspan, sixDigits_length t.time_ok.2.2.2]
    rfl

/-- **The decoder reads the times it wants back, and no others.** -/
theorem parseCursorCreatedAt_text (t : Instant) : parseCursorCreatedAt (clockText t ++ fractionText t ++ ['Z']) =
    if CursorTime t then some t else none := by
  have hmicro := t.time_ok.2.2.2
  rw [parseCursorCreatedAt, List.append_assoc, readUtcText_clockText]
  by_cases hzero : t.microsecond = 0
  · have hself : instant? t.year t.month t.day t.hour t.minute t.second 0 = some t := by
      rw [instant?_eq_some, ← hzero]
      rfl
    have htime : CursorTime t := Or.inl hzero
    rw [fractionText, if_pos hzero, if_pos htime]
    show (do let parsed ← instant? _ _ _ _ _ _ 0; _) = _
    rw [hself]
    rfl
  · have hread := readSeconds_fractionText t
    rw [if_neg hzero] at hread
    have hnonempty : (sixDigits t.microsecond).isEmpty = false := by
      rw [List.isEmpty_eq_false_iff, ← List.length_pos_iff, sixDigits_length hmicro]
      decide
    have hvalue : natOf ((ljustZeros (sixDigits t.microsecond)).take 6) = t.microsecond := by
      have hlength := sixDigits_length hmicro
      rw [ljustZeros, hlength, Nat.sub_self, List.replicate_zero, List.append_nil, ← hlength, List.take_length,
        natOf_sixDigits]
    have hself : instant? t.year t.month t.day t.hour t.minute t.second t.microsecond = some t := by
      rw [instant?_eq_some]
      rfl
    have htime : CursorTime t ↔ t.microsecond % 10 ≠ 0 := or_iff_right hzero
    rw [hread]
    simp only [Option.map_some, Option.bind_eq_bind, Option.bind_some, hnonempty, hvalue, hself, Bool.not_false,
      Bool.true_and, Bool.false_eq_true, if_false]
    by_cases hcanonical : t.microsecond % 10 = 0
    · have hne : sixDigits t.microsecond ≠ Py.rstripChars (· == '0') (sixDigits t.microsecond) :=
        fun heq => (rstrip_sixDigits t.microsecond).1 heq.symm hcanonical
      rw [if_pos (bne_iff_ne.2 hne), if_neg fun htimes => htime.1 htimes hcanonical]
    · have heq := (rstrip_sixDigits t.microsecond).2 hcanonical
      rw [if_pos (htime.2 hcanonical), heq]
      simp

/-! ## Identifiers -/

theorem isLowerHex_hexChar : ∀ d : Fin 16, isLowerHex (hexChar d.val) = true ∧ hexChar d.val ≠ '-' := by decide

theorem notMem_hexText (ds : List (Fin 16)) : '-' ∉ Uuid.hexText ds := by
  intro h
  obtain ⟨d, -, hd⟩ := List.mem_map.1 h
  exact (isLowerHex_hexChar d).2 hd

theorem head?_hexText (ds : List (Fin 16)) : (Uuid.hexText ds).head? = ds.head?.map fun d => hexChar d.val :=
  List.head?_map

/-- **The pattern holds of the texts of version 4.** -/
theorem isUuidV4Text_chars (u : Uuid) : isUuidV4Text u.chars = isV4 u := by
  have hsplit : u.chars.splitOn '-' = [Uuid.hexText (u.digits.take 8), Uuid.hexText ((u.digits.drop 8).take 4),
      Uuid.hexText ((u.digits.drop 12).take 4), Uuid.hexText ((u.digits.drop 16).take 4),
      Uuid.hexText (u.digits.drop 20)] := by
    have hjoin : u.chars = List.intercalate ['-'] [Uuid.hexText (u.digits.take 8),
        Uuid.hexText ((u.digits.drop 8).take 4), Uuid.hexText ((u.digits.drop 12).take 4),
        Uuid.hexText ((u.digits.drop 16).take 4), Uuid.hexText (u.digits.drop 20)] := by
      simp [Uuid.chars, List.intercalate]
    rw [hjoin, List.splitOn_intercalate]
    · intro l hl
      simp only [List.mem_cons, List.not_mem_nil, or_false] at hl
      rcases hl with rfl | rfl | rfl | rfl | rfl
      · exact notMem_hexText _
      · exact notMem_hexText _
      · exact notMem_hexText _
      · exact notMem_hexText _
      · exact notMem_hexText _
    · exact List.cons_ne_nil _ _
  have hlength := u.length_eq
  have hlower : ∀ ds : List (Fin 16), (Uuid.hexText ds).all isLowerHex = true := by
    intro ds
    rw [List.all_eq_true]
    intro c hc
    obtain ⟨d, -, rfl⟩ := List.mem_map.1 hc
    exact (isLowerHex_hexChar d).1
  have hfour : ∀ d : Fin 16, hexChar d.val = '4' ↔ d = 4 := by decide
  have hvariant : ∀ d : Fin 16, hexChar d.val ∈ ['8', '9', 'a', 'b'] ↔ d ∈ [8, 9, 10, 11] := by decide
  have hheads : ∀ n, ((u.digits.drop n).take 4).head? = (u.digits.drop n).head? := fun n => by
    rw [List.head?_take, if_neg (by decide)]
  have hversion : ((Uuid.hexText ((u.digits.drop 12).take 4)).head? = some '4') ↔ (u.digits.drop 12).head? = some 4 := by
    rw [head?_hexText, hheads]
    cases (u.digits.drop 12).head? with
    | none => simp
    | some d => simp only [Option.map_some, Option.some.injEq, hfour]
  have hrfc : (Uuid.hexText ((u.digits.drop 16).take 4)).head?.any (fun x => x ∈ ['8', '9', 'a', 'b']) =
      (u.digits.drop 16).head?.any fun d => d ∈ [8, 9, 10, 11] := by
    rw [head?_hexText, hheads]
    cases (u.digits.drop 16).head? with
    | none => rfl
    | some d =>
      simp only [Option.map_some, Option.any_some]
      exact decide_eq_decide.2 (hvariant d)
  have hgroups : (Uuid.hexText (u.digits.take 8)).length = 8 ∧ (Uuid.hexText ((u.digits.drop 8).take 4)).length = 4 ∧
      (Uuid.hexText ((u.digits.drop 12).take 4)).length = 4 ∧ (Uuid.hexText ((u.digits.drop 16).take 4)).length = 4 ∧
      (Uuid.hexText (u.digits.drop 20)).length = 12 := by
    simp only [Uuid.hexText, List.length_map, List.length_take, List.length_drop, hlength]
    decide
  obtain ⟨ha, hb, hc, hd, he⟩ := hgroups
  rw [isUuidV4Text, hsplit]
  simp only [ha, hb, hc, hd, he, List.all_append, hlower, hrfc, decide_true, Bool.and_true, Bool.true_and, isV4,
    decide_eq_decide.2 hversion]

/-- the digit of a character -/
def hexDigit (c : Char) : Fin 16 := (Uuid.hexVal c).getD 0

theorem hexChar_hexDigit {c : Char} (h : isLowerHex c = true) : hexChar (hexDigit c).val = c := by
  have hall : ∀ n < 128, isLowerHex (Char.ofNat n) = true → hexChar (hexDigit (Char.ofNat n)).val = Char.ofNat n := by
    decide
  have hsmall : c.toNat < 128 := by
    simp only [isLowerHex, isDigit, Bool.or_eq_true, Bool.and_eq_true, decide_eq_true_eq] at h
    rcases h with h | h
    · exact Nat.lt_of_le_of_lt (show c.toNat ≤ 57 from h.2) (by decide)
    · exact Nat.lt_of_le_of_lt (show c.toNat ≤ 102 from h.2) (by decide)
  have hread := hall c.toNat hsmall
  rw [Char.ofNat_toNat] at hread
  exact hread h

/-- a text that matches the pattern is the text of an identifier -/
theorem chars_of_isUuidV4Text {text : List Char} (h : isUuidV4Text text = true) : ∃ u : Uuid, u.chars = text := by
  have hjoin : List.intercalate ['-'] (text.splitOn '-') = text := List.intercalate_splitOn '-'
  unfold isUuidV4Text at h
  generalize text.splitOn '-' = groups at h hjoin
  split at h
  · next a b c d e =>
    simp only [Bool.and_eq_true, decide_eq_true_eq, List.all_eq_true] at h
    obtain ⟨⟨⟨⟨⟨⟨⟨ha, hb⟩, hc⟩, hd⟩, he⟩, hhex⟩, -⟩, -⟩ := h
    have hback : ∀ g : List Char, (∀ x ∈ g, x ∈ a ++ b ++ c ++ d ++ e) → Uuid.hexText (g.map hexDigit) = g := by
      intro g hg
      rw [Uuid.hexText, List.map_map]
      refine (List.map_congr_left fun x hx => ?_).trans (List.map_id g)
      exact hexChar_hexDigit (hhex x (hg x hx))
    have hlength : ((a ++ b ++ c ++ d ++ e).map hexDigit).length = 32 := by
      simp only [List.length_map, List.length_append, ha, hb, hc, hd, he]
    refine ⟨⟨(a ++ b ++ c ++ d ++ e).map hexDigit, hlength⟩, ?_⟩
    have hdrop8 : (a ++ b ++ c ++ d ++ e).drop 8 = b ++ (c ++ (d ++ e)) := by
      rw [List.append_assoc, List.append_assoc, List.append_assoc, List.drop_left' ha]
    have hdrop12 : (a ++ b ++ c ++ d ++ e).drop 12 = c ++ (d ++ e) := by
      rw [show 12 = 8 + 4 from rfl, ← List.drop_drop, hdrop8, List.drop_left' hb]
    have hdrop16 : (a ++ b ++ c ++ d ++ e).drop 16 = d ++ e := by
      rw [show 16 = 12 + 4 from rfl, ← List.drop_drop, hdrop12, List.drop_left' hc]
    have hdrop20 : (a ++ b ++ c ++ d ++ e).drop 20 = e := by
      rw [show 20 = 16 + 4 from rfl, ← List.drop_drop, hdrop16, List.drop_left' hd]
    have htake8 : (a ++ b ++ c ++ d ++ e).take 8 = a := by
      rw [List.append_assoc, List.append_assoc, List.append_assoc, List.take_left' ha]
    simp only [Uuid.chars, ← List.map_drop, ← List.map_take, hdrop8, hdrop12, hdrop16, hdrop20, htake8,
      List.take_left' hb, List.take_left' hc, List.take_left' hd]
    rw [hback a (by simp +contextual), hback b (by simp +contextual), hback c (by simp +contextual),
      hback d (by simp +contextual), hback e (by simp +contextual), ← hjoin]
    simp [List.intercalate]
  · cases h

/-! ## Cursors -/

theorem rstripPads_body {body : List Char} (h : ∀ c ∈ body, Base64.isUrlSafe c = true) (k : Nat) :
    rstripPads (body ++ List.replicate k '=') = body := by
  have hpads : ∀ c ∈ List.replicate k '=', (c == '=') = true := by
    intro c hc
    rw [List.eq_of_mem_replicate hc]
    rfl
  have hbody : ∀ c ∈ body.reverse.head?, (c == '=') = false := by
    intro c hc
    have hsafe := h c (List.mem_reverse.1 (List.mem_of_mem_head? hc))
    by_contra hpad
    rw [Bool.not_eq_false, beq_iff_eq] at hpad
    rw [hpad] at hsafe
    revert hsafe
    decide
  rw [rstripPads, Py.rstripChars, List.reverse_append, List.reverse_replicate, List.dropWhile_append_of_pos hpads,
    Py.dropWhile_eq_self hbody, List.reverse_reverse]

/-- a cursor is read back to the bytes that were written, pads or not -/
theorem decodeCanonicalUrlsafeBase64_encode {bs : List Nat} (h : ∀ b ∈ bs, b < 256) (hne : bs ≠ []) :
    decodeCanonicalUrlsafeBase64 (rstripPads (Base64.encode bs)) = .ok bs := by
  obtain ⟨body, k, hencode, hsafe, hk, hgroups⟩ := Base64.encode_body h
  have hlength := Base64.length_encode bs
  have hpos := List.length_pos_iff.2 hne
  rw [hencode, List.length_append, List.length_replicate] at hlength
  have hbody : body ≠ [] := by
    rintro rfl
    rw [List.length_nil] at hlength
    omega
  have hpad : '=' ∉ body := by
    intro hmem
    have hunsafe := hsafe '=' hmem
    revert hunsafe
    decide
  have hpadding : (4 - body.length % 4) % 4 = k := by omega
  have hread := Base64.decode_encode_pads h
  rw [hencode] at hread
  rw [hencode, rstripPads_body hsafe k, decodeCanonicalUrlsafeBase64, hpadding]
  simp only [Results.bind_eq_ok, Results.ensure_eq_ok, Results.pure_eq_ok, Results.orRaise_eq_ok, exists_const]
  exact ⟨hpad, ⟨hbody, hsafe⟩, bs, hread, by rw [hencode, rstripPads_body hsafe k], rfl⟩

/-- the text of a time in a cursor -/
def timeText (t : Instant) : List Char := clockText t ++ fractionText t ++ ['Z']

theorem plain_timeText (t : Instant) : Plain (timeText t) ∧ (timeText t).length ≤ 27 := by
  obtain ⟨hmonth, hday, hhour, hminute, hsecond⟩ := t.small
  have hmicro := t.time_ok.2.2.2
  have hword : ∀ c, isDigit c = true → PlainChar c := by
    intro c hc
    simp only [isDigit, Bool.and_eq_true, decide_eq_true_eq] at hc
    exact plainChar_of_word (Or.inl hc)
  have hyear : Plain (fourDigits t.year) := fun c hc => hword c (isDigit_fourDigits t.year_ok.2 c hc)
  have hmarks : Plain ['-', 'T', ':', '.', 'Z'] := by decide
  simp only [plain_cons] at hmarks
  obtain ⟨hhyphen, htee, hcolon, hpoint, hzed, hnil⟩ := hmarks
  have hfraction : Plain (fractionText t) ∧ (fractionText t).length ≤ 7 := by
    rw [fractionText]
    split_ifs
    · exact ⟨hnil, Nat.zero_le 7⟩
    · rw [plain_cons, List.length_cons, sixDigits_length hmicro]
      exact ⟨⟨hpoint, fun c hc => hword c (isDigit_of_mem_sixDigits hc)⟩, le_rfl⟩
  constructor
  · simp only [timeText, clockText, plain_append, plain_cons]
    simp only [hyear, plain_twoDigits hmonth, plain_twoDigits hday, plain_twoDigits hhour, plain_twoDigits hminute,
      plain_twoDigits hsecond, hfraction.1, hhyphen, htee, hcolon, hzed, hnil, and_self]
  · have hclock : (clockText t).length = 19 := rfl
    rw [timeText, List.length_append, List.length_append, hclock, List.length_singleton]
    omega

/-- the members of a cursor, without its version -/
def cursorFields (t : Instant) (itemId : Uuid) : List (String × String) :=
  [("created_at", String.ofList (timeText t)), ("id", itemId.str)]

theorem length_cursorFields (t : Instant) (itemId : Uuid) : (cursorText (cursorFields t itemId)).length ≤ 94 := by
  have hcreated : escapedLength "created_at" = 10 := by decide
  have hid : escapedLength "id" = 2 := by decide
  obtain ⟨hplain, hlength⟩ := plain_timeText t
  rw [cursorFields, length_cursorText_cons, length_cursorText_cons, length_cursorText_nil, hcreated, hid,
    escapedLength_uuid, escapedLength_of_plain hplain]
  omega

theorem encodePaginationCursor_eq {t : AwareDatetime} {u : Instant} (h : t.utc? = some u) (itemId : Uuid) :
    encodePaginationCursor t itemId = .ok (rstripPads (Base64.encode (cursorBytes (cursorFields u itemId)))) := by
  have hsorted : KeyedList.sorted Prod.fst [("v", Json.int 1), ("created_at", .str (String.ofList (timeText u))),
      ("id", .str itemId.str)] = flatMembers (cursorFields u itemId) := rfl
  have hbytes : Sha.utf8 (dumpsAscii .compact (.obj [("v", Json.int 1),
      ("created_at", .str (String.ofList (timeText u))), ("id", .str itemId.str)])) =
      cursorBytes (cursorFields u itemId) := by
    rw [dumpsAscii_flat hsorted]
    exact utf8_ascii fun c hc => cursorText_ascii hc
  rw [encodePaginationCursor, formatCursorCreatedAt_eq h]
  show Except.ok (rstripPads (Base64.encode (Sha.utf8 (dumpsAscii .compact (.obj [("v", Json.int 1),
      ("created_at", .str (String.ofList (timeText u))), ("id", .str itemId.str)]))))) = _
  rw [hbytes]

/-- what a cursor takes to be read back -/
def Paged (createdAt : Instant) (itemId : Uuid) : Prop := isV4 itemId = true ∧ CursorTime createdAt

instance (createdAt : Instant) (itemId : Uuid) : Decidable (Paged createdAt itemId) := inferInstanceAs (Decidable (_ ∧ _))

theorem validateCursorPayload_fields (t : Instant) (itemId : Uuid) :
    validateCursorPayload (.obj (flatMembers (cursorFields t itemId))) =
      if Paged t itemId then .ok (toLex (t, itemId)) else .error .invalidPaginationCursor := by
  have hkeys : (flatMembers (cursorFields t itemId)).map Prod.fst ⊆ cursorKeys ∧
      cursorKeys ⊆ (flatMembers (cursorFields t itemId)).map Prod.fst := by
    show (["created_at", "id", "v"] : List String) ⊆ cursorKeys ∧ cursorKeys ⊆ (["created_at", "id", "v"] : List String)
    decide
  have hversion : isVersion (member "v" (flatMembers (cursorFields t itemId))) = true := rfl
  have hcreated : member "created_at" (flatMembers (cursorFields t itemId)) =
      some (.str (String.ofList (timeText t))) := rfl
  have hid : member "id" (flatMembers (cursorFields t itemId)) = some (.str itemId.str) := rfl
  have hpattern : (readUtcText (timeText t)).isSome = true := by
    rw [timeText, List.append_assoc, readUtcText_clockText, Option.isSome_map, readSeconds_fractionText]
    rfl
  have hparse : parseCursorCreatedAt (timeText t) = if CursorTime t then some t else none := parseCursorCreatedAt_text t
  have htext : Py.chars itemId.str = itemId.chars := by rw [Py.chars_eq, Uuid.str, String.toList_ofList]
  rw [validateCursorPayload]
  simp only [hkeys, hversion, hcreated, hid, ensure, Py.chars_eq (String.ofList _), String.toList_ofList, hpattern, htext,
    hparse, isUuidV4Text_chars, Uuid.parse_str, if_true]
  by_cases hv4 : isV4 itemId = true
  · by_cases htime : CursorTime t
    · have hpaged : Paged t itemId := ⟨hv4, htime⟩
      rw [if_pos hpaged]
      simp only [hv4, htime, and_self, if_true]
      rfl
    · rw [if_neg fun h : Paged t itemId => htime h.2]
      simp only [hv4, htime, and_self, if_true, if_false]
      rfl
  · rw [if_neg fun h : Paged t itemId => hv4 h.1]
    simp only [hv4, and_self, if_true]
    rfl

theorem ok_bind {α β : Type} (a : α) (f : α → Except ListError β) : (Except.ok a >>= f) = f a := rfl

/-- **What the decoder makes of a cursor that the encoder wrote.** -/
theorem decodePaginationCursor_encode {t : AwareDatetime} {u : Instant} (h : t.utc? = some u) (itemId : Uuid) :
    ∃ cursor, encodePaginationCursor t itemId = .ok cursor ∧ decodePaginationCursor cursor =
      if Paged u itemId then .ok (toLex (u, itemId)) else .error .invalidPaginationCursor := by
  refine ⟨_, encodePaginationCursor_eq h itemId, ?_⟩
  have hbytes := cursorBytes_lt (cursorFields u itemId)
  have hlength := length_cursorFields u itemId
  have hne : cursorBytes (cursorFields u itemId) ≠ [] := by
    intro hnil
    have hzero := congrArg List.length hnil
    rw [length_cursorBytes, cursorText, List.length_cons, List.length_nil] at hzero
    omega
  obtain ⟨body, k, hencode, hsafe, hk, -⟩ := Base64.encode_body hbytes
  have hbody := Base64.length_encode (cursorBytes (cursorFields u itemId))
  have hdecode := decodeCanonicalUrlsafeBase64_encode hbytes hne
  rw [hencode, length_cursorBytes, List.length_append, List.length_replicate] at hbody
  rw [hencode, rstripPads_body hsafe k] at hdecode ⊢
  have hshort : body ≠ [] ∧ body.length ≤ maxCursorLength := by
    rw [maxCursorLength]
    have hfirst : 2 ≤ (cursorText (cursorFields u itemId)).length := by
      rw [cursorText, List.length_cons, List.length_append, List.length_singleton]
      omega
    constructor
    · rintro rfl
      rw [List.length_nil] at hbody
      omega
    · omega
  have hsmall : (cursorBytes (cursorFields u itemId)).length ≤ maxCursorJsonBytes := by
    rw [length_cursorBytes, maxCursorJsonBytes]
    omega
  have htext : utf8Decode (cursorBytes (cursorFields u itemId)) = some (cursorText (cursorFields u itemId)) :=
    utf8Decode_ascii fun c hc => cursorText_ascii hc
  have hdistinct : KeyedList.Distinct Prod.fst (flatMembers (cursorFields u itemId)) := by
    show (["created_at", "id", "v"] : List String).Nodup
    decide
  have hloads : loads (cursorText (cursorFields u itemId)) = _ := loads_flat hdistinct
  have hpayload : (utf8Decode (cursorBytes (cursorFields u itemId)) >>= loads) =
      some (.obj (flatMembers (cursorFields u itemId))) := by
    rw [htext, Option.bind_eq_bind, Option.bind_some, hloads]
  have hcheck : ensure (body ≠ [] ∧ body.length ≤ maxCursorLength) ListError.invalidPaginationCursor = .ok () :=
    Results.ensure_eq_ok.2 hshort
  have hbound : ensure ((cursorBytes (cursorFields u itemId)).length ≤ maxCursorJsonBytes)
      ListError.invalidPaginationCursor = .ok () := Results.ensure_eq_ok.2 hsmall
  rw [decodePaginationCursor, hcheck, ok_bind, hdecode, ok_bind, hbound, ok_bind, hpayload]
  exact validateCursorPayload_fields u itemId

/-- a computation raises an invalid cursor or nothing -/
def OnlyInvalid {α : Type} (x : Except ListError α) : Prop := ∀ e, x = .error e → e = .invalidPaginationCursor

theorem onlyInvalid_ensure (p : Prop) [Decidable p] : OnlyInvalid (ensure p .invalidPaginationCursor) :=
  fun _ h => (Results.ensure_eq_error.1 h).2.symm

theorem onlyInvalid_orRaise {α : Type} (x : Option α) : OnlyInvalid (orRaise x .invalidPaginationCursor) := by
  intro e h
  cases x with
  | none => exact (Except.error.inj h).symm
  | some a => cases h

theorem onlyInvalid_bind {α β : Type} {x : Except ListError α} {f : α → Except ListError β} (hx : OnlyInvalid x)
    (hf : ∀ a, x = .ok a → OnlyInvalid (f a)) : OnlyInvalid (x >>= f) := by
  intro e h
  rcases Results.bind_eq_error.1 h with h | ⟨a, ha, h⟩
  · exact hx e h
  · exact hf a ha e h

theorem onlyInvalid_pure {α : Type} (a : α) : OnlyInvalid (pure a) := fun _ h => absurd h Results.pure_ne_error

theorem onlyInvalid_throw {α : Type} : OnlyInvalid (throw .invalidPaginationCursor : Except ListError α) :=
  fun _ h => (Except.error.inj h).symm

/-- an identifier that matches the pattern is read -/
theorem validateCursorPayload_onlyInvalid (payload : Json) : OnlyInvalid (validateCursorPayload payload) := by
  cases payload with
  | obj fields =>
    refine onlyInvalid_bind (onlyInvalid_ensure _) fun _ _ => onlyInvalid_bind (onlyInvalid_ensure _) fun _ _ => ?_
    split
    · next createdAt itemId _ _ =>
      refine onlyInvalid_bind (onlyInvalid_ensure _) fun _ _ => onlyInvalid_bind (onlyInvalid_ensure _) fun _ hpattern =>
        onlyInvalid_bind (onlyInvalid_orRaise _) fun _ _ => onlyInvalid_bind ?_ fun _ _ => onlyInvalid_pure _
      obtain ⟨u, hu⟩ := chars_of_isUuidV4Text (Results.ensure_eq_ok.1 hpattern)
      have htext : itemId = u.str := by rw [Uuid.str, hu, ofList_chars]
      rw [htext, Uuid.parse_str]
      exact onlyInvalid_pure u
    · exact onlyInvalid_throw
  | _ => exact onlyInvalid_throw

/-- **Every other text** is read as a cursor or refused as an invalid one. -/
theorem decodePaginationCursor_total (cursor : List Char) :
    (∃ position, decodePaginationCursor cursor = .ok position) ∨
      decodePaginationCursor cursor = .error .invalidPaginationCursor := by
  have honly : OnlyInvalid (decodePaginationCursor cursor) := by
    refine onlyInvalid_bind (onlyInvalid_ensure _) fun _ _ => onlyInvalid_bind ?_ fun _ _ =>
      onlyInvalid_bind (onlyInvalid_ensure _) fun _ _ => onlyInvalid_bind (onlyInvalid_orRaise _) fun _ _ =>
      validateCursorPayload_onlyInvalid _
    exact onlyInvalid_bind (onlyInvalid_ensure _) fun _ _ => onlyInvalid_bind (onlyInvalid_ensure _) fun _ _ =>
      onlyInvalid_bind (onlyInvalid_orRaise _) fun _ _ => onlyInvalid_bind (onlyInvalid_ensure _) fun _ _ =>
      onlyInvalid_pure _
  cases h : decodePaginationCursor cursor with
  | ok position => exact Or.inl ⟨position, rfl⟩
  | error e => exact Or.inr (congrArg Except.error (honly e h))

/-! ## Lists -/

structure ReviewComment where
  reviewCommentId : Uuid
  reviewRevisionId : Uuid
  createdAt : Instant
deriving DecidableEq, Repr

structure PackageRevision where
  packageRevisionId : Uuid
  systemId : Uuid
  createdAt : Instant
deriving DecidableEq, Repr

structure SystemRecord where
  systemId : Uuid
  createdAt : Instant
  archived : Bool
  groups : List String
deriving DecidableEq, Repr

/-- the tables under their primary keys -/
structure SharedDb where
  comments : List ReviewComment
  revisions : List PackageRevision
  systems : List SystemRecord
  comments_distinct : (comments.map ReviewComment.reviewCommentId).Nodup
  revisions_distinct : (revisions.map PackageRevision.packageRevisionId).Nodup
  systems_distinct : (systems.map SystemRecord.systemId).Nodup

/-- `ReviewComment.created_at.desc(), ReviewComment.review_comment_id.desc()` -/
def commentKey (r : ReviewComment) : (Instant ×ₗ Uuid)ᵒᵈ := OrderDual.toDual (toLex (r.createdAt, r.reviewCommentId))

/-- `PackageRevision.created_at.asc(), PackageRevision.package_revision_id.asc()` -/
def revisionKey (r : PackageRevision) : Instant ×ₗ Uuid := toLex (r.createdAt, r.packageRevisionId)

/-- `System.created_at.asc(), System.system_id.asc()` -/
def systemKey (r : SystemRecord) : Instant ×ₗ Uuid := toLex (r.createdAt, r.systemId)

namespace SharedDb

def commentsOf (db : SharedDb) (reviewRevisionId : Uuid) : List ReviewComment :=
  db.comments.filter fun r => r.reviewRevisionId = reviewRevisionId

def revisionsOf (db : SharedDb) (systemId : Uuid) : List PackageRevision :=
  db.revisions.filter fun r => r.systemId = systemId

/-- the systems that a caller may read; `mayRead` is the predicate on their groups -/
def systemsFor (db : SharedDb) (mayRead : List String → Bool) (includeArchived : Bool) : List SystemRecord :=
  db.systems.filter fun r => mayRead r.groups && (includeArchived || !r.archived)

end SharedDb

/-- `ReviewRevisionValidationError` carries the code of the invalid cursor that it wraps -/
def listReviewComments (db : SharedDb) (mayView : Bool) (reviewRevisionId : Uuid) (limit : Option Int)
    (cursor : Option (List Char)) : Except ListError (List ReviewComment × Option (List Char)) := do
  ensure mayView .denied
  let pageLimit ← validatePageLimit limit
  listPage commentKey (fun r => encodePaginationCursor (.ofUtc r.createdAt) r.reviewCommentId)
    (fun c => OrderDual.toDual <$> decodePaginationCursor c) pageLimit (db.commentsOf reviewRevisionId) cursor

def listPackageRevisions (db : SharedDb) (mayView : Bool) (systemId : Uuid) (limit : Option Int)
    (cursor : Option (List Char)) : Except ListError (List PackageRevision × Option (List Char)) := do
  ensure mayView .denied
  -- the cursor is decoded before the limit is looked at
  let _ ← cursor.mapM decodePaginationCursor
  let pageLimit ← validatePageLimit limit
  listPage revisionKey (fun r => encodePaginationCursor (.ofUtc r.createdAt) r.packageRevisionId)
    decodePaginationCursor pageLimit (db.revisionsOf systemId) cursor

def listSystems (db : SharedDb) (mayRead : List String → Bool) (includeArchived : Bool) (limit : Option Int)
    (cursor : Option (List Char)) : Except ListError (List SystemRecord × Option (List Char)) := do
  let pageLimit ← validatePageLimit limit
  listPage systemKey (fun r => encodePaginationCursor (.ofUtc r.createdAt) r.systemId)
    decodePaginationCursor pageLimit (db.systemsFor mayRead includeArchived) cursor

/-! ## Reading the lists -/

section

variable {α κ : Type} [LinearOrder κ] {key : α → κ} {position : Instant ×ₗ Uuid → κ} {createdAt : α → Instant}
  {itemId : α → Uuid} {rows : List α} {n : Nat}

/-- a list with shared cursors, in any order on time and identifier -/
theorem shared_follows_iff (hkey : ∀ r, key r = position (toLex (createdAt r, itemId r)))
    (hposition : Function.Injective position) (hids : (rows.map itemId).Nodup) (hn : 0 < n) :
    Follows (listPage key (fun r => encodePaginationCursor (.ofUtc (createdAt r)) (itemId r))
        (fun c => position <$> decodePaginationCursor c) n rows) none (ordered key rows) ↔
      PageEnds n (ordered key rows) fun r => Paged (createdAt r) (itemId r) := by
  have hdistinct : (rows.map key).Nodup := by
    refine (List.nodup_map_iff_inj_on hids.of_map).2 fun r hr s hs hrs => ?_
    rw [hkey, hkey] at hrs
    have hpair := congrArg (fun k => (ofLex k).2) (hposition hrs)
    exact List.inj_on_of_nodup_map hids hr hs hpair
  have hcodec : ∀ r c, encodePaginationCursor (.ofUtc (createdAt r)) (itemId r) = .ok c →
      (position <$> decodePaginationCursor c : Except ListError κ) =
        if Paged (createdAt r) (itemId r) then .ok (key r) else .error .invalidPaginationCursor := by
    intro r c hc
    obtain ⟨cursor, hencode, hdecode⟩ := decodePaginationCursor_encode (utc?_ofUtc (createdAt r)) (itemId r)
    obtain rfl : cursor = c := Except.ok.inj (hencode.symm.trans hc)
    rw [hdecode, hkey]
    by_cases hpaged : Paged (createdAt r) (itemId r)
    · rw [if_pos hpaged, if_pos hpaged]
      rfl
    · rw [if_neg hpaged, if_neg hpaged]
      rfl
  have hencodes : ∀ r, ∃ c, encodePaginationCursor (.ofUtc (createdAt r)) (itemId r) = .ok c :=
    fun r => ⟨_, encodePaginationCursor_eq (utc?_ofUtc (createdAt r)) (itemId r)⟩
  rw [Keyset.follows_iff hdistinct hn fun r _ => roundTrips_or_refused (hcodec r)]
  refine Keyset.pageEnds_congr fun r _ => ?_
  rw [roundTrips_iff (hcodec r)]
  exact and_iff_left (hencodes r)

end

variable {db : SharedDb} {limit : Option Int} {n : Nat}

theorem listReviewComments_follows_iff (hlimit : validatePageLimit limit = .ok n) (reviewRevisionId : Uuid) :
    Follows (listReviewComments db true reviewRevisionId limit) none
        (ordered commentKey (db.commentsOf reviewRevisionId)) ↔
      PageEnds n (ordered commentKey (db.commentsOf reviewRevisionId)) fun r => Paged r.createdAt r.reviewCommentId := by
  have hlist : listReviewComments db true reviewRevisionId limit = listPage commentKey
      (fun r => encodePaginationCursor (.ofUtc r.createdAt) r.reviewCommentId)
      (fun c => OrderDual.toDual <$> decodePaginationCursor c) n (db.commentsOf reviewRevisionId) := by
    funext cursor
    rw [listReviewComments, hlimit]
    rfl
  rw [hlist]
  exact shared_follows_iff (fun _ => rfl) OrderDual.toDual.injective
    (db.comments_distinct.sublist (List.filter_sublist.map _)) (validatePageLimit_pos hlimit)

theorem map_id_decode (cursor : List Char) : (id <$> decodePaginationCursor cursor : Except ListError (Instant ×ₗ Uuid)) =
    decodePaginationCursor cursor := id_map _

theorem listPackageRevisions_follows_iff (hlimit : validatePageLimit limit = .ok n) (systemId : Uuid) :
    Follows (listPackageRevisions db true systemId limit) none (ordered revisionKey (db.revisionsOf systemId)) ↔
      PageEnds n (ordered revisionKey (db.revisionsOf systemId)) fun r => Paged r.createdAt r.packageRevisionId := by
  have hlist : listPackageRevisions db true systemId limit = listPage revisionKey
      (fun r => encodePaginationCursor (.ofUtc r.createdAt) r.packageRevisionId)
      (fun c => id <$> decodePaginationCursor c) n (db.revisionsOf systemId) := by
    funext cursor
    simp only [map_id_decode]
    rw [listPackageRevisions, hlimit, listPage]
    cases hread : cursor.mapM decodePaginationCursor with
    | error e => rfl
    | ok position =>
      show listPage _ _ _ _ _ _ = _
      rw [listPage, hread]
  rw [hlist]
  exact shared_follows_iff (fun _ => rfl) Function.injective_id
    (db.revisions_distinct.sublist (List.filter_sublist.map _)) (validatePageLimit_pos hlimit)

theorem listSystems_follows_iff (hlimit : validatePageLimit limit = .ok n) (mayRead : List String → Bool)
    (includeArchived : Bool) :
    Follows (listSystems db mayRead includeArchived limit) none
        (ordered systemKey (db.systemsFor mayRead includeArchived)) ↔
      PageEnds n (ordered systemKey (db.systemsFor mayRead includeArchived)) fun r => Paged r.createdAt r.systemId := by
  have hlist : listSystems db mayRead includeArchived limit = listPage systemKey
      (fun r => encodePaginationCursor (.ofUtc r.createdAt) r.systemId)
      (fun c => id <$> decodePaginationCursor c) n (db.systemsFor mayRead includeArchived) := by
    funext cursor
    simp only [map_id_decode]
    rw [listSystems, hlimit]
    rfl
  rw [hlist]
  exact shared_follows_iff (fun _ => rfl) Function.injective_id
    (db.systems_distinct.sublist (List.filter_sublist.map _)) (validatePageLimit_pos hlimit)

/-- the cursor of a time and an identifier is read as the same instant and the same identifier -/
def CursorRoundTrips (t : AwareDatetime) (itemId : Uuid) : Prop := ∃ cursor u, encodePaginationCursor t itemId = .ok cursor ∧
  t.utc? = some u ∧ decodePaginationCursor cursor = .ok (toLex (u, itemId))

/-- **A cursor is read back** exactly where its time is one in UTC without a trailing zero in its fraction. -/
theorem cursorRoundTrips_iff {t : AwareDatetime} {itemId : Uuid} (hv4 : isV4 itemId = true) :
    CursorRoundTrips t itemId ↔ ∃ u, t.utc? = some u ∧ CursorTime u := by
  constructor
  · rintro ⟨cursor, u, hencode, hutc, hdecode⟩
    obtain ⟨cursor', hencode', hdecode'⟩ := decodePaginationCursor_encode hutc itemId
    obtain rfl : cursor' = cursor := Except.ok.inj (hencode'.symm.trans hencode)
    refine ⟨u, hutc, ?_⟩
    by_contra htime
    rw [hdecode', if_neg fun h : Paged u itemId => htime h.2] at hdecode
    cases hdecode
  · rintro ⟨u, hutc, htime⟩
    obtain ⟨cursor, hencode, hdecode⟩ := decodePaginationCursor_encode hutc itemId
    have hpaged : Paged u itemId := ⟨hv4, htime⟩
    rw [if_pos hpaged] at hdecode
    exact ⟨cursor, u, hencode, hutc, hdecode⟩

/-- **The shared cursors and the lists that page with them.** -/
theorem sharedCursors_iff (db : SharedDb) (limit : Option Int) (n : Nat) (hlimit : validatePageLimit limit = .ok n) :
    (∀ cursor, (∃ position, decodePaginationCursor cursor = .ok position) ∨
      decodePaginationCursor cursor = .error .invalidPaginationCursor) ∧
    (∀ (t : AwareDatetime) (itemId : Uuid), isV4 itemId = true →
      (CursorRoundTrips t itemId ↔ ∃ u, t.utc? = some u ∧ (u.microsecond = 0 ∨ u.microsecond % 10 ≠ 0))) ∧
    (∀ reviewRevisionId, Follows (listReviewComments db true reviewRevisionId limit) none
        (ordered commentKey (db.commentsOf reviewRevisionId)) ↔
      PageEnds n (ordered commentKey (db.commentsOf reviewRevisionId)) fun r =>
        isV4 r.reviewCommentId = true ∧ (r.createdAt.microsecond = 0 ∨ r.createdAt.microsecond % 10 ≠ 0)) ∧
    (∀ systemId, Follows (listPackageRevisions db true systemId limit) none
        (ordered revisionKey (db.revisionsOf systemId)) ↔
      PageEnds n (ordered revisionKey (db.revisionsOf systemId)) fun r =>
        isV4 r.packageRevisionId = true ∧ (r.createdAt.microsecond = 0 ∨ r.createdAt.microsecond % 10 ≠ 0)) ∧
    (∀ mayRead includeArchived, Follows (listSystems db mayRead includeArchived limit) none
        (ordered systemKey (db.systemsFor mayRead includeArchived)) ↔
      PageEnds n (ordered systemKey (db.systemsFor mayRead includeArchived)) fun r =>
        isV4 r.systemId = true ∧ (r.createdAt.microsecond = 0 ∨ r.createdAt.microsecond % 10 ≠ 0)) :=
  ⟨decodePaginationCursor_total, fun _ _ hv4 => cursorRoundTrips_iff hv4, listReviewComments_follows_iff hlimit,
    listPackageRevisions_follows_iff hlimit, listSystems_follows_iff hlimit⟩

namespace TwoComments

/-- half past eight and a fraction of a second -/
def halfPastEight (microsecond : Nat) (h : microsecond < 1000000) : Instant where
  year := 2026
  month := 3
  day := 1
  hour := 8
  minute := 30
  second := 0
  microsecond := microsecond
  year_ok := TwoRuns.year_ok
  month_ok := TwoRuns.march_ok
  day_ok := TwoRuns.first_ok
  time_ok := ⟨by decide, by decide, by decide, h⟩

/-- `00000000-0000-4000-8000-00000000000n` -/
def commentId (n : Nat) : Uuid := Uuid.ofNat (4 * 16 ^ 19 + 8 * 16 ^ 15 + n)

def review : Uuid := Uuid.ofNat 7

def tables (microsecond : Nat) (h : microsecond < 1000000) : SharedDb where
  comments := [⟨commentId 1, review, halfPastEight microsecond h⟩, ⟨commentId 2, review, halfPastEight microsecond h⟩]
  revisions := []
  systems := []
  comments_distinct := by
    show [commentId 1, commentId 2].Nodup
    decide
  revisions_distinct := List.nodup_nil
  systems_distinct := List.nodup_nil

end TwoComments

/-- Two comments, one to a page: half a second past stops at the first page, a microsecond past does not. -/
theorem sharedCursors_iff_two :
    Follows (listReviewComments (TwoComments.tables 1 (by decide)) true TwoComments.review (some 1)) none
        (ordered commentKey ((TwoComments.tables 1 (by decide)).commentsOf TwoComments.review)) ∧
      ¬Follows (listReviewComments (TwoComments.tables 500000 (by decide)) true TwoComments.review (some 1)) none
        (ordered commentKey ((TwoComments.tables 500000 (by decide)).commentsOf TwoComments.review)) := by
  have hone := sharedCursors_iff (TwoComments.tables 1 (by decide)) (some 1) 1 rfl
  have hhalf := sharedCursors_iff (TwoComments.tables 500000 (by decide)) (some 1) 1 rfl
  constructor
  · refine (hone.2.2.1 TwoComments.review).2 fun i r hr _ _ => ?_
    have hmem : r ∈ (TwoComments.tables 1 (by decide)).comments :=
      (List.mem_filter.1 (Keyset.mem_ordered.1 (List.mem_of_getElem? hr))).1
    have hall : ∀ r ∈ (TwoComments.tables 1 (by decide)).comments,
        isV4 r.reviewCommentId = true ∧ (r.createdAt.microsecond = 0 ∨ r.createdAt.microsecond % 10 ≠ 0) := by decide
    exact hall r hmem
  · intro hfollows
    have hends := (hhalf.2.2.1 TwoComments.review).1 hfollows
    have hfirst : (ordered commentKey ((TwoComments.tables 500000 (by decide)).commentsOf TwoComments.review))[0]? =
      some ⟨TwoComments.commentId 2, TwoComments.review, TwoComments.halfPastEight 500000 (by decide)⟩ := by decide
    have hcanonical := (hends 0 _ hfirst (by decide) (by decide)).2
    revert hcanonical
    decide

/-- Half a second past, and an identifier of version 4: the cursor is refused. -/
theorem halfSecond_refused : ¬∀ (t : AwareDatetime) (itemId : Uuid), isV4 itemId = true → CursorRoundTrips t itemId := by
  intro hall
  have hread := hall (.ofUtc (TwoComments.halfPastEight 500000 (by decide))) (TwoComments.commentId 1) (by decide)
  obtain ⟨u, hutc, htime⟩ := (cursorRoundTrips_iff (by decide)).1 hread
  rw [utc?_ofUtc] at hutc
  obtain rfl := Option.some.inj hutc
  revert htime
  decide

end AtoService.Listing
