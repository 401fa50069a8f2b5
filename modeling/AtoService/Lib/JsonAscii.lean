/-
JSON text in ASCII: `json.dumps` with its default `ensure_ascii=True`.

`dumpsAscii` escapes every character from DEL on, as one `\u` escape or as a surrogate pair. `readString_ascii` reads a
string back whatever its characters, and `loads_flat` an object of strings with a version number as its last member.
`utf8Decode` is the strict decoder of UTF-8 (`bytes.decode("utf-8")`); `loadsBytes` is `json.loads` of bytes.
-/
import AtoService.Lib.JsonRoundTrip
import AtoService.Lib.KeyedMerge
import AtoService.Lib.Sha

namespace AtoService.JsonText

open Json

def hex4Text (n : Nat) : List Char :=
  [hexChar (n / 4096 % 16), hexChar (n / 256 % 16), hexChar (n / 16 % 16), hexChar (n % 16)]

/-- a character with `ensure_ascii=True` -/
def uEscape (c : Char) : List Char :=
  let n := c.toNat
  if n < 127 then [c]
  else if n < 0x10000 then '\\' :: 'u' :: hex4Text n
  else '\\' :: 'u' :: hex4Text (0xD800 + (n - 0x10000) / 0x400) ++
    '\\' :: 'u' :: hex4Text (0xDC00 + (n - 0x10000) % 0x400)

def asciiText (cs : List Char) : List Char := cs.flatMap uEscape

/-- `json.dumps(value, sort_keys=True, separators=...)` -/
def dumpsAscii (f : Separators) (v : Json) : List Char := asciiText (dumps f v)

@[simp] theorem asciiText_append (cs ds : List Char) : asciiText (cs ++ ds) = asciiText cs ++ asciiText ds :=
  List.flatMap_append

theorem asciiText_of_ascii {cs : List Char} (h : ∀ c ∈ cs, c.toNat < 127) : asciiText cs = cs := by
  induction cs with
  | nil => rfl
  | cons c cs ih =>
    have hc := h c List.mem_cons_self
    rw [asciiText, List.flatMap_cons, ← asciiText, ih fun d hd => h d (List.mem_cons_of_mem _ hd), uEscape, if_pos hc]
    rfl

/-! ## Strings are read back -/

theorem hex4_hex4Text {n : Nat} (h : n < 65536) (cs : List Char) : hex4 (hex4Text n ++ cs) = some (n, cs) := by
  have ha := hexVal_hexChar (n / 4096 % 16) (by omega)
  have hb := hexVal_hexChar (n / 256 % 16) (by omega)
  have hc := hexVal_hexChar (n / 16 % 16) (by omega)
  have hd := hexVal_hexChar (n % 16) (by omega)
  have hsum : ((n / 4096 % 16 * 16 + n / 256 % 16) * 16 + n / 16 % 16) * 16 + n % 16 = n := by omega
  simp only [hex4Text, List.cons_append, List.nil_append, hex4, ha, hb, hc, hd, Option.bind_eq_bind, Option.bind_some,
    hsum]
  rfl

theorem readUnicode_single {n : Nat} (h : n < 0x10000) (hplain : n < 0xD800 ∨ 0xDFFF < n) (cs : List Char) :
    readUnicode (hex4Text n ++ cs) = some (Char.ofNat n, cs) := by
  rw [readUnicode, hex4_hex4Text h]
  simp only [Option.bind_eq_bind, Option.bind_some]
  rw [if_neg (by omega), if_neg (by omega)]

theorem readUnicode_pair (hi lo : Nat) (hhi : 0xD800 ≤ hi ∧ hi < 0xDC00) (hlo : 0xDC00 ≤ lo ∧ lo < 0xE000)
    (cs : List Char) : readUnicode (hex4Text hi ++ '\\' :: 'u' :: (hex4Text lo ++ cs)) =
      some (Char.ofNat (0x10000 + (hi - 0xD800) * 0x400 + (lo - 0xDC00)), cs) := by
  have hfirst : hi < 65536 := by omega
  have hsecond : lo < 65536 := by omega
  rw [readUnicode, hex4_hex4Text hfirst]
  simp only [Option.bind_eq_bind, Option.bind_some, if_pos hhi]
  rw [hex4_hex4Text hsecond]
  simp only [Option.bind_some, if_pos hlo]

theorem readUnicode_uEscape {c : Char} (h : 127 ≤ c.toNat) (cs : List Char) :
    ∃ es, uEscape c ++ cs = '\\' :: 'u' :: es ∧ readUnicode es = some (c, cs) := by
  have hvalid : c.toNat < 0xD800 ∨ 0xDFFF < c.toNat ∧ c.toNat < 0x110000 := by
    have h := c.valid
    simp only [UInt32.isValidChar, Nat.isValidChar] at h
    exact h
  by_cases hbmp : c.toNat < 0x10000
  · refine ⟨hex4Text c.toNat ++ cs, ?_, ?_⟩
    · rw [uEscape, if_neg (by omega), if_pos hbmp]
      rfl
    · rw [readUnicode_single hbmp (by omega), Char.ofNat_toNat]
  · refine ⟨_, ?_, (readUnicode_pair (0xD800 + (c.toNat - 0x10000) / 0x400)
      (0xDC00 + (c.toNat - 0x10000) % 0x400) (by omega) (by omega) cs).trans ?_⟩
    · rw [uEscape, if_neg (by omega), if_neg hbmp]
      simp only [List.cons_append, List.append_assoc]
    · have hsum : 0x10000 + (0xD800 + (c.toNat - 0x10000) / 0x400 - 0xD800) * 0x400 +
          (0xDC00 + (c.toNat - 0x10000) % 0x400 - 0xDC00) = c.toNat := by omega
      rw [hsum, Char.ofNat_toNat]

/-- one character is read back -/
theorem readString_asciiEscape (k : Nat) (c : Char) (cs : List Char) :
    readString (k + 1) (asciiText (escapeChar c) ++ cs) = (readString k cs).map fun p => (c :: p.1, p.2) := by
  by_cases hc : c.toNat < 127
  · have hascii : ∀ d ∈ escapeChar c, d.toNat < 127 := by
      by_cases hplain : c ≠ '"' ∧ c ≠ '\\' ∧ 32 ≤ c.toNat
      · rw [escapeChar_plain hplain.1 hplain.2.1 hplain.2.2]
        simpa using hc
      · have hlow : ∀ n < 127, ((escapeChar (Char.ofNat n)).all fun d => d.toNat < 127) = true := by decide
        have hread := hlow c.toNat hc
        rw [Char.ofNat_toNat, List.all_eq_true] at hread
        exact fun d hd => of_decide_eq_true (hread d hd)
    rw [asciiText_of_ascii hascii, readString_escapeChar]
  · have hplain : escapeChar c = [c] := by
      refine escapeChar_plain ?_ ?_ (by omega)
      · rintro rfl
        exact hc (by decide)
      · rintro rfl
        exact hc (by decide)
    obtain ⟨es, hes, hread⟩ := readUnicode_uEscape (by omega : 127 ≤ c.toNat) cs
    have hsingle : asciiText [c] = uEscape c := by simp [asciiText]
    rw [hplain, hsingle, hes]
    exact readString_backslash k hread

theorem asciiText_cons (c : Char) (cs : List Char) : asciiText (c :: cs) = uEscape c ++ asciiText cs :=
  List.flatMap_cons

theorem length_le_asciiText (cs : List Char) : cs.length ≤ (asciiText cs).length := by
  induction cs with
  | nil => exact Nat.zero_le _
  | cons c cs ih =>
    have hpos : 1 ≤ (uEscape c).length := by
      unfold uEscape
      dsimp only
      split_ifs <;> simp
    rw [asciiText_cons, List.length_append, List.length_cons]
    omega

/-- **A string is read back from its text in ASCII.** -/
theorem readString_ascii (cs rest : List Char) {k : Nat} (hk : cs.length < k) :
    readString k (asciiText (cs.flatMap escapeChar) ++ '"' :: rest) = some (cs, rest) := by
  induction cs generalizing k with
  | nil =>
    obtain ⟨k, rfl⟩ : ∃ k', k = k' + 1 := ⟨k - 1, by omega⟩
    rfl
  | cons c cs ih =>
    rw [List.length_cons] at hk
    obtain ⟨k, rfl⟩ : ∃ k', k = k' + 1 := ⟨k - 1, by omega⟩
    rw [List.flatMap_cons, asciiText_append, List.append_assoc, readString_asciiEscape, ih (by omega)]
    rfl

/-- the text of a string, before whatever text follows -/
theorem asciiText_quote (s : String) (rest : List Char) : asciiText (quote (Py.chars s)) ++ rest =
    '"' :: (asciiText ((Py.chars s).flatMap escapeChar) ++ '"' :: rest) := by
  have hquote : uEscape '"' = ['"'] := by decide
  rw [quote, asciiText_append, asciiText_cons, hquote]
  simp [asciiText, hquote]

theorem readString_asciiQuote (s : String) (rest : List Char) {n : Nat}
    (hn : (asciiText ((Py.chars s).flatMap escapeChar) ++ '"' :: rest).length ≤ n) :
    readString (n + 1) (asciiText ((Py.chars s).flatMap escapeChar) ++ '"' :: rest) = some (Py.chars s, rest) := by
  have hescape := length_le_flatMap_escapeChar (Py.chars s)
  have hascii := length_le_asciiText ((Py.chars s).flatMap escapeChar)
  rw [List.length_append] at hn
  exact readString_ascii _ _ (by omega)

theorem readValue_ascii (k : Nat) (s : String) (rest : List Char) :
    readValue (k + 1) (asciiText (quote (Py.chars s)) ++ rest) = some (.str s, rest) := by
  rw [asciiText_quote, readValue, if_pos rfl, readString_asciiQuote s rest le_rfl, Option.map_some, ofList_chars]

/-! ## Objects of strings -/

theorem skipWs_of_head {c : Char} (h : isWs c = false) (cs : List Char) : skipWs (c :: cs) = c :: cs := by
  rw [skipWs, List.dropWhile_cons, h]
  rfl

theorem skipWs_asciiQuote (s : String) (rest : List Char) :
    skipWs (asciiText (quote (Py.chars s)) ++ rest) = asciiText (quote (Py.chars s)) ++ rest := by
  rw [asciiText_quote]
  exact skipWs_of_head (by decide) _

/-- the members of a cursor: strings, and the version at the end -/
def flatMembers (fields : List (String × String)) : List (String × Json) :=
  fields.map (fun p => (p.1, .str p.2)) ++ [("v", .int 1)]

/-- their texts, with the commas between them -/
def flatText (fields : List (String × String)) : List Char :=
  asciiText (joinText [','] ((flatMembers fields).map (memberText .compact)))

@[simp] theorem flatText_nil : flatText [] = ['"', 'v', '"', ':', '1'] := by decide

theorem asciiText_memberText (key s : String) : asciiText (memberText .compact (key, .str s)) =
    asciiText (quote (Py.chars key)) ++ ':' :: asciiText (quote (Py.chars s)) := by
  have hcolon : asciiText Separators.compact.key = [':'] := by decide
  rw [memberText, asciiText_append, asciiText_append, hcolon, dumps, List.append_assoc, List.singleton_append]

theorem flatText_cons (key s : String) (fields : List (String × String)) : flatText ((key, s) :: fields) =
    asciiText (quote (Py.chars key)) ++ ':' :: (asciiText (quote (Py.chars s)) ++ ',' :: flatText fields) := by
  have hcomma : asciiText [','] = [','] := by decide
  have hne : (flatMembers fields).map (memberText .compact) ≠ [] := by simp [flatMembers]
  have hmembers : flatMembers ((key, s) :: fields) = (key, .str s) :: flatMembers fields := rfl
  rw [flatText, hmembers, List.map_cons, joinText_cons, if_neg hne, asciiText_append, asciiText_append,
    asciiText_memberText, hcomma, flatText]
  simp only [List.append_assoc, List.cons_append, List.nil_append]

theorem flatText_head (fields : List (String × String)) : ∃ cs, flatText fields = '"' :: cs := by
  cases fields with
  | nil => exact ⟨_, flatText_nil⟩
  | cons p fields =>
    rw [flatText_cons, asciiText_quote]
    exact ⟨_, rfl⟩

/-- a member with a string, before the next member -/
theorem readMembers_text (k : Nat) (key s : String) (rest : List Char) :
    readMembers (k + 2) (asciiText (quote (Py.chars key)) ++ ':' :: (asciiText (quote (Py.chars s)) ++ ',' :: '"' :: rest)) =
      (readMembers (k + 1) ('"' :: rest)).map fun p => ((key, .str s) :: p.1, p.2) := by
  rw [asciiText_quote, readMembers]
  simp only [readString_asciiQuote key _ le_rfl]
  rw [skipWs_of_head (by decide)]
  simp only [skipWs_asciiQuote, readValue_ascii]
  rw [skipWs_of_head (by decide)]
  simp only [skipWs_of_head (show isWs '"' = false by decide), ofList_chars]

theorem readMembers_version (k : Nat) (rest : List Char) :
    readMembers (k + 2) ('"' :: 'v' :: '"' :: ':' :: '1' :: '}' :: rest) = some ([("v", .int 1)], rest) := by
  have hone : readValue (k + 1) ('1' :: '}' :: rest) = some (.int 1, '}' :: rest) := by
    refine @readValue_int k 1 ('}' :: rest) ?_
    intro c hc
    cases hc
    exact Or.inr (Or.inr rfl)
  have hkey : readString (('v' :: '"' :: ':' :: '1' :: '}' :: rest).length + 1) ('v' :: '"' :: ':' :: '1' :: '}' :: rest) =
      some (['v'], ':' :: '1' :: '}' :: rest) := rfl
  rw [readMembers]
  simp only [hkey]
  rw [skipWs_of_head (by decide)]
  simp only [skipWs_of_head (show isWs '1' = false by decide), hone]
  rw [skipWs_of_head (by decide)]
  rfl

theorem readMembers_flat (fields : List (String × String)) (k : Nat) (rest : List Char) :
    readMembers (k + fields.length + 2) (flatText fields ++ '}' :: rest) = some (flatMembers fields, rest) := by
  induction fields with
  | nil => exact readMembers_version k rest
  | cons p fields ih =>
    obtain ⟨key, s⟩ := p
    obtain ⟨cs, hcs⟩ := flatText_head fields
    rw [hcs, List.cons_append] at ih
    rw [flatText_cons, hcs, List.append_assoc, List.cons_append, List.append_assoc, List.cons_append, List.cons_append,
      readMembers_text, List.length_cons]
    show (readMembers (k + fields.length + 2) _).map _ = _
    rw [ih]
    rfl

theorem length_quote (s : String) :
    (asciiText (quote (Py.chars s))).length = (asciiText ((Py.chars s).flatMap escapeChar)).length + 2 := by
  have htext := congrArg List.length (asciiText_quote s [])
  simpa using htext

theorem length_flatText_cons (key s : String) (fields : List (String × String)) :
    (flatText ((key, s) :: fields)).length = (asciiText ((Py.chars key).flatMap escapeChar)).length +
      (asciiText ((Py.chars s).flatMap escapeChar)).length + 6 + (flatText fields).length := by
  rw [flatText_cons]
  simp only [List.length_append, List.length_cons, length_quote]
  omega

theorem length_le_flatText (fields : List (String × String)) : fields.length ≤ (flatText fields).length := by
  induction fields with
  | nil => exact Nat.zero_le _
  | cons p fields ih =>
    rw [length_flatText_cons, List.length_cons]
    omega

/-- the text of members in any order, which `sort_keys` puts in this one -/
theorem dumpsAscii_flat {fs : List (String × Json)} {fields : List (String × String)}
    (h : KeyedList.sorted Prod.fst fs = flatMembers fields) :
    dumpsAscii .compact (.obj fs) = '{' :: (flatText fields ++ ['}']) := by
  have hopen : uEscape '{' = ['{'] := by decide
  have hclose : asciiText ['}'] = ['}'] := by decide
  rw [dumpsAscii, dumps_obj, h, List.cons_append, asciiText_cons, hopen, asciiText_append, hclose]
  rfl

/-- **An object of strings with its version is read back.** -/
theorem loads_flat {fields : List (String × String)} (h : KeyedList.Distinct Prod.fst (flatMembers fields)) :
    loads ('{' :: (flatText fields ++ ['}'])) = some (.obj (flatMembers fields)) := by
  have hread := readMembers_flat fields (2 * (flatText fields).length + 3 - fields.length) []
  have hlength := length_le_flatText fields
  have hfuel : 2 * (flatText fields).length + 3 - fields.length + fields.length + 2 =
      2 * (flatText fields).length + 5 := by omega
  obtain ⟨cs, hcs⟩ := flatText_head fields
  have hvalue : readValue (2 * ('{' :: (flatText fields ++ ['}'])).length + 2) ('{' :: (flatText fields ++ ['}'])) =
      some (.obj (flatMembers fields), []) := by
    have hlen : 2 * ('{' :: (flatText fields ++ ['}'])).length + 2 = 2 * (flatText fields).length + 5 + 1 := by
      simp only [List.length_cons, List.length_append, List.length_nil]
      omega
    rw [hlen, readValue, if_neg (by decide), if_neg (by decide), if_pos rfl]
    rw [hfuel] at hread
    rw [hcs, List.cons_append] at hread ⊢
    rw [skipWs_of_head (by decide)]
    show (readMembers _ _).map (fun p => (obj (KeyedList.ofList Prod.fst p.1), p.2)) = _
    rw [hread, Option.map_some, KeyedList.ofList_eq h]
  rw [loads, skipWs_of_head (by decide), hvalue]
  rfl

/-! ## Bytes -/

/-- a continuation byte of UTF-8 -/
def isTail (b : Nat) : Bool := 0x80 ≤ b && b < 0xC0

/-- `bytes.decode("utf-8")`; nothing where it raises -/
def utf8Decode : List Nat → Option (List Char)
  | [] => some []
  | a :: bs =>
    if a < 0x80 then (Char.ofNat a :: ·) <$> utf8Decode bs
    else
      match bs with
      | [] => none
      | b :: bs =>
        if !isTail b then none
        else if 0xC2 ≤ a && a < 0xE0 then (Char.ofNat ((a - 0xC0) * 64 + (b - 0x80)) :: ·) <$> utf8Decode bs
        else
          match bs with
          | [] => none
          | c :: bs =>
            if !isTail c then none
            -- no overlong forms and no surrogates
            else if a = 0xE0 && b < 0xA0 || a = 0xED && 0xA0 ≤ b then none
            else if 0xE0 ≤ a && a < 0xF0 then
              (Char.ofNat ((a - 0xE0) * 4096 + (b - 0x80) * 64 + (c - 0x80)) :: ·) <$> utf8Decode bs
            else
              match bs with
              | [] => none
              | d :: bs =>
                if !isTail d then none
                -- from U+10000 to U+10FFFF
                else if a = 0xF0 && b < 0x90 || a = 0xF4 && 0x90 ≤ b then none
                else if 0xF0 ≤ a && a < 0xF5 then
                  (Char.ofNat ((a - 0xF0) * 262144 + (b - 0x80) * 4096 + (c - 0x80) * 64 + (d - 0x80)) :: ·) <$>
                    utf8Decode bs
                else none

/-- bytes that `json.loads` takes for UTF-16 or UTF-32: by their byte order mark, or by a zero among the first two -/
def isWide : List Nat → Bool
  | 0xFE :: 0xFF :: _ | 0xFF :: 0xFE :: _ | 0 :: 0 :: 0xFE :: 0xFF :: _ => true
  | [a, b] => a = 0 || b = 0
  | a :: b :: _ :: _ :: _ => a = 0 || b = 0
  | _ => false

/-- `json.loads(bytes)`; `readWide` reads a text in UTF-16 or UTF-32 -/
def loadsBytes (readWide : List Nat → Option (List Char)) (bs : List Nat) : Option Json :=
  if isWide bs then readWide bs >>= loads
  else
    match bs with
    | 0xEF :: 0xBB :: 0xBF :: rest => utf8Decode rest >>= loads
    | bs => utf8Decode bs >>= loads

theorem hexChar_ascii : ∀ n < 16, (hexChar n).toNat < 127 := by decide

theorem mem_hex4Text {n : Nat} {c : Char} (h : c ∈ hex4Text n) : c.toNat < 127 := by
  simp only [hex4Text, List.mem_cons, List.not_mem_nil, or_false] at h
  rcases h with rfl | rfl | rfl | rfl
  · exact hexChar_ascii _ (by omega)
  · exact hexChar_ascii _ (by omega)
  · exact hexChar_ascii _ (by omega)
  · exact hexChar_ascii _ (by omega)

theorem ascii_of_mem_asciiText {cs : List Char} {c : Char} (h : c ∈ asciiText cs) : c.toNat < 127 := by
  obtain ⟨d, -, hc⟩ := List.mem_flatMap.1 h
  have hescape : ('\\' : Char).toNat < 127 ∧ ('u' : Char).toNat < 127 := by decide
  unfold uEscape at hc
  dsimp only at hc
  split_ifs at hc with hplain hbmp
  · rw [List.mem_singleton] at hc
    rwa [hc]
  · simp only [List.mem_cons] at hc
    rcases hc with rfl | rfl | hc
    · exact hescape.1
    · exact hescape.2
    · exact mem_hex4Text hc
  · simp only [List.mem_append, List.mem_cons] at hc
    rcases hc with (rfl | rfl | hc) | rfl | rfl | hc
    · exact hescape.1
    · exact hescape.2
    · exact mem_hex4Text hc
    · exact hescape.1
    · exact hescape.2
    · exact mem_hex4Text hc

theorem utf8_ascii {cs : List Char} (h : ∀ c ∈ cs, c.toNat < 127) : Sha.utf8 cs = cs.map Char.toNat := by
  induction cs with
  | nil => rfl
  | cons c cs ih =>
    have hc := h c List.mem_cons_self
    have hchar : Sha.utf8Char c = [c.toNat] := by
      unfold Sha.utf8Char
      exact if_pos (by omega)
    rw [Sha.utf8, List.flatMap_cons, ← Sha.utf8, ih fun d hd => h d (List.mem_cons_of_mem _ hd), hchar]
    rfl

/-- a text in ASCII is read back from its bytes -/
theorem utf8Decode_ascii {cs : List Char} (h : ∀ c ∈ cs, c.toNat < 127) : utf8Decode (cs.map Char.toNat) = some cs := by
  induction cs with
  | nil => rfl
  | cons c cs ih =>
    have hc := h c List.mem_cons_self
    rw [List.map_cons, utf8Decode.eq_def]
    dsimp only
    rw [if_pos (by omega), ih fun d hd => h d (List.mem_cons_of_mem _ hd), Char.ofNat_toNat]
    rfl

/-- an object in ASCII is not taken for UTF-16 or UTF-32 -/
theorem loadsBytes_ascii (readWide : List Nat → Option (List Char)) {cs : List Char}
    (h : ∀ c ∈ '{' :: '"' :: cs, c.toNat < 127) :
    loadsBytes readWide (('{' :: '"' :: cs).map Char.toNat) = loads ('{' :: '"' :: cs) := by
  have hwide : isWide (('{' :: '"' :: cs).map Char.toNat) = false := by
    rcases cs with _ | ⟨c, _ | ⟨d, cs⟩⟩ <;> rfl
  have hread := utf8Decode_ascii h
  unfold loadsBytes
  rw [hwide, if_neg (by decide)]
  show (utf8Decode (('{' :: '"' :: cs).map Char.toNat) >>= loads) = _
  rw [hread]
  rfl

end AtoService.JsonText
