/-
Relationship parts of Office containers: which `extract_docx` and `extract_xlsx` refuse.

The refusal searches the text of a part for two patterns. What a part says is in the attributes that an XML parser reads
in it, each with its value as it was written and the one it stands for. `matchesMode_plain` and `matchesTarget_plain`: an
attribute that is written plainly is found. `officeMembers_iff`: in what is let through there is no external relationship
exactly if each one is written plainly, in a part whose path ends in lower case.
-/
import AtoService.Extraction.BoundedXml

namespace AtoService.Extraction.Rels

open Results Zip

/-! ## Patterns -/

/-- the lower-case letter that a letter stands for under `re.IGNORECASE`, for patterns in ASCII -/
def foldLetter (c : Char) : Char :=
  if c = '\u017f' then 's' else if c = '\u212a' then 'k' else if c = '\u0130' ∨ c = '\u0131' then 'i' else c.toLower

/-- the text after a word in any letter case -/
def afterWord : List Char → List Char → Option (List Char)
  | [], text => some text
  | _ :: _, [] => none
  | p :: word, c :: text => if foldLetter c = foldLetter p then afterWord word text else none

def afterLiteral : List Char → List Char → Option (List Char)
  | [], text => some text
  | _ :: _, [] => none
  | p :: word, c :: text => if c = p then afterLiteral word text else none

/-- `\s*` -/
def skipSpace (text : List Char) : List Char := text.dropWhile Py.isSpace

def quotes : List Char := ['"', '\'']

/-- after `name\s*=\s*(['"])\s*`: the quote, and the text that follows -/
def opened (name text : List Char) : Option (Char × List Char) := do
  let text ← afterWord name text
  let text ← afterLiteral ['='] (skipSpace text)
  match skipSpace text with
  | quote :: text => if quote ∈ quotes then some (quote, skipSpace text) else none
  | [] => none

def asciiLetter (c : Char) : Bool := ('a' ≤ c && c ≤ 'z') || ('A' ≤ c && c ≤ 'Z')

/-- `[a-z]` under `re.IGNORECASE` -/
def isLetter (c : Char) : Bool := asciiLetter (foldLetter c)

def schemeMark (c : Char) : Bool := ('0' ≤ c && c ≤ '9') || c = '+' || c = '.' || c = '-'

/-- after `[a-z][a-z0-9+.-]*:` -/
def afterScheme : List Char → Option (List Char)
  | [] => none
  | c :: text => if isLetter c then afterLiteral [':'] (text.dropWhile fun c => isLetter c || schemeMark c) else none

/-- `_EXTERNAL_TARGET_MODE_PATTERN`, from its first letter on -/
def matchesMode (text : List Char) : Bool :=
  match opened "TargetMode".toList text with
  | none => false
  | some (quote, text) =>
    match afterWord "External".toList text with
    | none => false
    | some text => (skipSpace text).head? = some quote

/-- `[^'"]*\1` -/
def closes (quote : Char) (text : List Char) : Bool := (text.dropWhile (· ∉ quotes)).head? = some quote

/-- `_EXTERNAL_TARGET_PATTERN`, from its first letter on -/
def matchesTarget (text : List Char) : Bool :=
  match opened "Target".toList text with
  | none => false
  | some (quote, text) =>
    [afterScheme text, afterLiteral ['/', '/'] text, afterLiteral ['\\', '\\'] text].any fun rest =>
      rest.any (closes quote)

/-- the characters of white space in XML -/
def xmlSpaces : List Char := [' ', '\t', '\n', '\r']

/-- the characters of words; white space is none of them -/
structure WordChars where
  isWord : Char → Bool
  space : ∀ c ∈ xmlSpaces, isWord c = false

/-- `\b` and the pattern, after the character `before` -/
def search (w : WordChars) (pattern : List Char → Bool) : Option Char → List Char → Bool
  | _, [] => false
  | before, c :: text =>
    (before.all fun b => !w.isWord b) && pattern (c :: text) || search w pattern (some c) text

/-! ## Office containers -/

structure Reader where
  words : WordChars
  /-- `data.decode("utf-8")`, where the data is UTF-8 -/
  utf8 : List UInt8 → Option (List Char)

def externalRelationship : ExtractionError := ⟨"external relationship target rejected", "unsafe_archive"⟩

def rejectExternalRelationshipTargets (r : Reader) (data : List UInt8) : Except ExtractionError Unit := do
  let text ← orRaise (r.utf8 data) ⟨"relationship XML is not valid UTF-8", "source_parse_failed"⟩
  ensure (¬(search r.words matchesMode none text = true ∨ search r.words matchesTarget none text = true))
    externalRelationship

def relsExtension : List Char := ".rels".toList

def checkRelationships (r : Reader) : List ZipMember → Except ExtractionError Unit
  | [] => .ok ()
  | m :: members =>
    if relsExtension <:+ m.normalizedPath then do
      rejectExternalRelationshipTargets r m.data
      checkRelationships r members
    else checkRelationships r members

/-- what `extract_docx` and `extract_xlsx` do first -/
def officeMembers (u : Unicode) (r : Reader) (limits : ExtractionLimits) (archive : Option (List ZipInfo)) :
    Except ZipError (List ZipMember) := do
  let members ← openSafeZip u limits true archive
  (checkRelationships r members).mapError .extraction
  return members

/-! ## Attributes -/

def named (reference : List Char) : Option Char :=
  if reference = "amp".toList then some '&'
  else if reference = "lt".toList then some '<'
  else if reference = "gt".toList then some '>'
  else if reference = "apos".toList then some '\''
  else if reference = "quot".toList then some '"'
  else none

def digitValue (c : Char) : Nat :=
  if c.isDigit then c.toNat - '0'.toNat else if c.isLower then c.toNat - 'a'.toNat + 10 else c.toNat - 'A'.toNat + 10

def numeral (base : Nat) (digits : List Char) : Nat := digits.foldl (fun n c => n * base + digitValue c) 0

/-- the character that `&reference;` stands for -/
def referenced : List Char → Option Char
  | '#' :: 'x' :: digits => some (Char.ofNat (numeral 16 digits))
  | '#' :: digits => some (Char.ofNat (numeral 10 digits))
  | reference => named reference

/-- the value of an attribute, with so many characters left at most -/
def decodeWith : Nat → List Char → List Char
  | 0, _ => []
  | _, [] => []
  | k + 1, c :: text =>
    if c = '&' then
      match referenced (text.takeWhile (· ≠ ';')) with
      | some d => d :: decodeWith k (text.dropWhile (· ≠ ';')).tail
      | none => c :: decodeWith k text
    else (if c ∈ xmlSpaces then ' ' else c) :: decodeWith k text

def decode (raw : List Char) : List Char := decodeWith raw.length raw

/-- an attribute as it stands in a start tag, after white space -/
structure Attribute where
  before : Char
  name : List Char
  spaceBefore : List Char
  spaceAfter : List Char
  quote : Char
  raw : List Char
  before_space : before ∈ xmlSpaces
  spaceBefore_space : ∀ c ∈ spaceBefore, c ∈ xmlSpaces
  spaceAfter_space : ∀ c ∈ spaceAfter, c ∈ xmlSpaces
  quote_mem : quote ∈ quotes

/-- from the name on -/
def Attribute.written (a : Attribute) : List Char :=
  a.name ++ (a.spaceBefore ++ '=' :: (a.spaceAfter ++ a.quote :: (a.raw ++ [a.quote])))

/-- a URI scheme, two slashes or two backslashes stand first -/
def startsExternal (value : List Char) : Prop :=
  (∃ c front rest, value = c :: front ++ ':' :: rest ∧ asciiLetter c = true ∧
    ∀ d ∈ front, (asciiLetter d || schemeMark d) = true) ∨ ['/', '/'] <+: value ∨ ['\\', '\\'] <+: value

/-- an attribute `TargetMode` or `Target` with the value that makes a relationship external -/
def external (name value : List Char) : Prop :=
  name = "TargetMode".toList ∧ value = "External".toList ∨ name = "Target".toList ∧ startsExternal value

def Attribute.External (a : Attribute) : Prop := external a.name (decode a.raw)

/-- the value is external as it is written, and a target has no quotation mark in it -/
def Attribute.Plain (a : Attribute) : Prop :=
  external a.name a.raw ∧ (a.name = "Target".toList → ∀ c ∈ a.raw, c ∉ quotes)

/-- a path that ends in `.rels`, in any letter case -/
def relationshipPart (path : List Char) : Prop :=
  ∃ front back, path = front ++ back ∧ back.map Char.toLower = relsExtension

/-- no relationship part has an external relationship; `relationships` reads the attributes of each one in a part -/
def NoExternal (relationships : List UInt8 → List (List Attribute)) (members : List ZipMember) : Prop :=
  ∀ m ∈ members, relationshipPart m.normalizedPath → ∀ attributes ∈ relationships m.data, ∀ a ∈ attributes, ¬a.External

/-- each external relationship is written plainly, in UTF-8, in a part whose path ends in lower case -/
def WrittenPlainly (r : Reader) (relationships : List UInt8 → List (List Attribute)) (members : List ZipMember) :
    Prop :=
  ∀ m ∈ members, relationshipPart m.normalizedPath → ∀ attributes ∈ relationships m.data, ∀ a ∈ attributes, a.External →
    relsExtension <:+ m.normalizedPath ∧ a.Plain ∧
      ∃ text front back, r.utf8 m.data = some text ∧ text = front ++ a.before :: (a.written ++ back)

/-! ## Plain attributes are found -/

theorem afterWord_self (word text : List Char) : afterWord word (word ++ text) = some text := by
  induction word with
  | nil => rfl
  | cons c word ih => rw [List.cons_append, afterWord, if_pos rfl, ih]

theorem afterLiteral_self (word text : List Char) : afterLiteral word (word ++ text) = some text := by
  induction word with
  | nil => rfl
  | cons c word ih => rw [List.cons_append, afterLiteral, if_pos rfl, ih]

theorem skipSpace_append {space text : List Char} (h : ∀ c ∈ space, c ∈ xmlSpaces) :
    skipSpace (space ++ text) = skipSpace text := by
  have hspace : ∀ c ∈ xmlSpaces, Py.isSpace c = true := by decide
  exact List.dropWhile_append_of_pos fun c hc => hspace c (h c hc)

theorem skipSpace_cons {c : Char} {text : List Char} (h : Py.isSpace c = false) : skipSpace (c :: text) = c :: text :=
  List.dropWhile_cons_of_neg (by rw [h]; exact Bool.false_ne_true)

theorem isSpace_quote {c : Char} (h : c ∈ quotes) : Py.isSpace c = false := by
  revert h c
  decide

theorem search_append (w : WordChars) (pattern : List Char → Bool) {before : Option Char} {front text : List Char}
    {b : Char} (hb : w.isWord b = false) (hne : text ≠ []) (hmatch : pattern text = true) :
    search w pattern before (front ++ b :: text) = true := by
  induction front generalizing before with
  | nil =>
    obtain ⟨c, rest, rfl⟩ := List.exists_cons_of_ne_nil hne
    rw [List.nil_append, search, search, Option.all_some, hb, hmatch]
    simp
  | cons c front ih => rw [List.cons_append, search, ih, Bool.or_true]

/-- the value of an attribute is reached -/
theorem opened_written (a : Attribute) (back : List Char) :
    opened a.name (a.written ++ back) = some (a.quote, skipSpace (a.raw ++ a.quote :: back)) := by
  have hquote := isSpace_quote a.quote_mem
  have hwritten : a.written ++ back =
      a.name ++ (a.spaceBefore ++ '=' :: (a.spaceAfter ++ a.quote :: (a.raw ++ a.quote :: back))) := by
    simp [Attribute.written]
  rw [hwritten, opened, afterWord_self, Option.bind_eq_bind, Option.bind_some, skipSpace_append a.spaceBefore_space,
    skipSpace_cons (by decide), afterLiteral, if_pos rfl, afterLiteral, Option.bind_some,
    skipSpace_append a.spaceAfter_space, skipSpace_cons hquote]
  dsimp only
  rw [if_pos a.quote_mem]

theorem matchesMode_plain {a : Attribute} (hname : a.name = "TargetMode".toList) (hraw : a.raw = "External".toList)
    (back : List Char) : matchesMode (a.written ++ back) = true := by
  have hstart : skipSpace (a.raw ++ a.quote :: back) = "External".toList ++ a.quote :: back := by
    rw [hraw]
    exact skipSpace_cons (by decide)
  rw [matchesMode, ← hname, opened_written, hstart]
  dsimp only
  rw [afterWord_self]
  dsimp only
  rw [skipSpace_cons (isSpace_quote a.quote_mem), List.head?_cons, decide_eq_true rfl]

theorem toNat_lt_of_ascii {c : Char} (h : asciiLetter c = true) : c.toNat < 128 := by
  simp only [asciiLetter, Bool.or_eq_true, Bool.and_eq_true, decide_eq_true_eq, Char.le_def,
    UInt32.le_iff_toNat_le] at h
  rcases h with ⟨-, h⟩ | ⟨-, h⟩
  · exact lt_of_le_of_lt h (by decide)
  · exact lt_of_le_of_lt h (by decide)

theorem isLetter_of_ascii {c : Char} (h : asciiLetter c = true) : isLetter c = true := by
  have hall : ∀ n < 128, asciiLetter (Char.ofNat n) = true → isLetter (Char.ofNat n) = true := by decide
  have hbound := toNat_lt_of_ascii h
  rw [← Char.ofNat_toNat c] at h ⊢
  exact hall _ hbound h

theorem not_space_of_ascii {c : Char} (h : asciiLetter c = true) : Py.isSpace c = false := by
  have hall : ∀ n < 128, asciiLetter (Char.ofNat n) = true → Py.isSpace (Char.ofNat n) = false := by decide
  have hbound := toNat_lt_of_ascii h
  rw [← Char.ofNat_toNat c] at h ⊢
  exact hall _ hbound h

theorem closes_self {quote : Char} {text back : List Char} (hquote : quote ∈ quotes) (h : ∀ c ∈ text, c ∉ quotes) :
    closes quote (text ++ quote :: back) = true := by
  rw [closes, List.dropWhile_append_of_pos (by simpa using h), List.dropWhile_cons_of_neg (by simpa using hquote),
    List.head?_cons, decide_eq_true rfl]

theorem afterScheme_plain {c : Char} {front rest : List Char} (hc : asciiLetter c = true)
    (hfront : ∀ d ∈ front, (asciiLetter d || schemeMark d) = true) :
    afterScheme (c :: front ++ ':' :: rest) = some rest := by
  have hdrop : (front ++ ':' :: rest).dropWhile (fun c => isLetter c || schemeMark c) = ':' :: rest := by
    rw [List.dropWhile_append_of_pos, List.dropWhile_cons_of_neg (by decide)]
    intro d hd
    rcases Bool.or_eq_true_iff.1 (hfront d hd) with hletter | hmark
    · rw [isLetter_of_ascii hletter, Bool.true_or]
    · rw [hmark, Bool.or_true]
  rw [List.cons_append, afterScheme, if_pos (isLetter_of_ascii hc), hdrop, afterLiteral, if_pos rfl, afterLiteral]

theorem matchesTarget_plain {a : Attribute} (hname : a.name = "Target".toList) (hraw : startsExternal a.raw)
    (hquotes : ∀ c ∈ a.raw, c ∉ quotes) (back : List Char) : matchesTarget (a.written ++ back) = true := by
  have hclose : ∀ {front rest : List Char}, a.raw = front ++ rest → closes a.quote (rest ++ a.quote :: back) = true :=
    fun heq => closes_self a.quote_mem fun c hc => hquotes c (heq ▸ List.mem_append_right _ hc)
  rw [matchesTarget, ← hname, opened_written]
  dsimp only
  rcases hraw with ⟨c, front, rest, heq, hc, hfront⟩ | ⟨rest, heq⟩ | ⟨rest, heq⟩
  · have hstart : skipSpace (a.raw ++ a.quote :: back) = c :: front ++ ':' :: (rest ++ a.quote :: back) := by
      rw [heq, List.append_assoc, List.cons_append, skipSpace_cons (not_space_of_ascii hc)]
      simp
    have hsplit : a.raw = (c :: front ++ [':']) ++ rest := by
      rw [heq, List.append_assoc]
      rfl
    have hrest : closes a.quote (rest ++ a.quote :: back) = true := hclose hsplit
    rw [hstart, afterScheme_plain hc hfront, List.any_cons, Option.any_some, hrest, Bool.true_or]
  · have hstart : skipSpace (a.raw ++ a.quote :: back) = ['/', '/'] ++ (rest ++ a.quote :: back) := by
      rw [← heq, List.append_assoc, List.cons_append, skipSpace_cons (by decide)]
    rw [hstart, afterLiteral_self, List.any_cons, List.any_cons, Option.any_some, hclose heq.symm, Bool.true_or,
      Bool.or_true]
  · have hstart : skipSpace (a.raw ++ a.quote :: back) = ['\\', '\\'] ++ (rest ++ a.quote :: back) := by
      rw [← heq, List.append_assoc, List.cons_append, skipSpace_cons (by decide)]
    rw [hstart, afterLiteral_self, List.any_cons, List.any_cons, List.any_cons, Option.any_some, hclose heq.symm,
      Bool.true_or, Bool.or_true, Bool.or_true]

/-! ## What is let through -/

theorem checkRelationships_ok {r : Reader} {members : List ZipMember} (h : checkRelationships r members = .ok ())
    {m : ZipMember} (hm : m ∈ members) (hpath : relsExtension <:+ m.normalizedPath) :
    rejectExternalRelationshipTargets r m.data = .ok () := by
  induction members with
  | nil => cases hm
  | cons m' members ih =>
    rw [checkRelationships] at h
    rcases List.mem_cons.1 hm with rfl | hm
    · rw [if_pos hpath] at h
      obtain ⟨_, hcheck, -⟩ := bind_eq_ok.1 h
      exact hcheck
    · split_ifs at h
      · obtain ⟨_, -, hrest⟩ := bind_eq_ok.1 h
        exact ih hrest hm
      · exact ih h hm

/-- a part that holds a plainly written external attribute is refused -/
theorem rejected_of_plain {r : Reader} {data : List UInt8} {a : Attribute} {text front back : List Char}
    (hplain : a.Plain) (hutf8 : r.utf8 data = some text) (htext : text = front ++ a.before :: (a.written ++ back)) :
    rejectExternalRelationshipTargets r data ≠ .ok () := by
  intro h
  simp only [rejectExternalRelationshipTargets, hutf8, bind_eq_ok, orRaise_eq_ok, Option.some.injEq, exists_eq_left',
    ensure_eq_ok] at h
  have hne : a.written ++ back ≠ [] := by simp [Attribute.written]
  have hword := r.words.space a.before a.before_space
  rcases hplain.1 with ⟨hname, hraw⟩ | ⟨hname, hraw⟩
  · exact h (Or.inl (htext ▸ search_append _ _ hword hne (matchesMode_plain hname hraw back)))
  · exact h (Or.inr (htext ▸ search_append _ _ hword hne (matchesTarget_plain hname hraw (hplain.2 hname) back)))

/-- **No external relationship** is let through exactly if each one is written plainly. -/
theorem officeMembers_iff (u : Unicode) (r : Reader) (relationships : List UInt8 → List (List Attribute))
    (limits : ExtractionLimits) (archive : Option (List ZipInfo)) (members : List ZipMember)
    (h : officeMembers u r limits archive = .ok members) :
    NoExternal relationships members ↔ WrittenPlainly r relationships members := by
  simp only [officeMembers, bind_eq_ok, mapError_eq_ok, pure_eq_ok] at h
  obtain ⟨_, -, _, hcheck, rfl⟩ := h
  constructor
  · intro hnone m hm hpart attributes hattributes a ha hexternal
    exact absurd hexternal (hnone m hm hpart attributes hattributes a ha)
  · intro hplainly m hm hpart attributes hattributes a ha hexternal
    obtain ⟨hpath, hplain, text, front, back, hutf8, htext⟩ := hplainly m hm hpart attributes hattributes a ha hexternal
    exact rejected_of_plain hplain hutf8 htext (checkRelationships_ok hcheck hm hpath)

/-! ## A reference for a letter -/

namespace Samples

def ascii : WordChars := ⟨fun c => c.isAlphanum || c = '_', by decide⟩

/-- on ASCII -/
def reader : Reader :=
  ⟨ascii, fun data => if ∀ b ∈ data, b.toNat < 128 then some (data.map fun b => Char.ofNat b.toNat) else none⟩

def relsLimits : ExtractionLimits := ⟨10, 1000, 10, 10, 10, 10, 10⟩

def quoted (name raw : String) : Attribute :=
  ⟨' ', name.toList, [], [], '"', raw.toList, by decide, by simp, by simp, by decide⟩

/-- the part `<Relationship name="raw"/>` -/
def part (name raw : String) : List UInt8 :=
  ("<Relationship ".toList ++ (quoted name raw).written ++ "/>".toList).map fun c => UInt8.ofNat c.toNat

def archive (data : List UInt8) : List ZipInfo :=
  [⟨"w.rels".toList, 3, 0, data.length, data.length, [.ok data, .ok []]⟩]

/-- what an XML parser reads in the part -/
def relationships (name raw : String) (data : List UInt8) : List (List Attribute) :=
  if data = part name raw then [[quoted name raw]] else []

end Samples

open Samples in
theorem officeMembers_internal :
    NoExternal (relationships "Type" "t") [⟨"w.rels".toList, part "Type" "t"⟩] :=
  (officeMembers_iff ⟨id, id, id⟩ reader (relationships "Type" "t") relsLimits (some (archive (part "Type" "t"))) _
    (by decide)).2 (by
      intro m hm _ attributes hattributes a ha hexternal
      rw [List.mem_singleton.1 hm, relationships, if_pos rfl, List.mem_singleton] at hattributes
      subst hattributes
      rw [List.mem_singleton.1 ha] at hexternal
      rcases hexternal with ⟨hname, -⟩ | ⟨hname, -⟩
      · exact absurd hname (by decide)
      · exact absurd hname (by decide))

open Samples in
/-- a `TargetMode` of `&#69;xternal` is let through -/
theorem reference_let_through : ¬∀ (u : Unicode) (r : Reader) (relationships : List UInt8 → List (List Attribute))
    (limits : ExtractionLimits) (archive : Option (List ZipInfo)) (members : List ZipMember),
      officeMembers u r limits archive = .ok members → NoExternal relationships members := by
  intro h
  have hnone := h ⟨id, id, id⟩ reader (Samples.relationships "TargetMode" "&#69;xternal") relsLimits
    (some (Samples.archive (part "TargetMode" "&#69;xternal"))) [⟨"w.rels".toList, part "TargetMode" "&#69;xternal"⟩]
    (by decide)
  refine hnone _ (List.mem_singleton_self _) ⟨"w".toList, ".rels".toList, by decide, by decide⟩
    [quoted "TargetMode" "&#69;xternal"] ?_ _ (List.mem_singleton_self _) (Or.inl ⟨rfl, by decide⟩)
  rw [Samples.relationships, if_pos rfl]
  exact List.mem_singleton_self _

end AtoService.Extraction.Rels
