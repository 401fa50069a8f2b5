/-
Pages of a search: `search_revision_chunks` and its cursors.

The rank of a chunk and the text search itself are the database's (`Ranking`). A cursor carries the score that ends a page
rounded to twelve places, and the next page compares exact scores with it; so the search goes on after a page only where
the rounded score lies at that score or below it, and above or between no score that is left (`GoesOn`).

- `decodeSearchCursor_encode`: a cursor is read back as the rounded score and the identifier.
- `search_pages_iff`: the pages hold every matching chunk once, in order, exactly if the search goes on after each page.
-/
import AtoService.Lib.Binary64
import AtoService.Listing.SharedCursors
import AtoService.Search.Index

namespace AtoService.Search.Paging

open AtoService.JsonText AtoService.Results
open AtoService.Audit (isSha256)
open AtoService.Json (member)
open AtoService.Listing (decodeCanonicalUrlsafeBase64 isOne rstripPads rstripPads_body decodeCanonicalUrlsafeBase64_encode
  Plain PlainChar plainChar_of_word)

/-! ## Numbers -/

/-- the number that a decimal stands for -/
def value (d : Decimal) : ℚ := (if d.neg then -1 else 1) * d.coeff * (10 : ℚ) ^ d.exp

/-- `round(q, 12)` in units of the last place -/
def lastPlaces (q : ℚ) : ℤ := Binary64.halfEven (q * 10 ^ 12)

/-- `round(q, 12)` -/
def roundTo12 (q : ℚ) : ℚ := lastPlaces q / 10 ^ 12

/-- `round(q, 12)` as a float -/
def rounded (q : ℚ) : Decimal := decimalOf (lastPlaces q < 0) (lastPlaces q).natAbs (-12)

/-! ## Cursors -/

inductive PageError where
  | invalidSearchQuery
  | invalidSearchLimit
  | invalidSearchCursor
  | searchIndexNotReady
deriving DecidableEq, Repr

/-- the score of a cursor; the database puts NaN above every number -/
abbrev CursorScore := WithBot (WithTop ℚ)

structure SearchCursor where
  score : CursorScore
  chunkId : String
deriving DecidableEq

def searchCursorVersion : Int := 1

def maxSearchCursorLength : Nat := 2048

def maxSearchCursorJsonBytes : Nat := 512

def encodeSearchCursor (score : ℚ) (chunkId : String) : List Char :=
  let payload : Json :=
    .obj [("v", .int searchCursorVersion), ("score", .float (.finite (rounded score))), ("id", .str chunkId)]
  rstripPads (Base64.encode (Sha.utf8 (dumpsAscii .compact payload)))

/-- `float(score)` of a number that is no boolean -/
def scoreOf? : Json → Option CursorScore
  | .int n => some ((n : ℚ) : WithTop ℚ)
  | .float (.finite d) => some (value d : WithTop ℚ)
  | .float (.inf neg) => some (if neg then ⊥ else ⊤)
  | .float .nan => some ⊤
  | _ => none

def payloadKeys : List String := ["v", "score", "id"]

def readCursorPayload : Json → Except PageError SearchCursor
  | .obj payload => do
    let keys := payload.map Prod.fst
    ensure (keys ⊆ payloadKeys ∧ payloadKeys ⊆ keys) .invalidSearchCursor
    ensure ((member "v" payload).any isOne) .invalidSearchCursor
    let score ← orRaise ((member "score" payload).bind scoreOf?) .invalidSearchCursor
    let chunkId ← orRaise ((member "id" payload).bind Json.asStr) .invalidSearchCursor
    ensure (isSha256 chunkId) .invalidSearchCursor
    return ⟨score, chunkId⟩
  | _ => throw .invalidSearchCursor

def decodeSearchCursor (cursor : List Char) : Except PageError SearchCursor := do
  ensure (cursor ≠ [] ∧ cursor.length ≤ maxSearchCursorLength) .invalidSearchCursor
  let decoded ← (decodeCanonicalUrlsafeBase64 cursor).mapError fun _ => .invalidSearchCursor
  ensure (decoded.length ≤ maxSearchCursorJsonBytes) .invalidSearchCursor
  let payload ← orRaise (utf8Decode decoded >>= loads) .invalidSearchCursor
  readCursorPayload payload

/-! ## Search -/

/-- what the database computes from a query and the text of a chunk -/
structure Ranking where
  isMatch : String → PendingSearchChunk → Bool
  rank : String → PendingSearchChunk → ℚ
  unit : ∀ query chunk, 0 ≤ rank query chunk ∧ rank query chunk ≤ 1

/-- the chunks of all revisions, with the key and the check of their table -/
structure SearchTables where
  chunks : List PendingSearchChunk
  indexes : List SearchIndexRow
  chunkIds : (chunks.map PendingSearchChunk.chunkId).Nodup
  digests : ∀ c ∈ chunks, isSha256 c.chunkId = true

structure SearchChunkHit where
  chunkId : String
  artifactId : String
  score : ℚ
  citation : List (String × Json)
  text : List Char

def chunkRowCitation (chunk : PendingSearchChunk) : List (String × Json) :=
  [("source_kind", .str "evidence"), ("source_id", .str chunk.artifactId), ("source_sha256", .str chunk.artifactSha256),
    ("chunk_id", .str chunk.chunkId), ("start_offset", .int chunk.normalizedStart),
    ("end_offset", .int chunk.normalizedEnd), ("page_or_section", .null)]

def searchHit (ranking : Ranking) (query : String) (chunk : PendingSearchChunk) : SearchChunkHit where
  chunkId := chunk.chunkId
  artifactId := chunk.artifactId
  score := ranking.rank query chunk
  citation := chunkRowCitation chunk
  text := chunk.text

def defaultSearchLimit : Nat := 50

def maxSearchLimit : Nat := 100

def maxSearchQueryLength : Nat := 500

def validateSearchLimit : Option Int → Except PageError Nat
  | none => .ok defaultSearchLimit
  | some limit => do
    ensure (1 ≤ limit ∧ limit ≤ maxSearchLimit) .invalidSearchLimit
    return limit.toNat

def validateSearchQuery (query : String) : Except PageError String := do
  ensure (Py.strip query ≠ "") .invalidSearchQuery
  ensure ((Py.chars (Py.strip query)).length ≤ maxSearchQueryLength) .invalidSearchQuery
  return Py.strip query

/-- the rows that the query matches -/
def matching (ranking : Ranking) (tables : SearchTables) (packageRevisionId query : String) : List SearchChunkHit :=
  (tables.chunks.filter fun c => c.packageRevisionId = packageRevisionId && ranking.isMatch query c).map
    (searchHit ranking query)

/-- in the order of falling scores, then of `chunk_id` -/
def Before (a b : SearchChunkHit) : Prop := b.score < a.score ∨ a.score = b.score ∧ a.chunkId < b.chunkId

/-- where a hit stands in that order -/
def position (score : CursorScore) (chunkId : String) : CursorScoreᵒᵈ ×ₗ String := toLex (OrderDual.toDual score, chunkId)

def hitPosition (hit : SearchChunkHit) : CursorScoreᵒᵈ ×ₗ String := position ((hit.score : WithTop ℚ)) hit.chunkId

/-- `(rank < score) | ((rank == score) & (chunk_id > id))` of a cursor -/
def afterCursor (cursor : Option SearchCursor) (hit : SearchChunkHit) : Bool :=
  cursor.all fun c => ((hit.score : WithTop ℚ) : CursorScore) < c.score ||
    (((hit.score : WithTop ℚ) : CursorScore) = c.score && c.chunkId < hit.chunkId)

/-- the items of a page, and the cursor of the next one -/
def searchRevisionChunks (ranking : Ranking) (tables : SearchTables) (packageRevisionId query : String)
    (limit : Option Int) (cursor : Option (List Char)) : Except PageError (List SearchChunkHit × Option (List Char)) := do
  let normalizedQuery ← validateSearchQuery query
  let pageLimit ← validateSearchLimit limit
  let decodedCursor ← cursor.mapM decodeSearchCursor
  ensure (∃ row ∈ tables.indexes, row.packageRevisionId = packageRevisionId) .searchIndexNotReady
  let found := (matching ranking tables packageRevisionId normalizedQuery).filter (afterCursor decodedCursor)
  let rows := (found.insertionSort fun a b => hitPosition a ≤ hitPosition b).take (pageLimit + 1)
  let pageRows := rows.take pageLimit
  if pageLimit < rows.length then
    match pageRows.getLast? with
    | some last => return (pageRows, some (encodeSearchCursor last.score last.chunkId))
    | none => return (pageRows, none)
  else return (pageRows, none)

/-! ## Decimals -/

theorem stripZeros_value (k n : Nat) (e : Int) :
    ((stripZeros k n e).1 : ℚ) * (10 : ℚ) ^ (stripZeros k n e).2 = n * (10 : ℚ) ^ e := by
  induction k generalizing n e with
  | zero => rfl
  | succ k ih =>
    unfold stripZeros
    split_ifs with h
    · rw [ih, zpow_add₀ (by norm_num), zpow_one]
      have hn : (n : ℚ) = (n / 10 : Nat) * 10 := by
        exact_mod_cast (Nat.div_mul_cancel (Nat.dvd_of_mod_eq_zero h.1)).symm
      rw [hn]
      ring
    · rfl

/-- with fuel enough, no zero is left at the end -/
theorem stripZeros_last {k n : Nat} (h : n ≤ k) (e : Int) :
    (stripZeros k n e).1 % 10 ≠ 0 ∨ (stripZeros k n e).1 = 0 := by
  induction k generalizing n e with
  | zero => exact Or.inr (Nat.le_zero.1 h)
  | succ k ih =>
    unfold stripZeros
    split_ifs with hz
    · exact ih (by omega) _
    · by_cases hn : n = 0
      · exact Or.inr hn
      · exact Or.inl fun hmod => hz ⟨hmod, hn⟩

theorem value_decimalOf (neg : Bool) (n : Nat) (e : Int) :
    value (decimalOf neg n e) = (if neg then -1 else 1) * n * (10 : ℚ) ^ e := by
  have hvalue := stripZeros_value n n e
  by_cases hlast : (stripZeros n n e).1 % 10 ≠ 0
  · have heq : decimalOf neg n e = ⟨neg, _, _, Or.inl hlast⟩ := dif_pos hlast
    rw [heq, value]
    dsimp only
    rw [mul_assoc, hvalue, mul_assoc]
  · have heq : decimalOf neg n e = ⟨neg, 0, 0, Or.inr ⟨rfl, rfl⟩⟩ := dif_neg hlast
    rw [(stripZeros_last le_rfl e).resolve_left hlast] at hvalue
    rw [heq, value]
    dsimp only
    rw [mul_assoc _ (n : ℚ), ← hvalue]
    simp

theorem value_rounded (q : ℚ) : value (rounded q) = roundTo12 q := by
  have habs : (if lastPlaces q < 0 then -1 else 1) * ((lastPlaces q).natAbs : ℚ) = lastPlaces q := by
    have hcast : ((lastPlaces q).natAbs : ℚ) = |(lastPlaces q : ℚ)| := by
      rw [Nat.cast_natAbs, Int.cast_abs]
    rw [hcast]
    split_ifs with hneg
    · rw [abs_of_neg (Int.cast_lt_zero.2 hneg)]
      ring
    · rw [abs_of_nonneg (Int.cast_nonneg (not_lt.1 hneg)), one_mul]
  rw [rounded, value_decimalOf]
  simp only [decide_eq_true_eq]
  rw [habs, roundTo12, zpow_neg, div_eq_mul_inv]
  norm_num

/-! ## The text of a cursor -/

/-- characters that JSON writes as they are -/
theorem ascii_of_isDigit {c : Char} (h : isDigit c = true) : c.toNat < 127 := by
  simp only [isDigit, Bool.and_eq_true, decide_eq_true_eq, Char.le_def] at h
  have hle : c.val.toNat ≤ ('9' : Char).val.toNat := UInt32.le_iff_toNat_le.1 h.2
  have hnine : ('9' : Char).val.toNat = 57 := rfl
  rw [hnine] at hle
  show c.val.toNat < 127
  omega

theorem ascii_digits (n : Nat) : ∀ c ∈ digits n, c.toNat < 127 := fun _ hc => ascii_of_isDigit (isDigit_of_mem_digits hc)

theorem mem_expText {e : Int} {c : Char} (h : c ∈ Decimal.expText e) : c.toNat < 127 := by
  have hsmall : ('-' : Char).toNat < 127 ∧ ('+' : Char).toNat < 127 ∧ ('0' : Char).toNat < 127 := by decide
  unfold Decimal.expText at h
  rcases List.mem_cons.1 h with h | h
  · split_ifs at h with hneg
    · exact h ▸ hsmall.1
    · exact h ▸ hsmall.2.1
  · split_ifs at h
    · rcases List.mem_cons.1 h with rfl | h
      · exact hsmall.2.2
      · exact ascii_digits _ c h
    · exact ascii_digits _ c h

theorem mem_repr {d : Decimal} {c : Char} (h : c ∈ d.repr) : c.toNat < 127 := by
  have hsmall : ('-' : Char).toNat < 127 ∧ ('.' : Char).toNat < 127 ∧ ('0' : Char).toNat < 127 ∧ ('e' : Char).toNat < 127 := by
    decide
  have hsign : c ∈ d.sign → c.toNat < 127 := by
    intro hc
    unfold Decimal.sign at hc
    split_ifs at hc
    · rw [List.mem_singleton.1 hc]
      exact hsmall.1
    · cases hc
  have hdigits : ∀ ds : List Char, ds ⊆ digits d.coeff → c ∈ ds → c.toNat < 127 :=
    fun ds hsub hc => ascii_digits _ c (hsub hc)
  have hzeros : ∀ k, c ∈ List.replicate k '0' → c.toNat < 127 := by
    intro k hc
    rw [List.eq_of_mem_replicate hc]
    exact hsmall.2.2.1
  unfold Decimal.repr at h
  dsimp only at h
  split_ifs at h
  · simp only [List.mem_append, List.mem_cons, List.not_mem_nil, or_false] at h
    rcases h with ((h | h) | h) | rfl | rfl
    · exact hsign h
    · exact ascii_digits _ c h
    · exact hzeros _ h
    · exact hsmall.2.1
    · exact hsmall.2.2.1
  · simp only [List.mem_append, List.mem_cons] at h
    rcases h with (h | h) | rfl | h
    · exact hsign h
    · exact hdigits _ (List.take_subset _ _) h
    · exact hsmall.2.1
    · exact hdigits _ (List.drop_subset _ _) h
  · simp only [List.mem_append, List.mem_cons, List.not_mem_nil, or_false] at h
    rcases h with ((h | rfl | rfl) | h) | h
    · exact hsign h
    · exact hsmall.2.2.1
    · exact hsmall.2.1
    · exact hzeros _ h
    · exact ascii_digits _ c h
  · have hall := ascii_digits d.coeff
    split at h
    · rename_i x hx
      rw [hx] at hall
      simp only [List.mem_append, List.mem_cons] at h
      rcases h with h | rfl | rfl | h
      · exact hsign h
      · exact hall _ List.mem_cons_self
      · exact hsmall.2.2.2
      · exact mem_expText h
    · simp only [List.mem_append, List.mem_cons] at h
      rcases h with ((h | h) | rfl | h) | rfl | h
      · exact hsign h
      · exact hdigits _ (List.take_subset _ _) h
      · exact hsmall.2.1
      · exact hdigits _ (List.drop_subset _ _) h
      · exact hsmall.2.2.2
      · exact mem_expText h

theorem length_expText {e : Int} (h : e.natAbs < 100) : (Decimal.expText e).length ≤ 3 := by
  have hlength := Audit.digits_length_le (n := e.natAbs) (k := 2) (by decide) (by omega)
  unfold Decimal.expText
  rw [List.length_cons]
  split_ifs
  · rw [List.length_cons]
    omega
  · omega

/-- a short decimal below ten has a short text -/
theorem length_repr {d : Decimal} (hdigits : (digits d.coeff).length ≤ 13) (hlow : -12 ≤ d.exp) (hhigh : d.exp ≤ 0) :
    d.repr.length ≤ 24 := by
  have hpos := List.length_pos_iff.2 (digits_ne_nil d.coeff)
  have hsign : d.sign.length ≤ 1 := by
    unfold Decimal.sign
    split_ifs <;> simp
  have hexp : (d.point - 1).natAbs < 100 := by
    unfold Decimal.point
    omega
  have htext := length_expText hexp
  unfold Decimal.repr
  dsimp only
  split_ifs with hpoint hwhole hfraction
  · simp only [List.length_append, List.length_replicate, List.length_cons, List.length_nil]
    omega
  · simp only [List.length_append, List.length_cons, List.length_take, List.length_drop]
    omega
  · simp only [List.length_append, List.length_replicate, List.length_cons, List.length_nil]
    omega
  · split
    · simp only [List.length_append, List.length_cons]
      omega
    · simp only [List.length_append, List.length_cons, List.length_take, List.length_drop]
      omega

theorem stripZeros_le (k n : Nat) (e : Int) : (stripZeros k n e).1 ≤ n ∧ e ≤ (stripZeros k n e).2 := by
  induction k generalizing n e with
  | zero => exact ⟨le_rfl, le_rfl⟩
  | succ k ih =>
    unfold stripZeros
    split_ifs with h
    · obtain ⟨hle, hexp⟩ := ih (n / 10) (e + 1)
      exact ⟨hle.trans (Nat.div_le_self n 10), by omega⟩
    · exact ⟨le_rfl, le_rfl⟩

theorem lastPlaces_unit {q : ℚ} (h : 0 ≤ q ∧ q ≤ 1) : 0 ≤ lastPlaces q ∧ lastPlaces q ≤ 10 ^ 12 := by
  constructor
  · have hle := Binary64.le_halfEven_of_le (n := 0) (q := q * 10 ^ 12) (by
      push_cast
      exact mul_nonneg h.1 (by norm_num))
    exact hle
  · have hle := Binary64.halfEven_le_of_le (n := 10 ^ 12) (q := q * 10 ^ 12) (by
      push_cast
      linarith [h.2])
    exact hle

theorem rounded_small {q : ℚ} (h : 0 ≤ q ∧ q ≤ 1) :
    (digits (rounded q).coeff).length ≤ 13 ∧ -12 ≤ (rounded q).exp ∧ (rounded q).exp ≤ 0 := by
  obtain ⟨hnonneg, hle⟩ := lastPlaces_unit h
  have hn : (lastPlaces q).natAbs ≤ 10 ^ 12 := by omega
  have hvalue := stripZeros_value (lastPlaces q).natAbs (lastPlaces q).natAbs (-12)
  obtain ⟨hcoeff, hexp⟩ := stripZeros_le (lastPlaces q).natAbs (lastPlaces q).natAbs (-12)
  have hcase : ((rounded q).coeff = (stripZeros (lastPlaces q).natAbs (lastPlaces q).natAbs (-12)).1 ∧
      (rounded q).exp = (stripZeros (lastPlaces q).natAbs (lastPlaces q).natAbs (-12)).2 ∧
      (stripZeros (lastPlaces q).natAbs (lastPlaces q).natAbs (-12)).1 ≠ 0) ∨
      (rounded q).coeff = 0 ∧ (rounded q).exp = 0 := by
    unfold rounded decimalOf
    dsimp only
    split_ifs with hlast
    · exact Or.inl ⟨rfl, rfl, fun hzero => hlast (by rw [hzero])⟩
    · exact Or.inr ⟨rfl, rfl⟩
  generalize stripZeros (lastPlaces q).natAbs (lastPlaces q).natAbs (-12) = p at hvalue hcoeff hexp hcase
  rcases hcase with ⟨hc, he, hne⟩ | ⟨hc, he⟩
  · rw [hc, he]
    refine ⟨Audit.digits_length_le (by decide) (by omega), hexp, ?_⟩
    -- a coefficient of one or more times a power of ten is at most one
    by_contra hpos
    have hten : (10 : ℚ) ≤ 10 ^ p.2 := by
      have hmono := zpow_le_zpow_right₀ (show (1 : ℚ) ≤ 10 by norm_num) (show (1 : ℤ) ≤ p.2 by omega)
      rwa [zpow_one] at hmono
    have hone : (1 : ℚ) ≤ p.1 := by exact_mod_cast Nat.one_le_iff_ne_zero.2 hne
    have hlarge : (10 : ℚ) ≤ p.1 * 10 ^ p.2 := by nlinarith
    have hsmall : ((lastPlaces q).natAbs : ℚ) * 10 ^ (-12 : ℤ) ≤ 1 := by
      have hcast : ((lastPlaces q).natAbs : ℚ) ≤ 10 ^ 12 := by exact_mod_cast hn
      rw [zpow_neg, ← div_eq_mul_inv, div_le_one (by norm_num)]
      exact_mod_cast hcast
    rw [hvalue] at hlarge
    linarith
  · rw [hc, he]
    decide

/-- the text of a cursor -/
def cursorText (d : Decimal) (chunkId : String) : List Char :=
  ['{', '"', 'i', 'd', '"', ':', '"'] ++ Py.chars chunkId ++ ['"', ',', '"', 's', 'c', 'o', 'r', 'e', '"', ':'] ++ d.repr ++
    [',', '"', 'v', '"', ':', '1', '}']

theorem plain_of_isSha256 {s : String} (h : isSha256 s = true) : Plain (Py.chars s) ∧ (Py.chars s).length = 64 := by
  simp only [isSha256, decide_eq_true_eq, List.all_eq_true, Bool.or_eq_true, Bool.and_eq_true] at h
  refine ⟨fun c hc => plainChar_of_word ?_, h.1⟩
  rcases h.2 c hc with ⟨hlow, hhigh⟩ | ⟨hlow, hhigh⟩
  · have hlow' : ('a' : Char).toNat ≤ c.toNat := UInt32.le_iff_toNat_le.1 hlow
    have hhigh' : c.toNat ≤ ('f' : Char).toNat := UInt32.le_iff_toNat_le.1 hhigh
    have ha : ('a' : Char).toNat = 97 ∧ ('f' : Char).toNat = 102 := ⟨rfl, rfl⟩
    omega
  · have hlow' : ('0' : Char).toNat ≤ c.toNat := UInt32.le_iff_toNat_le.1 hlow
    have hhigh' : c.toNat ≤ ('9' : Char).toNat := UInt32.le_iff_toNat_le.1 hhigh
    have hzero : ('0' : Char).toNat = 48 ∧ ('9' : Char).toNat = 57 := ⟨rfl, rfl⟩
    omega

theorem flatMap_escapeChar_plain {cs : List Char} (h : Plain cs) : cs.flatMap escapeChar = cs := by
  induction cs with
  | nil => rfl
  | cons c cs ih =>
    obtain ⟨hlow, -, hquote, hslash⟩ := h c List.mem_cons_self
    rw [List.flatMap_cons, escapeChar_plain hquote hslash hlow, ih fun d hd => h d (List.mem_cons_of_mem _ hd)]
    rfl

theorem dumps_payload (d : Decimal) {chunkId : String} (h : Plain (Py.chars chunkId)) :
    Json.dumps .compact (.obj [("v", .int searchCursorVersion), ("score", .float (.finite d)), ("id", .str chunkId)]) =
      cursorText d chunkId := by
  have hsorted : KeyedList.sorted Prod.fst [("v", Json.int searchCursorVersion), ("score", .float (.finite d)),
      ("id", .str chunkId)] = [("id", .str chunkId), ("score", .float (.finite d)), ("v", .int searchCursorVersion)] := rfl
  rw [Json.dumps_obj, hsorted]
  have hid : Json.memberText .compact ("id", .str chunkId) = ['"', 'i', 'd', '"', ':', '"'] ++ Py.chars chunkId ++ ['"'] := by
    have hkey : quote (Py.chars "id") = ['"', 'i', 'd', '"'] := by decide
    rw [Json.memberText, Json.dumps, hkey, quote, flatMap_escapeChar_plain h]
    simp [Separators.compact]
  have hscore : Json.memberText .compact ("score", .float (.finite d)) =
      ['"', 's', 'c', 'o', 'r', 'e', '"', ':'] ++ d.repr := by
    have hkey : quote (Py.chars "score") = ['"', 's', 'c', 'o', 'r', 'e', '"'] := by decide
    rw [Json.memberText, Json.dumps, hkey]
    rfl
  have hversion : Json.memberText .compact ("v", .int searchCursorVersion) = ['"', 'v', '"', ':', '1'] := by
    have hkey : quote (Py.chars "v") = ['"', 'v', '"'] := by decide
    rw [Json.memberText, Json.dumps, hkey]
    decide
  rw [List.map_cons, List.map_cons, List.map_cons, List.map_nil, hid, hscore, hversion]
  simp only [joinText, cursorText, Separators.compact, List.append_assoc, List.cons_append, List.nil_append]

theorem mem_cursorText {d : Decimal} {chunkId : String} (h : Plain (Py.chars chunkId)) {c : Char}
    (hc : c ∈ cursorText d chunkId) : c.toNat < 127 := by
  have hbefore : ∀ c ∈ ['{', '"', 'i', 'd', '"', ':', '"'], c.toNat < 127 := by decide
  have hbetween : ∀ c ∈ ['"', ',', '"', 's', 'c', 'o', 'r', 'e', '"', ':'], c.toNat < 127 := by decide
  have hbehind : ∀ c ∈ [',', '"', 'v', '"', ':', '1', '}'], c.toNat < 127 := by decide
  rcases List.mem_append.1 hc with hc | hc
  · rcases List.mem_append.1 hc with hc | hc
    · rcases List.mem_append.1 hc with hc | hc
      · rcases List.mem_append.1 hc with hc | hc
        · exact hbefore c hc
        · exact (h c hc).2.1
      · exact hbetween c hc
    · exact mem_repr hc
  · exact hbehind c hc

theorem length_cursorText {q : ℚ} (hq : 0 ≤ q ∧ q ≤ 1) {chunkId : String} (h : isSha256 chunkId = true) :
    2 ≤ (cursorText (rounded q) chunkId).length ∧ (cursorText (rounded q) chunkId).length ≤ 112 := by
  obtain ⟨hdigits, hlow, hhigh⟩ := rounded_small hq
  have hrepr := length_repr hdigits hlow hhigh
  have hid := (plain_of_isSha256 h).2
  simp only [cursorText, List.length_append, List.length_cons, List.length_nil]
  omega

theorem ok_bind {α β : Type} (a : α) (f : α → Except PageError β) : (Except.ok a >>= f) = f a := rfl

theorem readCursorPayload_canon (q : ℚ) {chunkId : String} (h : isSha256 chunkId = true) :
    readCursorPayload (Json.canon (.obj [("v", .int searchCursorVersion), ("score", .float (.finite (rounded q))),
      ("id", .str chunkId)])) = .ok ⟨((roundTo12 q : WithTop ℚ)), chunkId⟩ := by
  have hcanon : Json.canon (.obj [("v", .int searchCursorVersion), ("score", .float (.finite (rounded q))),
      ("id", .str chunkId)]) =
      .obj [("id", .str chunkId), ("score", .float (.finite (rounded q))), ("v", .int searchCursorVersion)] := by
    rw [Json.canon_obj]
    rfl
  have hkeys : (["id", "score", "v"] : List String) ⊆ payloadKeys ∧ payloadKeys ⊆ ["id", "score", "v"] := by decide
  have hscore : scoreOf? (.float (.finite (rounded q))) = some ((roundTo12 q : WithTop ℚ) : CursorScore) := by
    rw [scoreOf?, value_rounded]
  rw [hcanon, readCursorPayload]
  show (do
    ensure ((["id", "score", "v"] : List String) ⊆ payloadKeys ∧ payloadKeys ⊆ ["id", "score", "v"])
      PageError.invalidSearchCursor
    ensure (true = true) PageError.invalidSearchCursor
    let score ← orRaise (scoreOf? (.float (.finite (rounded q)))) .invalidSearchCursor
    let chunkId ← orRaise (some chunkId) .invalidSearchCursor
    ensure (isSha256 chunkId) .invalidSearchCursor
    return (⟨score, chunkId⟩ : SearchCursor)) = _
  have hcheck : ensure ((["id", "score", "v"] : List String) ⊆ payloadKeys ∧ payloadKeys ⊆ ["id", "score", "v"])
      PageError.invalidSearchCursor = .ok () := ensure_eq_ok.2 hkeys
  have hdigest : ensure (isSha256 chunkId = true) PageError.invalidSearchCursor = .ok () := ensure_eq_ok.2 h
  rw [hscore, hcheck, ok_bind]
  show (ensure (isSha256 chunkId = true) PageError.invalidSearchCursor >>= fun _ => _) = _
  rw [hdigest]
  rfl

/-- **A cursor is read back** as the rounded score and the identifier. -/
theorem decodeSearchCursor_encode {q : ℚ} (hq : 0 ≤ q ∧ q ≤ 1) {chunkId : String} (h : isSha256 chunkId = true) :
    decodeSearchCursor (encodeSearchCursor q chunkId) = .ok ⟨((roundTo12 q : WithTop ℚ)), chunkId⟩ := by
  obtain ⟨hplain, -⟩ := plain_of_isSha256 h
  obtain ⟨hlong, hlength⟩ := length_cursorText hq h
  let bytes := (cursorText (rounded q) chunkId).map Char.toNat
  have hbytes : ∀ b ∈ bytes, b < 256 := by
    intro b hb
    obtain ⟨c, hc, rfl⟩ := List.mem_map.1 hb
    have hascii := mem_cursorText hplain hc
    omega
  have hsize : bytes.length = (cursorText (rounded q) chunkId).length := List.length_map _
  have hne : bytes ≠ [] := by
    intro hnil
    rw [hnil, List.length_nil] at hsize
    omega
  have hcursor : encodeSearchCursor q chunkId = rstripPads (Base64.encode bytes) := by
    rw [encodeSearchCursor, dumpsAscii, dumps_payload _ hplain, asciiText_of_ascii fun c hc => mem_cursorText hplain hc,
      utf8_ascii fun c hc => mem_cursorText hplain hc]
  have hdecode := decodeCanonicalUrlsafeBase64_encode hbytes hne
  obtain ⟨body, k, hencode, hsafe, hk, -⟩ := Base64.encode_body hbytes
  have hbody := Base64.length_encode bytes
  rw [hencode, hsize, List.length_append, List.length_replicate] at hbody
  rw [hencode, rstripPads_body hsafe k] at hdecode hcursor
  have hshort : body ≠ [] ∧ body.length ≤ maxSearchCursorLength := by
    rw [maxSearchCursorLength]
    constructor
    · rintro rfl
      rw [List.length_nil] at hbody
      omega
    · omega
  have hloads : (utf8Decode bytes >>= loads) = some (Json.canon (.obj [("v", .int searchCursorVersion),
      ("score", .float (.finite (rounded q))), ("id", .str chunkId)])) := by
    rw [utf8Decode_ascii fun c hc => mem_cursorText hplain hc, Option.bind_eq_bind, Option.bind_some, ← dumps_payload _ hplain]
    refine loads_dumps blanks_compact ⟨?_, trivial, trivial, trivial, trivial⟩
    show (["v", "score", "id"] : List String).Nodup
    decide
  have hcheck : ensure (body ≠ [] ∧ body.length ≤ maxSearchCursorLength) PageError.invalidSearchCursor = .ok () :=
    ensure_eq_ok.2 hshort
  have hbound : ensure (bytes.length ≤ maxSearchCursorJsonBytes) PageError.invalidSearchCursor = .ok () :=
    ensure_eq_ok.2 (by
      rw [hsize, maxSearchCursorJsonBytes]
      omega)
  have hmapped : (decodeCanonicalUrlsafeBase64 body).mapError (fun _ => PageError.invalidSearchCursor) = .ok bytes :=
    mapError_eq_ok.2 hdecode
  rw [hcursor, decodeSearchCursor, hcheck, ok_bind, hmapped, ok_bind, hbound, ok_bind, hloads]
  exact readCursorPayload_canon q h

/-! ## Pages -/

def SearchCursor.position (c : SearchCursor) : CursorScoreᵒᵈ ×ₗ String := Paging.position c.score c.chunkId

/-- the cursor that a page gives out when it ends with a hit -/
def hitCursor (hit : SearchChunkHit) : Except PageError (List Char) := .ok (encodeSearchCursor hit.score hit.chunkId)

def cursorPosition (cursor : List Char) : Except PageError (CursorScoreᵒᵈ ×ₗ String) :=
  (decodeSearchCursor cursor).map SearchCursor.position

theorem position_lt {x y : CursorScore} {i j : String} : position x i < position y j ↔ y < x ∨ x = y ∧ i < j := by
  rw [position, position, Prod.Lex.lt_iff]
  simp [OrderDual.toDual_lt_toDual]

theorem score_lt {x y : ℚ} : (((x : WithTop ℚ) : CursorScore) < ((y : WithTop ℚ) : CursorScore)) ↔ x < y := by
  rw [WithBot.coe_lt_coe, WithTop.coe_lt_coe]

theorem score_eq {x y : ℚ} : (((x : WithTop ℚ) : CursorScore) = ((y : WithTop ℚ) : CursorScore)) ↔ x = y := by
  rw [WithBot.coe_inj, WithTop.coe_inj]

theorem before_iff {a b : SearchChunkHit} : Before a b ↔ hitPosition a < hitPosition b := by
  rw [hitPosition, hitPosition, position_lt, score_lt, score_eq, Before]

theorem filter_afterCursor (cursor : Option SearchCursor) (hits : List SearchChunkHit) :
    hits.filter (afterCursor cursor) = Keyset.after hitPosition (cursor.map SearchCursor.position) hits := by
  refine List.filter_congr fun hit _ => ?_
  cases cursor with
  | none => rfl
  | some c =>
    rw [Bool.eq_iff_iff]
    simp only [afterCursor, Option.map_some, Option.all_some, decide_eq_true_eq, Bool.or_eq_true, Bool.and_eq_true,
      SearchCursor.position, hitPosition, position_lt]
    exact or_congr_right (and_congr_left fun _ => eq_comm)

variable {ranking : Ranking} {tables : SearchTables} {packageRevisionId query normalized : String} {limit : Option Int}
  {n : Nat}

/-- with valid arguments and an index, a search is a list that pages by position -/
theorem searchRevisionChunks_eq (hquery : validateSearchQuery query = .ok normalized)
    (hlimit : validateSearchLimit limit = .ok n)
    (hready : ∃ row ∈ tables.indexes, row.packageRevisionId = packageRevisionId) :
    searchRevisionChunks ranking tables packageRevisionId query limit =
      Keyset.listPage hitPosition hitCursor cursorPosition n (matching ranking tables packageRevisionId normalized) := by
  funext cursor
  have hcheck : ensure (∃ row ∈ tables.indexes, row.packageRevisionId = packageRevisionId)
      PageError.searchIndexNotReady = .ok () := ensure_eq_ok.2 hready
  rw [searchRevisionChunks, hquery, ok_bind, hlimit, ok_bind, Keyset.listPage]
  have hmap : cursor.mapM cursorPosition = (cursor.mapM decodeSearchCursor).map (Option.map SearchCursor.position) := by
    cases cursor with
    | none => rfl
    | some c =>
      show (cursorPosition c >>= fun k => pure (some k)) = ((decodeSearchCursor c >>= fun k => pure (some k))).map _
      rw [cursorPosition]
      cases decodeSearchCursor c <;> rfl
  rw [hmap]
  cases cursor.mapM decodeSearchCursor with
  | error e => rfl
  | ok decoded =>
    rw [ok_bind, hcheck, ok_bind]
    show _ = (Except.ok (decoded.map SearchCursor.position) >>= _)
    rw [ok_bind]
    dsimp only
    rw [filter_afterCursor]
    generalize hfound : Keyset.page hitPosition (n + 1) (decoded.map SearchCursor.position)
      (matching ranking tables packageRevisionId normalized) = found
    have hrows : ((Keyset.after hitPosition (decoded.map SearchCursor.position)
        (matching ranking tables packageRevisionId normalized)).insertionSort
        fun a b => hitPosition a ≤ hitPosition b).take (n + 1) = found := hfound
    rw [hrows]
    split_ifs with hmore
    · cases (found.take n).getLast? <;> rfl
    · rw [List.take_of_length_le (not_lt.1 hmore)]

theorem nodup_matching : ((matching ranking tables packageRevisionId query).map hitPosition).Nodup := by
  have hids : ((matching ranking tables packageRevisionId query).map SearchChunkHit.chunkId).Nodup := by
    rw [matching, List.map_map]
    exact tables.chunkIds.sublist (List.filter_sublist.map _)
  rw [List.Nodup, List.pairwise_map] at hids ⊢
  refine hids.imp fun hne heq => hne ?_
  exact congrArg (fun p => (ofLex p).2) heq

theorem mem_matching {hit : SearchChunkHit} (h : hit ∈ matching ranking tables packageRevisionId query) :
    ∃ chunk ∈ tables.chunks, hit = searchHit ranking query chunk := by
  obtain ⟨chunk, hchunk, rfl⟩ := List.mem_map.1 h
  exact ⟨chunk, List.mem_of_mem_filter hchunk, rfl⟩

/-- from the cursor of a hit the search goes on with the hit after it -/
def GoesOn (hits : List SearchChunkHit) (hit : SearchChunkHit) : Prop :=
  roundTo12 hit.score ≤ hit.score ∧ ∀ later ∈ hits, Before hit later →
    later.score < roundTo12 hit.score ∨ roundTo12 hit.score = later.score ∧ hit.chunkId < later.chunkId

theorem resumes_iff {hit : SearchChunkHit} (h : hit ∈ matching ranking tables packageRevisionId query) :
    Keyset.Resumes hitPosition hitCursor cursorPosition (matching ranking tables packageRevisionId query) hit ↔
      GoesOn (matching ranking tables packageRevisionId query) hit := by
  obtain ⟨chunk, hchunk, hhit⟩ := mem_matching h
  have hdecode : decodeSearchCursor (encodeSearchCursor hit.score hit.chunkId) =
      .ok ⟨((roundTo12 hit.score : WithTop ℚ)), hit.chunkId⟩ := by
    rw [hhit]
    exact decodeSearchCursor_encode (ranking.unit query chunk) (tables.digests chunk hchunk)
  have hposition : cursorPosition (encodeSearchCursor hit.score hit.chunkId) =
      .ok (position ((roundTo12 hit.score : WithTop ℚ)) hit.chunkId) := by
    rw [cursorPosition, hdecode]
    rfl
  have hle : hitPosition hit ≤ position ((roundTo12 hit.score : WithTop ℚ)) hit.chunkId ↔
      roundTo12 hit.score ≤ hit.score := by
    rw [← not_lt, hitPosition, position_lt, score_lt, score_eq, ← not_lt (a := hit.score)]
    simp
  have hlater : ∀ later : SearchChunkHit, position ((roundTo12 hit.score : WithTop ℚ)) hit.chunkId < hitPosition later ↔
      later.score < roundTo12 hit.score ∨ roundTo12 hit.score = later.score ∧ hit.chunkId < later.chunkId := by
    intro later
    rw [hitPosition, position_lt, score_lt, score_eq]
  constructor
  · rintro ⟨c, k, hcursor, hk, hfirst, hrest⟩
    obtain rfl := Except.ok.inj hcursor
    obtain rfl := Except.ok.inj (hposition.symm.trans hk)
    exact ⟨hle.1 hfirst, fun later hmem hbefore => (hlater later).1 (hrest later hmem (before_iff.1 hbefore))⟩
  · rintro ⟨hfirst, hrest⟩
    exact ⟨_, _, rfl, hposition, hle.2 hfirst, fun later hmem hlt => (hlater later).2 (hrest later hmem (before_iff.2 hlt))⟩

/-- the pages from a cursor on, read to the end, are these items -/
abbrev Pages (ranking : Ranking) (tables : SearchTables) (packageRevisionId query : String) (limit : Option Int)
    (items : List SearchChunkHit) : Prop :=
  Keyset.Follows (searchRevisionChunks ranking tables packageRevisionId query limit) none items

/-- the hits in order, each once -/
theorem eq_ordered_iff {items : List SearchChunkHit} :
    items.Perm (matching ranking tables packageRevisionId query) ∧ items.Pairwise Before ↔
      items = Keyset.ordered hitPosition (matching ranking tables packageRevisionId query) := by
  constructor
  · rintro ⟨hperm, hsorted⟩
    refine (hperm.trans Keyset.ordered_perm.symm).eq_of_pairwise (fun a b _ _ hab hba => ?_) hsorted ?_
    · exact absurd ((before_iff.1 hab).trans (before_iff.1 hba)) (lt_irrefl _)
    · exact (Keyset.ordered_strict nodup_matching).imp fun h => before_iff.2 h
  · rintro rfl
    exact ⟨Keyset.ordered_perm, (Keyset.ordered_strict nodup_matching).imp fun h => before_iff.2 h⟩

theorem pages_ordered_iff (hquery : validateSearchQuery query = .ok normalized)
    (hlimit : validateSearchLimit limit = .ok n)
    (hready : ∃ row ∈ tables.indexes, row.packageRevisionId = packageRevisionId) :
    Pages ranking tables packageRevisionId query limit
        (Keyset.ordered hitPosition (matching ranking tables packageRevisionId normalized)) ↔
      Keyset.PageEnds n (Keyset.ordered hitPosition (matching ranking tables packageRevisionId normalized))
        (GoesOn (matching ranking tables packageRevisionId normalized)) := by
  have hpos : 0 < n := by
    cases limit with
    | none =>
      obtain rfl := Except.ok.inj hlimit
      decide
    | some limit =>
      obtain ⟨_, hbounds, hn⟩ := bind_eq_ok.1 hlimit
      have hone := (ensure_eq_ok.1 hbounds).1
      obtain rfl := Except.ok.inj hn
      omega
  have hfollows : Keyset.Follows (Keyset.listPage hitPosition hitCursor cursorPosition n
      (matching ranking tables packageRevisionId normalized)) none _ ↔ _ :=
    Keyset.follows_iff_resumes nodup_matching hpos
  rw [Pages, searchRevisionChunks_eq hquery hlimit hready, hfollows]
  exact Keyset.pageEnds_congr fun hit hhit => resumes_iff (Keyset.mem_ordered.1 hhit)

/-- **Paging is exact** if and only if, at every page with more hits after it, the rounded score goes on after the page. -/
theorem search_pages_iff (ranking : Ranking) (tables : SearchTables) (packageRevisionId query normalized : String)
    (limit : Option Int) (n : Nat) (hquery : validateSearchQuery query = .ok normalized)
    (hlimit : validateSearchLimit limit = .ok n)
    (hready : ∃ row ∈ tables.indexes, row.packageRevisionId = packageRevisionId) :
    (∃ items, Pages ranking tables packageRevisionId query limit items ∧
        items.Perm (matching ranking tables packageRevisionId normalized) ∧ items.Pairwise Before) ↔
      Keyset.PageEnds n (Keyset.ordered hitPosition (matching ranking tables packageRevisionId normalized))
        (GoesOn (matching ranking tables packageRevisionId normalized)) := by
  rw [← pages_ordered_iff hquery hlimit hready]
  constructor
  · rintro ⟨items, hpages, hitems⟩
    rwa [← eq_ordered_iff.1 hitems]
  · exact fun hpages => ⟨_, hpages, eq_ordered_iff.2 rfl⟩

/-! ## Two chunks -/

namespace Samples

def chunkNamed (c : Char) : PendingSearchChunk where
  chunkId := String.ofList (List.replicate 64 c)
  packageRevisionId := "p"
  artifactId := "a"
  artifactSha256 := String.ofList (List.replicate 64 '0')
  normalizedStart := 0
  normalizedEnd := 4
  text := ['l', 'o', 'c', 'k']

def twoChunks : SearchTables where
  chunks := [chunkNamed 'a', chunkNamed 'b']
  indexes := [⟨"p", "c", 2, 0⟩]
  chunkIds := by decide
  digests := by decide

/-- every chunk matches, with one score -/
def evenly (score : ℚ) (h : 0 ≤ score ∧ score ≤ 1) : Ranking := ⟨fun _ _ => true, fun _ _ => score, fun _ _ => h⟩

theorem score_evenly {score : ℚ} {h : 0 ≤ score ∧ score ≤ 1} {packageRevisionId query : String} {hit : SearchChunkHit}
    (hhit : hit ∈ matching (evenly score h) twoChunks packageRevisionId query) : hit.score = score := by
  obtain ⟨chunk, -, rfl⟩ := mem_matching hhit
  rfl

end Samples

open Paging.Samples in
/-- a score with twelve places pages on -/
theorem search_pages_half : ∃ items, Pages (evenly (1 / 2) (by norm_num)) twoChunks "p" "lock" (some 1) items ∧
    items.Perm (matching (evenly (1 / 2) (by norm_num)) twoChunks "p" "lock") ∧ items.Pairwise Before := by
  refine (search_pages_iff _ twoChunks "p" "lock" "lock" (some 1) 1 (by decide) (by decide) (by decide)).2 ?_
  have hround : roundTo12 (1 / 2) = 1 / 2 := by
    have hplaces : (1 / 2 : ℚ) * 10 ^ 12 = ((500000000000 : ℤ) : ℚ) := by norm_num
    rw [roundTo12, lastPlaces, hplaces, Binary64.halfEven_intCast]
    norm_num
  intro i hit hi _ _
  have hscore := score_evenly (Keyset.mem_ordered.1 (List.mem_of_getElem? hi))
  refine ⟨by rw [hscore, hround], fun later hlater hbefore => ?_⟩
  rw [hscore, hround]
  rwa [Before, hscore] at hbefore

open Paging.Samples in
/-- two thirds are rounded up, and the second page starts with the first hit again -/
theorem rounded_up_repeats : ¬∀ (ranking : Ranking) (tables : SearchTables) (packageRevisionId query normalized : String)
    (limit : Option Int) (n : Nat), validateSearchQuery query = .ok normalized → validateSearchLimit limit = .ok n →
    (∃ row ∈ tables.indexes, row.packageRevisionId = packageRevisionId) →
    ∃ items, Pages ranking tables packageRevisionId query limit items ∧
      items.Perm (matching ranking tables packageRevisionId normalized) ∧ items.Pairwise Before := by
  intro h
  obtain ⟨items, hitems, hexact⟩ :=
    h (evenly (2 / 3) (by norm_num)) twoChunks "p" "lock" "lock" (some 1) 1 (by decide) (by decide) (by decide)
  rw [eq_ordered_iff.1 hexact, pages_ordered_iff (n := 1) (by decide) (by decide) (by decide)] at hitems
  have htwo : (Keyset.ordered hitPosition (matching (evenly (2 / 3) (by norm_num)) twoChunks "p" "lock")).length = 2 :=
    Keyset.ordered_perm.length_eq.trans (by decide)
  obtain ⟨hit, hhit⟩ : ∃ hit,
      (Keyset.ordered hitPosition (matching (evenly (2 / 3) (by norm_num)) twoChunks "p" "lock"))[0]? = some hit := by
    refine Option.ne_none_iff_exists'.1 fun hnone => ?_
    rw [List.getElem?_eq_none_iff] at hnone
    omega
  have hgoes := (hitems 0 hit hhit (one_dvd _) (by omega)).1
  rw [score_evenly (Keyset.mem_ordered.1 (List.mem_of_getElem? hhit))] at hgoes
  have hup : (666666666667 : ℤ) ≤ lastPlaces (2 / 3) := by
    rw [lastPlaces, Binary64.le_halfEven_iff]
    left
    norm_num
  have hcast : ((666666666667 : ℤ) : ℚ) ≤ lastPlaces (2 / 3) := Int.cast_le.2 hup
  rw [roundTo12, div_le_iff₀ (by norm_num)] at hgoes
  norm_num at hgoes hcast
  linarith

end AtoService.Search.Paging
