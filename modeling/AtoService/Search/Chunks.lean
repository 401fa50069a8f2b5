/-
The chunks of a text cover it.

- `normalizeSearchText_idem`: normalized text is normalized again to itself.
- `chunks_tile`: the offsets of the chunks of a text that is not blank are windows of 6000 characters that overlap by 500.
- `chunks_cover`: what follows for the chunks, for every text.
-/
import AtoService.Audit.Encoding
import AtoService.Lib.ShaEval
import AtoService.Lib.Windows
import AtoService.Search.Index

namespace AtoService.Search

open Windows (Tiles slice join)

/-! ## Line endings -/

theorem normalizeSearchText_clean (text : List Char) : '\r' ∉ normalizeSearchText text := by
  fun_induction normalizeSearchText text with
  | case1 cs ih => simpa using ih
  | case2 cs hnot ih => simpa using ih
  | case3 c cs hcrlf hcr ih =>
    intro h
    rcases List.mem_cons.1 h with h | h
    · exact hcr h.symm
    · exact ih h
  | case4 => exact List.not_mem_nil

theorem normalizeSearchText_of_clean {text : List Char} (h : '\r' ∉ text) : normalizeSearchText text = text := by
  induction text with
  | nil => rfl
  | cons c cs ih =>
    obtain ⟨hc, hcs⟩ := not_or.1 (mt List.mem_cons.2 h)
    have hstep : normalizeSearchText (c :: cs) = c :: normalizeSearchText cs := by
      rw [normalizeSearchText]
      · rintro cs' rfl
        exact absurd rfl hc
      · rintro rfl
        exact absurd rfl hc
    rw [hstep, ih hcs]

theorem normalizeSearchText_idem (text : List Char) :
    normalizeSearchText (normalizeSearchText text) = normalizeSearchText text :=
  normalizeSearchText_of_clean (normalizeSearchText_clean text)

/-! ## Offsets -/

variable (sourceSha256 : String)

def EvidenceChunkSlice.offsets (chunk : EvidenceChunkSlice) : Nat × Nat := (chunk.normalizedStart, chunk.normalizedEnd)

/-- the slice of the text at a window -/
def chunkAt (normalized : List Char) (window : Nat × Nat) : EvidenceChunkSlice :=
  chunkSlice sourceSha256 normalized window.1 window.2

@[simp] theorem text_chunkAt (normalized : List Char) (window : Nat × Nat) :
    (chunkAt sourceSha256 normalized window).text = slice normalized window := rfl

theorem slicesFrom_tile {normalized : List Char} {start : Nat} (h : start < normalized.length) :
    ∃ windows, slicesFrom sourceSha256 normalized start = windows.map (chunkAt sourceSha256 normalized) ∧
      Tiles chunkMaxCharacters chunkOverlapCharacters normalized.length start windows := by
  fun_induction slicesFrom sourceSha256 normalized start with
  | case1 start _ stop ih =>
    by_cases hstop : normalized.length ≤ stop
    · -- the slice meets the end: the loop breaks
      have hle : normalized.length ≤ start + chunkMaxCharacters := by omega
      refine ⟨[(start, normalized.length)], ?_, .last h hle⟩
      rw [if_pos hstop, show stop = normalized.length by omega]
      rfl
    · have hlt : start + chunkMaxCharacters < normalized.length := by omega
      have hnext : start + (chunkMaxCharacters - chunkOverlapCharacters) < normalized.length := by omega
      obtain ⟨windows, heq, htile⟩ := ih hnext
      refine ⟨(start, start + chunkMaxCharacters) :: windows, ?_, .slide hlt htile⟩
      rw [if_neg hstop, heq, show stop = start + chunkMaxCharacters by omega]
      rfl
  | case2 start hge => exact absurd h hge

theorem length_pos_of_hasText {cs : List Char} (h : Py.hasText (String.ofList cs) = true) : 0 < cs.length := by
  obtain ⟨c, hc, _⟩ := Py.hasText_iff.1 h
  rw [String.toList_ofList] at hc
  exact List.length_pos_of_mem hc

theorem chunks_tile {text : List Char} (h : Py.hasText (String.ofList (normalizeSearchText text)) = true) :
    ∃ windows, chunkNormalizedText sourceSha256 text =
        windows.map (chunkAt sourceSha256 (normalizeSearchText text)) ∧
      Tiles chunkMaxCharacters chunkOverlapCharacters (normalizeSearchText text).length 0 windows := by
  have hpos := length_pos_of_hasText h
  rw [chunkNormalizedText, if_neg (not_not.2 h)]
  split
  · rename_i hshort
    exact ⟨[(0, (normalizeSearchText text).length)], rfl, .last hpos (by omega)⟩
  · exact slicesFrom_tile sourceSha256 hpos

theorem chunks_eq_nil_iff (text : List Char) :
    chunkNormalizedText sourceSha256 text = [] ↔ Py.hasText (String.ofList (normalizeSearchText text)) = false := by
  constructor
  · intro hnil
    by_contra htext
    obtain ⟨windows, heq, htile⟩ := chunks_tile sourceSha256 (Bool.not_eq_false _ ▸ htext)
    obtain ⟨stop, rest, rfl, _⟩ := htile.eq_cons
    rw [heq] at hnil
    exact absurd hnil (List.cons_ne_nil _ _)
  · intro hblank
    rw [chunkNormalizedText, if_pos (by simp [hblank])]

/-! ## Identifiers -/

/-- the text whose digest is the identifier of a chunk -/
def chunkPayload (chunk : EvidenceChunkSlice) : List Char :=
  Py.chars sourceSha256 ++ ':' :: digits chunk.normalizedStart ++ ':' :: digits chunk.normalizedEnd ++ ':' :: chunk.text

theorem chunkId_eq {text : List Char} {chunk : EvidenceChunkSlice}
    (h : chunk ∈ chunkNormalizedText sourceSha256 text) : chunk.chunkId = Sha.sha256Hex (chunkPayload sourceSha256 chunk) := by
  cases htext : Py.hasText (String.ofList (normalizeSearchText text)) with
  | false =>
    rw [(chunks_eq_nil_iff sourceSha256 text).2 htext] at h
    exact absurd h List.not_mem_nil
  | true =>
    obtain ⟨windows, heq, _⟩ := chunks_tile sourceSha256 htext
    rw [heq] at h
    obtain ⟨window, _, rfl⟩ := List.mem_map.1 h
    rfl

theorem chunkPayload_start {chunk chunk' : EvidenceChunkSlice}
    (h : chunkPayload sourceSha256 chunk = chunkPayload sourceSha256 chunk') :
    chunk.normalizedStart = chunk'.normalizedStart := by
  simp only [chunkPayload, List.append_assoc, List.cons_append, List.append_cancel_left_eq, List.cons.injEq,
    true_and] at h
  exact (Audit.digits_append (by decide) (by decide) h).1

/-- no two of these chunks have different payloads with one digest -/
def Collisionless (chunks : List EvidenceChunkSlice) : Prop :=
  ∀ chunk ∈ chunks, ∀ chunk' ∈ chunks,
    Sha.sha256Hex (chunkPayload sourceSha256 chunk) = Sha.sha256Hex (chunkPayload sourceSha256 chunk') →
      chunkPayload sourceSha256 chunk = chunkPayload sourceSha256 chunk'

theorem chunkIds_nodup {text : List Char}
    (hsha : Collisionless sourceSha256 (chunkNormalizedText sourceSha256 text))
    (hstart : (chunkNormalizedText sourceSha256 text).Pairwise fun a b => a.normalizedStart < b.normalizedStart) :
    ((chunkNormalizedText sourceSha256 text).map EvidenceChunkSlice.chunkId).Nodup := by
  rw [List.Nodup, List.pairwise_map]
  refine hstart.imp_of_mem fun {a b} ha hb hlt hid => ?_
  rw [chunkId_eq sourceSha256 ha, chunkId_eq sourceSha256 hb] at hid
  have := chunkPayload_start sourceSha256 (hsha a ha b hb hid)
  omega

/-! ## Coverage -/

/-- one chunk lies inside another -/
def Inside (chunk chunk' : EvidenceChunkSlice) : Prop :=
  chunk'.normalizedStart ≤ chunk.normalizedStart ∧ chunk.normalizedEnd ≤ chunk'.normalizedEnd

/-- the chunks cover a text that is not blank: each is the text between its offsets, the first starts at the start, the
last ends at the end, and each but the first starts 500 characters before the one before it ends -/
structure CoversText (normalized : List Char) (chunks : List EvidenceChunkSlice) : Prop where
  text : ∀ chunk ∈ chunks, chunk.text = slice normalized chunk.offsets
  length : ∀ chunk ∈ chunks, chunk.text.length = chunk.normalizedEnd - chunk.normalizedStart ∧
    1 ≤ chunk.text.length ∧ chunk.text.length ≤ 6000
  first : ∃ chunk, chunks.head? = some chunk ∧ chunk.normalizedStart = 0
  last : ∃ chunk, chunks.getLast? = some chunk ∧ chunk.normalizedEnd = normalized.length
  overlap : chunks.IsChain fun chunk next => next.normalizedStart + 500 = chunk.normalizedEnd
  apart : chunks.Pairwise fun chunk later => ¬Inside chunk later ∧ ¬Inside later chunk
  joined : join 500 (chunks.map EvidenceChunkSlice.text) = normalized

theorem covers_of_tiles {normalized : List Char} {windows : List (Nat × Nat)}
    (h : Tiles chunkMaxCharacters chunkOverlapCharacters normalized.length 0 windows) :
    CoversText normalized (windows.map (chunkAt sourceSha256 normalized)) where
  text := by
    intro chunk hchunk
    obtain ⟨window, _, rfl⟩ := List.mem_map.1 hchunk
    rfl
  length := by
    intro chunk hchunk
    obtain ⟨window, hwindow, rfl⟩ := List.mem_map.1 hchunk
    obtain ⟨_, hlt, hle, hsize⟩ := h.bounds (by decide) window hwindow
    have hlength := Windows.length_slice hle
    have hmax : chunkMaxCharacters = 6000 := rfl
    rw [text_chunkAt, hlength]
    exact ⟨rfl, by omega, by omega⟩
  first := by
    obtain ⟨stop, rest, rfl, _⟩ := h.eq_cons
    exact ⟨chunkAt sourceSha256 normalized (0, stop), rfl, rfl⟩
  last := by
    obtain ⟨stop, rest, rfl, _⟩ := h.eq_cons
    obtain ⟨window, hlast⟩ := Option.isSome_iff_exists.1 (List.getLast?_isSome.2 (List.cons_ne_nil (0, stop) rest))
    refine ⟨chunkAt sourceSha256 normalized window, ?_, h.last_stop window hlast⟩
    rw [List.getLast?_map, hlast, Option.map_some]
  overlap := (List.isChain_map _).2 (h.chain (by decide))
  apart := by
    rw [List.pairwise_map]
    refine (h.increasing (by decide)).imp fun {v w} hvw => ⟨fun hin => ?_, fun hin => ?_⟩
    · exact absurd hin.1 (by simpa [chunkAt, chunkSlice] using hvw.1)
    · exact absurd hin.2 (by simpa [chunkAt, chunkSlice] using hvw.2)
  joined := by
    rw [List.map_map]
    exact h.joined (by decide)

/-- what a text is cut into -/
theorem chunks_cover (text : List Char)
    (hsha : Collisionless sourceSha256 (chunkNormalizedText sourceSha256 text)) :
    (chunkNormalizedText sourceSha256 text = [] ↔ Py.hasText (String.ofList (normalizeSearchText text)) = false) ∧
      (Py.hasText (String.ofList (normalizeSearchText text)) = true →
        CoversText (normalizeSearchText text) (chunkNormalizedText sourceSha256 text)) ∧
      ((chunkNormalizedText sourceSha256 text).map EvidenceChunkSlice.chunkId).Nodup ∧
      normalizeSearchText (normalizeSearchText text) = normalizeSearchText text := by
  refine ⟨chunks_eq_nil_iff sourceSha256 text, fun htext => ?_, ?_, normalizeSearchText_idem text⟩
  · obtain ⟨windows, heq, htile⟩ := chunks_tile sourceSha256 htext
    rw [heq]
    exact covers_of_tiles sourceSha256 htile
  · cases htext : Py.hasText (String.ofList (normalizeSearchText text)) with
    | false =>
      rw [(chunks_eq_nil_iff sourceSha256 text).2 htext]
      exact List.nodup_nil
    | true =>
      apply chunkIds_nodup sourceSha256 hsha
      obtain ⟨windows, heq, htile⟩ := chunks_tile sourceSha256 htext
      rw [heq, List.pairwise_map]
      exact (htile.increasing (by decide)).imp fun hvw => hvw.1

/-- a text of one character more than a chunk holds, when its line ending is normalized -/
def longText : List Char := 'a' :: '\r' :: '\n' :: List.replicate 5999 'b'

def longNormalized : List Char := 'a' :: '\n' :: List.replicate 5999 'b'

def longChunks : List EvidenceChunkSlice := [(0, 6000), (5500, 6001)].map (chunkAt "00" longNormalized)

private theorem longText_normalized : normalizeSearchText longText = longNormalized := by
  have hclean : normalizeSearchText (List.replicate 5999 'b') = List.replicate 5999 'b' :=
    normalizeSearchText_of_clean fun h => absurd (List.eq_of_mem_replicate h) (by decide)
  have hstep : normalizeSearchText longText = 'a' :: '\n' :: normalizeSearchText (List.replicate 5999 'b') := rfl
  rw [hstep, hclean, longNormalized]

private theorem longNormalized_length : longNormalized.length = 6001 := by
  rw [longNormalized, List.length_cons, List.length_cons, List.length_replicate]

private theorem longText_hasText : Py.hasText (String.ofList (normalizeSearchText longText)) = true := by
  refine Py.hasText_iff.2 ⟨'a', ?_, rfl⟩
  rw [longText_normalized, String.toList_ofList]
  exact List.mem_cons_self

private theorem longText_chunks : chunkNormalizedText "00" longText = longChunks := by
  rw [chunkNormalizedText, if_neg (not_not.2 longText_hasText), longText_normalized,
    if_neg (by rw [longNormalized_length]; decide), slicesFrom, if_pos (by rw [longNormalized_length]; decide)]
  -- the first slice does not meet the end, the second does
  simp only [longNormalized_length]
  rw [if_neg (by decide), slicesFrom, if_pos (by rw [longNormalized_length]; decide)]
  simp only [longNormalized_length]
  rw [if_pos (by decide)]
  rfl

/-- the digest that names a chunk of `longNormalized`, for a proof by evaluation -/
def longDigest (window : Nat × Nat) : String :=
  Sha.hex (Sha.evalSha256 (Sha.utf8 (chunkPayload "00" (chunkAt "00" longNormalized window))))

theorem sha256Hex_longDigest (window : Nat × Nat) :
    Sha.sha256Hex (chunkPayload "00" (chunkAt "00" longNormalized window)) = longDigest window := by
  rw [Sha.sha256Hex, Sha.sha256_eq_eval, longDigest]

/-- the digests of both chunks, which differ -/
def longDigests : { p : String × String // p.1 ≠ p.2 } where
  val := (longDigest (0, 6000), longDigest (5500, 6001))
  property := by decide +kernel

private theorem longChunks_collisionless : Collisionless "00" longChunks := by
  have hdiffer : Sha.sha256Hex (chunkPayload "00" (chunkAt "00" longNormalized (0, 6000))) ≠
      Sha.sha256Hex (chunkPayload "00" (chunkAt "00" longNormalized (5500, 6001))) := by
    rw [sha256Hex_longDigest, sha256Hex_longDigest]
    exact longDigests.property
  intro chunk hchunk chunk' hchunk' heq
  simp only [longChunks, List.map_cons, List.map_nil, List.mem_cons, List.not_mem_nil, or_false] at hchunk hchunk'
  rcases hchunk with rfl | rfl <;> rcases hchunk' with rfl | rfl
  · rfl
  · exact absurd heq hdiffer
  · exact absurd heq.symm hdiffer
  · rfl

/-- a text of 6001 characters is two chunks, with its line ending normalized -/
theorem chunks_cover_long :
    (chunkNormalizedText "00" longText).map EvidenceChunkSlice.offsets = [(0, 6000), (5500, 6001)] ∧
      CoversText longNormalized (chunkNormalizedText "00" longText) ∧
      ((chunkNormalizedText "00" longText).map EvidenceChunkSlice.chunkId).Nodup := by
  have hsha : Collisionless "00" (chunkNormalizedText "00" longText) := by
    rw [longText_chunks]
    exact longChunks_collisionless
  obtain ⟨-, hcovers, hnodup, -⟩ := chunks_cover "00" longText hsha
  refine ⟨?_, ?_, hnodup⟩
  · rw [longText_chunks]
    rfl
  · rw [← longText_normalized]
    exact hcovers longText_hasText

end AtoService.Search
