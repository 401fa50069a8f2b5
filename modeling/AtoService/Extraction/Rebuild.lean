/-
JSON artifacts: what extraction makes of a JSON document, and what its readers make of that.

`extractJson` parses a text strictly and flattens the document to its leaves, each a JSON pointer and a text. Three readers
rebuild a document from the leaves: the owner-manifest mapping of the draft builder, structured ingest and the import of
assessor reports. The text is the content as it was decoded; a function returns nothing where the source raises an
`ExtractionError`, or where a reader returns `None` or raises.

A leaf keeps neither its type nor its containers, and the import reads the first leaf alone. `not_rebuilt_by_readers`: no
leaf of an object holds the object, whose text is longer than each string in it.
-/
import AtoService.Lib.JsonDigits
import AtoService.Lib.JsonHook
import AtoService.Lib.JsonPointer

namespace AtoService.Extraction

open Json

/-! ## Strict parsing -/

def maxJsonDepth : Nat := 64

mutual

def normalizeJsonValue (depth : Nat) : Json → Option Json
  | .obj fields =>
    if maxJsonDepth < depth then none
    else if (fields.map Prod.fst).Nodup then (normalizeFields (depth + 1) fields).map .obj
    else none
  | .arr xs => if maxJsonDepth < depth then none else (normalizeItems (depth + 1) xs).map .arr
  | v => if maxJsonDepth < depth then none else some v

def normalizeItems (depth : Nat) : List Json → Option (List Json)
  | [] => some []
  | x :: xs => do
    let y ← normalizeJsonValue depth x
    let ys ← normalizeItems depth xs
    return y :: ys

def normalizeFields (depth : Nat) : List (String × Json) → Option (List (String × Json))
  | [] => some []
  | (k, v) :: fields => do
    let w ← normalizeJsonValue depth v
    let rest ← normalizeFields depth fields
    return (k, w) :: rest

end

/-- the checks of `_object_pairs_hook` are those of the dict that it returns -/
def objectPairsHook (depth : Nat) (pairs : List (String × Json)) : Option Json := normalizeJsonValue depth (.obj pairs)

def parseJsonStrict (text : String) : Option Json := JsonText.loadsWith (objectPairsHook 1) (Py.chars text)

/-- `parse_response_json`: a key that an object has twice is refused, so every literal of the text is in the value -/
def parseResponseJson (text : String) : Option Json :=
  (parseJsonStrict text).filter (JsonText.withinDigits JsonText.maxStrDigits)

/-! ## Leaves -/

/-- `segment.replace("~", "~0").replace("/", "~1")` -/
def encodeJsonPointer (segment : String) : List Char :=
  (Py.chars segment).flatMap fun c => if c = '~' then ['~', '0'] else if c = '/' then ['~', '1'] else [c]

def buildJsonPointer (pathSegments : List String) : String :=
  String.ofList (pathSegments.flatMap fun segment => '/' :: encodeJsonPointer segment)

mutual

def iterJsonLeaves (pathSegments : List String) : Json → List (String × Json)
  | .obj fields => (KeyedList.sorted Prod.fst (leavesOfFields pathSegments fields)).flatMap Prod.snd
  | .arr xs => leavesOfItems pathSegments 0 xs
  | v => [(buildJsonPointer pathSegments, v)]

def leavesOfItems (pathSegments : List String) (index : Nat) : List Json → List (String × Json)
  | [] => []
  | x :: xs =>
    iterJsonLeaves (pathSegments ++ [String.ofList (digits index)]) x ++ leavesOfItems pathSegments (index + 1) xs

/-- the leaves under each key, which the object is then sorted by -/
def leavesOfFields (pathSegments : List String) : List (String × Json) → List (String × List (String × Json))
  | [] => []
  | (k, v) :: fields => (k, iterJsonLeaves (pathSegments ++ [k]) v) :: leavesOfFields pathSegments fields

end

def leafText : Json → Option String
  | .str s => some s
  | .arr _ | .obj _ => none
  | v => some (String.ofList (v.dumps .compact))

/-! ## Extraction -/

structure ExtractedSegment where
  segmentIndex : Nat
  text : String
  jsonPointer : String
deriving DecidableEq, Repr

def isDisallowedControl (c : Char) : Bool :=
  c.toNat ≤ 8 || c.toNat = 11 || c.toNat = 12 || (14 ≤ c.toNat && c.toNat ≤ 31) || c.toNat = 127

/-- the segments of leaves that are numbered from `index`; empty texts are left out -/
def segmentsFrom (index : Nat) : List (String × Json) → Option (List ExtractedSegment)
  | [] => some []
  | (pointer, value) :: leaves => do
    let text ← leafText value
    let segments ← segmentsFrom (index + 1) leaves
    return if text = "" then segments else ⟨index, text, if pointer = "" then "/" else pointer⟩ :: segments

def extractJson (maxExtractedTextCharactersPerFile : Nat) (text : String) : Option (List ExtractedSegment) :=
  if (Py.chars text).any isDisallowedControl then none
  else if maxExtractedTextCharactersPerFile < (Py.chars text).length then none
  else do
    let payload ← parseJsonStrict text
    let segments ← segmentsFrom 1 (iterJsonLeaves [] payload)
    if segments = [] then none else some segments

/-! ## Readers -/

namespace DraftBuilder

def parseSegmentValue (text : String) : Json :=
  if text = "true" then .bool true
  else if text = "false" then .bool false
  else if text = "null" then .null
  else (JsonText.loads (Py.chars text)).getD (.str text)

def reconstructJsonDocument (segments : List ExtractedSegment) : Option Json :=
  segments.foldlM (fun document segment =>
    if (Py.chars segment.jsonPointer).head? = some '/' then
      setAt true (parseSegmentValue segment.text) (pointerParts segment.jsonPointer) document
    else some document) (.obj [])

end DraftBuilder

namespace StructuredIngest

def parseSegmentValue (text : String) : Json := (JsonText.loads (Py.chars text)).getD (.str text)

/-- a leaf is set under its path; what stands on the path and is no dict is replaced by one -/
def setLeaf (value : Json) : List String → List (String × Json) → List (String × Json)
  | [], current => current
  | [leaf], current => putMember leaf value current
  | key :: parts, current =>
    putMember key (.obj (setLeaf value parts (((member key current).bind asObj).getD []))) current

def reconstructJson (segments : List ExtractedSegment) : Option Json :=
  let merged := segments.foldl (fun merged segment =>
    if (Py.chars segment.jsonPointer).head? = some '/' then
      setLeaf (parseSegmentValue segment.text) (pointerParts segment.jsonPointer) merged
    else merged) []
  if merged.isEmpty then none else some (.obj merged)

def isDict : Json → Bool
  | .obj _ => true
  | _ => false

def parseJsonDocument (segments : List ExtractedSegment) : Option Json :=
  ((segments.filterMap fun segment => JsonText.loads (Py.chars segment.text)).find? isDict).or (reconstructJson segments)

end StructuredIngest

namespace AssessorImport

def parseJsonDocument : List ExtractedSegment → Option Json
  | [] => none
  | segment :: _ => JsonText.loads (Py.chars segment.text)

end AssessorImport

/-- a reader rebuilds the document, whose members have no order -/
def Rebuilds (read : List ExtractedSegment → Option Json) (segments : List ExtractedSegment) (document : Json) : Prop :=
  ∃ v, read segments = some v ∧ v.canon = document.canon

/-! ## What leaves hold -/

/-- neither an object nor an array -/
def Scalar : Json → Prop
  | .obj _ | .arr _ => False
  | _ => True

/-- a leaf is a scalar, and a string of the document if it is one -/
def LeafOf (document value : Json) : Prop := Scalar value ∧ ∀ s, value = .str s → s ∈ document.strings

theorem LeafOf.of_strings {v w value : Json} (h : LeafOf v value) (hsub : ∀ s ∈ v.strings, s ∈ w.strings) : LeafOf w value :=
  ⟨h.1, fun s hs => hsub s (h.2 s hs)⟩

mutual

theorem leafOf_leaves {pathSegments : List String} {leaf : String × Json} :
    ∀ v : Json, leaf ∈ iterJsonLeaves pathSegments v → LeafOf v leaf.2
  | .null, h => by
    obtain rfl := List.mem_singleton.1 h
    exact ⟨trivial, fun s hs => by cases hs⟩
  | .bool _, h => by
    obtain rfl := List.mem_singleton.1 h
    exact ⟨trivial, fun s hs => by cases hs⟩
  | .int _, h => by
    obtain rfl := List.mem_singleton.1 h
    exact ⟨trivial, fun s hs => by cases hs⟩
  | .float _, h => by
    obtain rfl := List.mem_singleton.1 h
    exact ⟨trivial, fun s hs => by cases hs⟩
  | .str s, h => by
    obtain rfl := List.mem_singleton.1 h
    refine ⟨trivial, fun s' hs' => ?_⟩
    cases hs'
    exact List.mem_singleton_self s
  | .arr xs, h => by
    rw [iterJsonLeaves] at h
    obtain ⟨x, hx, hleaf⟩ := leafOf_leavesOfItems xs h
    exact hleaf.of_strings fun s hs => by
      rw [strings, mem_stringsItems]
      exact ⟨x, hx, hs⟩
  | .obj fields, h => by
    rw [iterJsonLeaves, List.mem_flatMap] at h
    obtain ⟨p, hp, hleaf⟩ := h
    obtain ⟨q, hq, hof⟩ := leafOf_leavesOfFields fields (KeyedList.mem_sorted.1 hp) hleaf
    exact hof.of_strings fun s hs => by
      rw [strings, mem_stringsFields]
      exact ⟨q, hq, hs⟩

theorem leafOf_leavesOfItems {pathSegments : List String} {index : Nat} {leaf : String × Json} :
    ∀ xs : List Json, leaf ∈ leavesOfItems pathSegments index xs → ∃ x ∈ xs, LeafOf x leaf.2
  | [], h => by cases h
  | x :: xs, h => by
    rw [leavesOfItems, List.mem_append] at h
    rcases h with h | h
    · exact ⟨x, List.mem_cons_self, leafOf_leaves x h⟩
    · obtain ⟨y, hy, hleaf⟩ := leafOf_leavesOfItems xs h
      exact ⟨y, List.mem_cons_of_mem _ hy, hleaf⟩

theorem leafOf_leavesOfFields {pathSegments : List String} {leaf : String × Json} {p : String × List (String × Json)} :
    ∀ fields : List (String × Json), p ∈ leavesOfFields pathSegments fields → leaf ∈ p.2 → ∃ q ∈ fields, LeafOf q.2 leaf.2
  | [], h, _ => by cases h
  | (k, v) :: fields, h, hleaf => by
    rw [leavesOfFields, List.mem_cons] at h
    rcases h with rfl | h
    · exact ⟨(k, v), List.mem_cons_self, leafOf_leaves v hleaf⟩
    · obtain ⟨q, hq, hof⟩ := leafOf_leavesOfFields fields h hleaf
      exact ⟨q, List.mem_cons_of_mem _ hq, hof⟩

end

/-- each segment is the text of a leaf -/
theorem leaf_of_segment {leaves : List (String × Json)} {index : Nat} {segments : List ExtractedSegment}
    (h : segmentsFrom index leaves = some segments) {segment : ExtractedSegment} (hsegment : segment ∈ segments) :
    ∃ leaf ∈ leaves, leafText leaf.2 = some segment.text := by
  induction leaves generalizing index segments with
  | nil =>
    cases h
    cases hsegment
  | cons leaf leaves ih =>
    obtain ⟨pointer, value⟩ := leaf
    simp only [segmentsFrom, Option.bind_eq_bind, Option.bind_eq_some_iff, Option.pure_def, Option.some.injEq] at h
    obtain ⟨text, htext, rest, hrest, rfl⟩ := h
    have hlater (hmem : segment ∈ rest) : ∃ leaf ∈ (pointer, value) :: leaves, leafText leaf.2 = some segment.text := by
      obtain ⟨leaf, hleaf, heq⟩ := ih hrest hmem
      exact ⟨leaf, List.mem_cons_of_mem _ hleaf, heq⟩
    split_ifs at hsegment
    · exact hlater hsegment
    all_goals
      rcases List.mem_cons.1 hsegment with rfl | hmem
      · exact ⟨(pointer, value), List.mem_cons_self, htext⟩
      · exact hlater hmem

/-- the text of a scalar other than a string is read back as the scalar -/
theorem loads_leafText {value : Json} (hscalar : Scalar value) (hstr : ∀ s, value ≠ .str s) {text : String}
    (h : leafText value = some text) : JsonText.loads (Py.chars text) = some value := by
  have hread (hwf : value.WellFormed) (hcanon : value.canon = value)
      (htext : leafText value = some (String.ofList (value.dumps .compact))) : JsonText.loads (Py.chars text) = some value := by
    obtain rfl := Option.some.inj (h.symm.trans htext)
    rw [Py.chars_eq, String.toList_ofList, JsonText.loads_dumps JsonText.blanks_compact hwf, hcanon]
  cases value with
  | str s => exact absurd rfl (hstr s)
  | arr xs => exact hscalar.elim
  | obj fields => exact hscalar.elim
  | null => exact hread trivial rfl rfl
  | bool b => exact hread trivial rfl rfl
  | int n => exact hread trivial rfl rfl
  | float x => exact hread trivial rfl rfl

/-- **No leaf holds the object**: what is read from its text is another document. -/
theorem loads_leaf_ne {fields : List (String × Json)} {value : Json} (hleaf : LeafOf (.obj fields) value) {text : String}
    (htext : leafText value = some text) {v : Json} (hv : JsonText.loads (Py.chars text) = some v) :
    v.canon ≠ (Json.obj fields).canon := by
  intro heq
  by_cases hstr : ∃ s, value = .str s
  · obtain ⟨s, rfl⟩ := hstr
    obtain rfl : s = text := Option.some.inj htext
    -- the string is in the object, so in what was read from it
    have hmem : s ∈ v.strings := by
      rw [← mem_strings_canon, heq, mem_strings_canon]
      exact hleaf.2 s rfl
    exact absurd (JsonText.length_lt_of_loads hv hmem) (Nat.lt_irrefl _)
  · rw [loads_leafText hleaf.1 (fun s hs => hstr ⟨s, hs⟩) htext] at hv
    cases hv
    have hscalar := hleaf.1
    cases value with
    | arr xs => exact hscalar
    | obj fields => exact hscalar
    | null => cases heq
    | bool b => cases heq
    | int n => cases heq
    | float x => cases heq
    | str s => cases heq

/-! ## The readers and the document -/

/-- **No object is rebuilt by all readers**: the import of assessor reports rebuilds none. -/
theorem not_rebuilt_by_readers (maxExtractedTextCharactersPerFile : Nat) (text : String) (fields : List (String × Json))
    (segments : List ExtractedSegment) (hparse : parseJsonStrict text = some (.obj fields))
    (hextract : extractJson maxExtractedTextCharactersPerFile text = some segments) :
    ¬(Rebuilds DraftBuilder.reconstructJsonDocument segments (.obj fields) ∧
      Rebuilds StructuredIngest.parseJsonDocument segments (.obj fields) ∧
      Rebuilds AssessorImport.parseJsonDocument segments (.obj fields)) := by
  rintro ⟨-, -, v, hread, heq⟩
  cases segments with
  | nil => cases hread
  | cons segment segments =>
    unfold extractJson at hextract
    split_ifs at hextract
    simp only [Option.bind_eq_bind, Option.bind_eq_some_iff] at hextract
    obtain ⟨payload, hpayload, segments', hsegments, hsome⟩ := hextract
    rw [hparse] at hpayload
    cases hpayload
    split_ifs at hsome
    cases hsome
    obtain ⟨leaf, hleaf, htext⟩ := leaf_of_segment hsegments List.mem_cons_self
    exact loads_leaf_ne (leafOf_leaves _ hleaf) htext hread heq

theorem not_rebuilt_text_of_number :
    ¬(Rebuilds DraftBuilder.reconstructJsonDocument [⟨1, "1", "/a"⟩] (.obj [("a", .str "1")]) ∧
      Rebuilds StructuredIngest.parseJsonDocument [⟨1, "1", "/a"⟩] (.obj [("a", .str "1")]) ∧
      Rebuilds AssessorImport.parseJsonDocument [⟨1, "1", "/a"⟩] (.obj [("a", .str "1")])) :=
  not_rebuilt_by_readers 9 "\x7b\"a\":\"1\"\x7d" _ _ (by rfl) (by rfl)

/-- A string that looks like a number is read as the number by all three, and by the import as the whole document. -/
theorem text_of_number_rebuilt :
    parseJsonStrict "\x7b\"a\":\"1\"\x7d" = some (.obj [("a", .str "1")]) ∧
      extractJson 9 "\x7b\"a\":\"1\"\x7d" = some [⟨1, "1", "/a"⟩] ∧
      DraftBuilder.reconstructJsonDocument [⟨1, "1", "/a"⟩] = some (.obj [("a", .int 1)]) ∧
      StructuredIngest.parseJsonDocument [⟨1, "1", "/a"⟩] = some (.obj [("a", .int 1)]) ∧
      AssessorImport.parseJsonDocument [⟨1, "1", "/a"⟩] = some (.int 1) ∧
      (Json.obj [("a", .int 1)]).canon ≠ (Json.obj [("a", .str "1")]).canon := by
  refine ⟨rfl, rfl, rfl, rfl, rfl, fun h => ?_⟩
  cases h

end AtoService.Extraction
