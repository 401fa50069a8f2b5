/-
Outcomes of extraction: the order, the addresses and the size of their segments.

Each format numbers its segments in document order, and `_succeeded_outcome` sorts them by a string that is made of the
address. `Artifact` holds what the libraries read of an artifact: the blocks of a document, the cells of a workbook, the
pages of a PDF, and an XML document for `parse_xml_bounded`. A function returns nothing where the source raises.

- `increasing_documentSegments`: in document order the numbers increase.
- `wellOrdered_iff`: an outcome is in document order, with distinct addresses and within the limit, exactly if the
  addresses ascend in document order and the texts are not too long; for text and PDF always.
-/
import AtoService.Extraction.BoundedXml

namespace AtoService.Extraction.Outcomes

open Xml (ReRules XmlDocument parseXmlBounded)

/-! ## Segments -/

inductive Locator where
  | jsonPointer (pointer : String)
  | xmlPath (path : String)
  | sheetCell (sheet cell : String)
  | page (number : Nat)
  | docSection (name : String)
  | textOffsets (startOffset endOffset : Nat)
deriving DecidableEq, Repr

structure Segment where
  segmentIndex : Nat
  text : String
  locator : Locator
deriving DecidableEq, Repr

structure Outcome where
  totalTextCharacters : Nat
  segments : List Segment

/-- `f"{n:09d}"` -/
def padded (n : Nat) : String := String.ofList (List.replicate (9 - (digits n).length) '0' ++ digits n)

/-- `_segment_sort_key` -/
def sortKey : Locator → String × String
  | .jsonPointer pointer => ("json_pointer", pointer)
  | .xmlPath path => ("xml_path", path)
  | .sheetCell sheet cell => ("sheet_cell", sheet ++ (":" ++ cell))
  | .page number => ("page", padded number)
  | .docSection name => ("section", name)
  | .textOffsets startOffset _ => ("text_offsets", padded startOffset)

def segmentSortKey (segment : Segment) : String ×ₗ String := toLex (sortKey segment.locator)

def totalCharacters (segments : List Segment) : Nat := (segments.map fun s => (Py.chars s.text).length).sum

def succeededOutcome (segments : List Segment) : Outcome :=
  let ordered := segments.insertionSort fun a b => segmentSortKey a ≤ segmentSortKey b
  ⟨totalCharacters ordered, ordered⟩

/-- texts with their addresses, which may depend on the number, numbered from `index` -/
def numberFrom (index : Nat) : List ((Nat → Locator) × String) → List Segment
  | [] => []
  | (locator, text) :: pieces => ⟨index, text, locator index⟩ :: numberFrom (index + 1) pieces

/-! ## XML -/

inductive XmlNode where
  | node (tag : String) (text tail : Option String) (children : List XmlNode)

/-- the tree below an element of the heap, so many levels deep -/
def readNode (heap : List Xml.Element) : Nat → Nat → XmlNode
  | 0, _ => .node "" none none []
  | k + 1, i =>
    let e := Xml.elementAt heap i
    .node e.tag e.text e.tail (e.children.map (readNode heap k))

def localName (tag : String) : String :=
  if '}' ∈ Py.chars tag then String.ofList ((Py.chars tag).reverse.takeWhile (· ≠ '}')).reverse else tag

namespace XmlNode

def tag : XmlNode → String
  | node tag _ _ _ => tag

def collectPart (part : Option String) : List String := (part.filter Py.hasText).toList.map Py.strip

mutual

/-- the parts of `collect_element_text`: the text and the tail of each element -/
def parts : XmlNode → List String
  | node _ text tail children => collectPart text ++ collectPart tail ++ partsOf children

def partsOf : List XmlNode → List String
  | [] => []
  | child :: children => parts child ++ partsOf children

end

def collectElementText (e : XmlNode) : String := " ".intercalate e.parts

mutual

/-- `root.iter()`, each element with its path -/
def elements (path : List Char) : XmlNode → List (List Char × XmlNode)
  | node tag text tail children => (path, node tag text tail children) :: elementsOf path [] children

/-- the elements of siblings that come after those with the names `earlier` -/
def elementsOf (path : List Char) (earlier : List String) : List XmlNode → List (List Char × XmlNode)
  | [] => []
  | child :: children =>
    let name := localName child.tag
    let index := earlier.count name + 1
    elements (path ++ '/' :: Py.chars name ++ '[' :: digits index ++ [']']) child ++
      elementsOf path (earlier ++ [name]) children

end

end XmlNode

inductive XmlFormat where
  | xml | oscal | nessus | stig
deriving DecidableEq, Repr

def oscalXmlRoots : List String :=
  ["assessment-plan", "assessment-results", "catalog", "component-definition", "plan-of-action-and-milestones",
    "profile", "system-security-plan"]

def validXmlSignature (rootName : String) : XmlFormat → Bool
  | .xml => true
  | .oscal => rootName ∈ oscalXmlRoots
  | .nessus => rootName ∈ ["NessusClientData", "NessusClientData_v2"]
  | .stig => rootName = "Benchmark"

def interestingTags : XmlFormat → Option (List String)
  | .xml => none
  | .oscal => some ["control", "implemented-requirement", "prop", "description", "title"]
  | .nessus => some ["ReportItem", "ReportHost", "Preference"]
  | .stig => some ["Group", "Rule", "title", "description"]

/-- the texts of the elements that count, with their paths -/
def xmlPieces (format : XmlFormat) (root : XmlNode) : List ((Nat → Locator) × String) :=
  (root.elements ('/' :: Py.chars (localName root.tag) ++ ['[', '1', ']'])).filterMap fun p =>
    if (interestingTags format).all (localName p.2.tag ∈ ·) then
      let text := Py.strip p.2.collectElementText
      if text = "" then none else some (fun _ => .xmlPath (String.ofList p.1), text)
    else none

/-- of a text that was decoded as UTF-8 -/
def extractPlainText (maxCharacters : Nat) (content : Option (List Char)) : Option (List Segment) := do
  let text ← content
  if text.any isDisallowedControl ∨ maxCharacters < text.length ∨ Py.hasText (String.ofList text) = false then none
  else some [⟨1, String.ofList text, .textOffsets 0 text.length⟩]

def extractXmlStructured (r : ReRules) (limits : ExtractionLimits) (maxCharacters : Nat) (format : XmlFormat)
    (doc : XmlDocument) : Option (List Segment) := do
  let (heap, i) ← (parseXmlBounded r limits doc).toOption
  let root := readNode heap (heap.length + 1) i
  if validXmlSignature (localName root.tag) format = false then none
  else
    match xmlPieces format root with
    | [] => if format = .xml then extractPlainText maxCharacters doc.text else none
    | piece :: pieces => some (numberFrom 1 (piece :: pieces))

/-! ## Office -/

/-- a paragraph or a table of a document's body, with its text stripped -/
structure Block where
  isTable : Bool
  text : String

def sectionName (isTable : Bool) (index : Nat) : String :=
  (if isTable then "table-" else "paragraph-") ++ String.ofList (digits index)

def docxPieces (blocks : List Block) : List ((Nat → Locator) × String) :=
  (blocks.filter (·.text ≠ "")).map fun block =>
    (fun index => .docSection (sectionName block.isTable index), block.text)

def extractDocx (blocks : List Block) : Option (List Segment) :=
  match docxPieces blocks with
  | [] => none
  | piece :: pieces => some (numberFrom 1 (piece :: pieces))

/-- a sheet, with the coordinates and the cached texts of its cells, row by row -/
structure Worksheet where
  path : String
  cells : List (String × Option String)

/-- `_CELL_REF_PATTERN`; `$` lets a line end follow -/
def isCellRef (ref : String) : Bool :=
  let cs := Py.chars ref
  let cs := if cs.getLast? = some '\n' then cs.dropLast else cs
  let letters := cs.takeWhile fun c => 'A' ≤ c && c ≤ 'Z'
  let number := cs.dropWhile fun c => 'A' ≤ c && c ≤ 'Z'
  (1 ≤ letters.length && letters.length ≤ 4) && (1 ≤ number.length && number.length ≤ 7) &&
    (number.all fun c => '0' ≤ c && c ≤ '9') && number.head? ≠ some '0'

/-- the last component of the path, without `.xml` -/
def sheetNameFromPath (path : String) : String :=
  let basename := ((Py.chars path).reverse.takeWhile (· ≠ '/')).reverse
  String.ofList (if ".xml".toList <:+ basename then basename.take (basename.length - 4) else basename)

def sheetPieces (sheet : Worksheet) : List ((Nat → Locator) × String) :=
  sheet.cells.filterMap fun cell =>
    match cell.2 with
    | none => none
    | some value =>
      if isCellRef cell.1 = false ∨ value = "" then none
      else some (fun _ => .sheetCell (sheetNameFromPath sheet.path) cell.1, value)

/-- `_sorted_sheet_paths`, whose order plays no part -/
def sheetPaths (memberPaths : List String) : List String :=
  memberPaths.filter fun path => "xl/worksheets/".toList <+: Py.chars path ∧ ".xml".toList <:+ Py.chars path

/-- of the sheets of the workbook, in a container with these members -/
def extractXlsx (memberPaths : List String) (worksheets : List Worksheet) : Option (List Segment) :=
  if sheetPaths memberPaths = [] ∨ worksheets.length ≠ (sheetPaths memberPaths).length ∨
      ∃ sheet ∈ worksheets, sheet.path ∉ memberPaths then none
  else
    match worksheets.flatMap sheetPieces with
    | [] => none
    | piece :: pieces => some (numberFrom 1 (piece :: pieces))

/-! ## PDF -/

/-- the pages that have a text, numbered from `page` -/
def pagesFrom (maxCharacters : Nat) (page total : Nat) : List String → Option (Nat × List Segment)
  | [] => some (total, [])
  | text :: pages =>
    if Py.hasText text = false then pagesFrom maxCharacters (page + 1) total pages
    else
      let total := total + (Py.chars text).length
      if maxCharacters < total then none
      else (pagesFrom maxCharacters (page + 1) total pages).map fun p => (p.1, ⟨page, text, .page page⟩ :: p.2)

def extractPdf (maxCharacters maxPages : Nat) (pages : List String) : Option Outcome :=
  if maxPages < pages.length ∨ pages = [] then none
  else (pagesFrom maxCharacters 1 0 pages).map fun p => ⟨p.1, p.2⟩

/-! ## Artifacts -/

/-- an artifact, by the format that was detected and admitted -/
inductive Artifact where
  | text (content : Option (List Char))
  /-- with the signature that its format asks of the document -/
  | json (signature : Json → Bool) (content : String)
  | xml (format : XmlFormat) (doc : XmlDocument)
  | docx (blocks : List Block)
  | xlsx (memberPaths : List String) (worksheets : List Worksheet)
  | pdf (pages : List String)

def jsonSegment (s : ExtractedSegment) : Segment := ⟨s.segmentIndex, s.text, .jsonPointer s.jsonPointer⟩

/-- the segments of a format, in document order; a PDF has its own outcome -/
def documentSegments (r : ReRules) (limits : ExtractionLimits) (maxCharacters : Nat) : Artifact → Option (List Segment)
  | .text content => extractPlainText maxCharacters content
  | .json signature content => do
    let payload ← parseJsonStrict content
    if signature payload then (extractJson maxCharacters content).map (List.map jsonSegment) else none
  | .xml format doc => extractXmlStructured r limits maxCharacters format doc
  | .docx blocks => extractDocx blocks
  | .xlsx memberPaths worksheets => extractXlsx memberPaths worksheets
  | .pdf _ => none

def extractContent (r : ReRules) (limits : ExtractionLimits) (maxCharacters maxPages : Nat) (artifact : Artifact) :
    Option Outcome :=
  match artifact with
  | .pdf pages => extractPdf maxCharacters maxPages pages
  | artifact => (documentSegments r limits maxCharacters artifact).map succeededOutcome

/-! ## Order -/

/-- the numbers of the segments increase -/
def Increasing (segments : List Segment) : Prop := (segments.map Segment.segmentIndex).Pairwise (· < ·)

/-- segments in document order, each with its own address, and within the limit together -/
structure WellOrdered (maxCharacters : Nat) (o : Outcome) : Prop where
  order : Increasing o.segments
  addresses : (o.segments.map Segment.locator).Nodup
  total : o.totalTextCharacters = totalCharacters o.segments
  bounded : o.totalTextCharacters ≤ maxCharacters

/-- the addresses ascend in document order, as strings, and the texts are within the limit together -/
structure Ascending (maxCharacters : Nat) (segments : List Segment) : Prop where
  keys : (segments.map segmentSortKey).Pairwise (· < ·)
  bounded : totalCharacters segments ≤ maxCharacters

/-- the artifact is text or a PDF, or its addresses ascend -/
def Addressed (r : ReRules) (limits : ExtractionLimits) (maxCharacters : Nat) : Artifact → Prop
  | .text _ | .pdf _ => True
  | artifact => ∀ segments, documentSegments r limits maxCharacters artifact = some segments →
      Ascending maxCharacters segments

theorem mem_numberFrom {index : Nat} {pieces : List ((Nat → Locator) × String)} {s : Segment}
    (h : s ∈ numberFrom index pieces) :
    index ≤ s.segmentIndex ∧ ∃ piece ∈ pieces, s.locator = piece.1 s.segmentIndex ∧ s.text = piece.2 := by
  induction pieces generalizing index with
  | nil => cases h
  | cons piece pieces ih =>
    rcases List.mem_cons.1 h with rfl | h
    · exact ⟨le_rfl, piece, List.mem_cons_self, rfl, rfl⟩
    · obtain ⟨hle, piece', hmem, heq⟩ := ih h
      exact ⟨(Nat.le_succ _).trans hle, piece', List.mem_cons_of_mem _ hmem, heq⟩

theorem increasing_numberFrom (index : Nat) (pieces : List ((Nat → Locator) × String)) :
    Increasing (numberFrom index pieces) := by
  induction pieces generalizing index with
  | nil => exact List.Pairwise.nil
  | cons piece pieces ih =>
    refine List.pairwise_cons.2 ⟨fun n hn => ?_, ih (index + 1)⟩
    obtain ⟨s, hs, rfl⟩ := List.mem_map.1 hn
    exact (mem_numberFrom hs).1

theorem segmentsFrom_index {index : Nat} {leaves : List (String × Json)} {segments : List ExtractedSegment}
    (h : segmentsFrom index leaves = some segments) :
    Increasing (segments.map jsonSegment) ∧ ∀ s ∈ segments, index ≤ s.segmentIndex := by
  induction leaves generalizing index segments with
  | nil =>
    cases h
    exact ⟨List.Pairwise.nil, fun s hs => absurd hs List.not_mem_nil⟩
  | cons leaf leaves ih =>
    simp only [segmentsFrom, Option.bind_eq_bind, Option.bind_eq_some_iff, Option.pure_def, Option.some.injEq] at h
    obtain ⟨text, -, rest, hrest, rfl⟩ := h
    obtain ⟨hincreasing, hle⟩ := ih hrest
    by_cases htext : text = ""
    · rw [if_pos htext]
      exact ⟨hincreasing, fun s hs => (Nat.le_succ _).trans (hle s hs)⟩
    · rw [if_neg htext]
      refine ⟨List.pairwise_cons.2 ⟨fun n hn => ?_, hincreasing⟩, fun s hs => ?_⟩
      · obtain ⟨s, hs, rfl⟩ := List.mem_map.1 hn
        obtain ⟨s', hs', rfl⟩ := List.mem_map.1 hs
        exact hle s' hs'
      · rcases List.mem_cons.1 hs with rfl | hs
        · exact le_rfl
        · exact (Nat.le_succ _).trans (hle s hs)

theorem increasing_singleton (s : Segment) : Increasing [s] := List.pairwise_singleton _ _

theorem extractPlainText_eq_some {maxCharacters : Nat} {content : Option (List Char)} {segments : List Segment}
    (h : extractPlainText maxCharacters content = some segments) :
    ∃ text, text.length ≤ maxCharacters ∧ segments = [⟨1, String.ofList text, .textOffsets 0 text.length⟩] := by
  simp only [extractPlainText, Option.bind_eq_bind, Option.bind_eq_some_iff] at h
  obtain ⟨text, -, h⟩ := h
  split_ifs at h with hrefused
  exact ⟨text, not_lt.1 fun hlt => hrefused (Or.inr (Or.inl hlt)), (Option.some.inj h).symm⟩

variable {r : ReRules} {limits : ExtractionLimits} {maxCharacters maxPages : Nat} {artifact : Artifact}
  {segments : List Segment}

/-! ## What the formats have in common -/

/-- the addresses of a format: pointers, paths and sections, or cells whose coordinates have no colon -/
def Keyed : Locator → Prop
  | .jsonPointer _ | .xmlPath _ | .docSection _ => True
  | .sheetCell _ cell => ':' ∉ cell.toList
  | .page _ | .textOffsets _ _ => False

/-- a coordinate of a cell has no colon in it -/
theorem colon_notMem_cellRef {ref : String} (h : isCellRef ref = true) : ':' ∉ ref.toList := by
  rw [← Py.chars_eq]
  have hcolon : ∀ cs : List Char, ((cs.dropWhile fun c => 'A' ≤ c && c ≤ 'Z').all fun c => '0' ≤ c && c ≤ '9') = true →
      ':' ∉ cs := by
    intro cs hall hmem
    rw [← List.takeWhile_append_dropWhile (p := fun c => decide ('A' ≤ c) && decide (c ≤ 'Z')) (l := cs)] at hmem
    rcases List.mem_append.1 hmem with hmem | hmem
    · exact absurd (List.all_eq_true.1 List.all_takeWhile _ hmem) (by decide)
    · exact absurd (List.all_eq_true.1 hall _ hmem) (by decide)
  simp only [isCellRef, Bool.and_eq_true] at h
  obtain ⟨⟨-, hall⟩, -⟩ := h
  intro hmem
  refine hcolon _ hall ?_
  split_ifs with hline
  · rw [← List.dropLast_append_getLast? _ hline] at hmem
    rcases List.mem_append.1 hmem with hmem | hmem
    · exact hmem
    · exact absurd hmem (by decide)
  · exact hmem

theorem keyed_numberFrom {index : Nat} {pieces : List ((Nat → Locator) × String)}
    (h : ∀ piece ∈ pieces, ∀ n, Keyed (piece.1 n)) : ∀ s ∈ numberFrom index pieces, Keyed s.locator := by
  intro s hs
  obtain ⟨-, piece, hpiece, hlocator, -⟩ := mem_numberFrom hs
  rw [hlocator]
  exact h piece hpiece _

theorem keyed_xmlPieces {format : XmlFormat} {root : XmlNode} :
    ∀ piece ∈ xmlPieces format root, ∀ n, Keyed (piece.1 n) := by
  intro piece hpiece n
  obtain ⟨p, -, hp⟩ := List.mem_filterMap.1 hpiece
  dsimp only at hp
  split_ifs at hp
  obtain rfl := Option.some.inj hp
  trivial

theorem keyed_docxPieces {blocks : List Block} : ∀ piece ∈ docxPieces blocks, ∀ n, Keyed (piece.1 n) := by
  intro piece hpiece n
  obtain ⟨block, -, rfl⟩ := List.mem_map.1 hpiece
  trivial

theorem keyed_sheetPieces {sheet : Worksheet} : ∀ piece ∈ sheetPieces sheet, ∀ n, Keyed (piece.1 n) := by
  intro piece hpiece n
  obtain ⟨cell, -, hcell⟩ := List.mem_filterMap.1 hpiece
  split at hcell
  · cases hcell
  · split_ifs at hcell with hrefused
    obtain rfl := Option.some.inj hcell
    refine colon_notMem_cellRef (Bool.not_eq_false _ ▸ fun hfalse => hrefused (Or.inl hfalse))

/-- the segments of a format: one text, or the leaves of a JSON document, or pieces with addresses, numbered from 1 -/
theorem documentSegments_cases (h : documentSegments r limits maxCharacters artifact = some segments) :
    (∃ text, text.length ≤ maxCharacters ∧ segments = [⟨1, String.ofList text, .textOffsets 0 text.length⟩]) ∨
      (∃ leaves rows, segmentsFrom 1 leaves = some rows ∧ segments = rows.map jsonSegment) ∨
        ∃ pieces, (∀ piece ∈ pieces, ∀ n, Keyed (piece.1 n)) ∧ segments = numberFrom 1 pieces := by
  cases artifact with
  | text content => exact Or.inl (extractPlainText_eq_some h)
  | json signature content =>
    simp only [documentSegments, Option.bind_eq_bind, Option.bind_eq_some_iff] at h
    obtain ⟨payload, -, h⟩ := h
    split_ifs at h
    obtain ⟨rows, hrows, rfl⟩ := Option.map_eq_some_iff.1 h
    unfold extractJson at hrows
    split_ifs at hrows
    simp only [Option.bind_eq_bind, Option.bind_eq_some_iff] at hrows
    obtain ⟨_, -, rows', hleaves, hrows⟩ := hrows
    split_ifs at hrows
    obtain rfl := Option.some.inj hrows
    exact Or.inr (Or.inl ⟨_, _, hleaves, rfl⟩)
  | xml format doc =>
    simp only [documentSegments, extractXmlStructured, Option.bind_eq_bind, Option.bind_eq_some_iff] at h
    obtain ⟨⟨heap, i⟩, -, h⟩ := h
    dsimp only at h
    by_cases hsignature : validXmlSignature (localName (readNode heap (heap.length + 1) i).tag) format = false
    · rw [if_pos hsignature] at h
      cases h
    rw [if_neg hsignature] at h
    split at h
    · split_ifs at h
      exact Or.inl (extractPlainText_eq_some h)
    · rename_i piece pieces hpieces
      obtain rfl := Option.some.inj h
      exact Or.inr (Or.inr ⟨_, hpieces ▸ keyed_xmlPieces, rfl⟩)
  | docx blocks =>
    simp only [documentSegments, extractDocx] at h
    split at h
    · cases h
    · rename_i piece pieces hpieces
      obtain rfl := Option.some.inj h
      exact Or.inr (Or.inr ⟨_, hpieces ▸ keyed_docxPieces, rfl⟩)
  | xlsx memberPaths worksheets =>
    simp only [documentSegments, extractXlsx] at h
    split_ifs at h
    split at h
    · cases h
    · rename_i piece pieces hpieces
      obtain rfl := Option.some.inj h
      refine Or.inr (Or.inr ⟨_, hpieces ▸ fun piece hpiece => ?_, rfl⟩)
      obtain ⟨sheet, -, hpiece⟩ := List.mem_flatMap.1 hpiece
      exact keyed_sheetPieces piece hpiece
  | pdf pages => cases h

/-- **Every format numbers** its segments in document order. -/
theorem increasing_documentSegments (h : documentSegments r limits maxCharacters artifact = some segments) :
    Increasing segments := by
  rcases documentSegments_cases h with ⟨text, -, rfl⟩ | ⟨leaves, rows, hrows, rfl⟩ | ⟨pieces, -, rfl⟩
  · exact increasing_singleton _
  · exact (segmentsFrom_index hrows).1
  · exact increasing_numberFrom _ _

/-! ## Sorting -/

theorem sorted_perm (segments : List Segment) : (succeededOutcome segments).segments.Perm segments :=
  List.perm_insertionSort _ _

/-- sorting changes nothing exactly if the keys ascend, for segments whose numbers increase -/
theorem sorted_eq_of_increasing (h : Increasing segments) (hsorted : Increasing (succeededOutcome segments).segments) :
    (succeededOutcome segments).segments = segments := by
  have hpairwise : ∀ {l : List Segment}, Increasing l → l.Pairwise fun a b => a.segmentIndex < b.segmentIndex :=
    fun hl => List.pairwise_map.1 hl
  exact (sorted_perm segments).eq_of_pairwise (fun a b _ _ hab hba => absurd (hab.trans hba) (lt_irrefl _))
    (hpairwise hsorted) (hpairwise h)

theorem sorted_keys (segments : List Segment) :
    ((succeededOutcome segments).segments.map segmentSortKey).Pairwise (· ≤ ·) :=
  List.pairwise_map.2 (List.pairwise_insertionSort (fun a b => segmentSortKey a ≤ segmentSortKey b) segments)

theorem sorted_eq_of_keys (h : (segments.map segmentSortKey).Pairwise (· ≤ ·)) :
    (succeededOutcome segments).segments = segments := (List.pairwise_map.1 h).insertionSort_eq

theorem total_succeededOutcome (segments : List Segment) :
    (succeededOutcome segments).totalTextCharacters = totalCharacters (succeededOutcome segments).segments := rfl

/-- the key of an address tells it from the others of its kind -/
def Distinguished (segments : List Segment) : Prop :=
  ∀ a ∈ segments, ∀ b ∈ segments, segmentSortKey a = segmentSortKey b → a.locator = b.locator

/-- segments that are sorted by their keys stay in order, with their own addresses, exactly if the keys ascend -/
theorem wellOrdered_succeeded_iff (h : Increasing segments) (hkeys : Distinguished segments) :
    WellOrdered maxCharacters (succeededOutcome segments) ↔ Ascending maxCharacters segments := by
  constructor
  · intro hordered
    have hsame := sorted_eq_of_increasing h hordered.order
    have hle := sorted_keys segments
    have hbounded := hordered.bounded
    have haddresses := hordered.addresses
    rw [total_succeededOutcome, hsame] at hbounded
    rw [hsame] at hle haddresses
    refine ⟨?_, hbounded⟩
    rw [List.pairwise_map] at hle ⊢
    rw [List.Nodup, List.pairwise_map] at haddresses
    exact (hle.and haddresses).imp_of_mem fun {a b} ha hb hab =>
      lt_of_le_of_ne hab.1 fun heq => hab.2 (hkeys a ha b hb heq)
  · intro hascending
    have hsame := sorted_eq_of_keys (hascending.keys.imp le_of_lt)
    refine ⟨?_, ?_, rfl, ?_⟩
    · rw [hsame]
      exact h
    · rw [hsame, List.Nodup, List.pairwise_map]
      refine (List.pairwise_map.1 hascending.keys).imp fun {a b} hlt heq => ?_
      have hkey : segmentSortKey a = segmentSortKey b := congrArg (fun l => toLex (sortKey l)) heq
      exact hlt.ne hkey
    · rw [total_succeededOutcome, hsame]
      exact hascending.bounded

/-! ## Keys -/

theorem append_colon_inj {a b c d : List Char} (hb : ':' ∉ b) (hd : ':' ∉ d) (h : a ++ ':' :: b = c ++ ':' :: d) :
    a = c ∧ b = d := by
  have hsplit : ∀ {x y : List Char}, ':' ∉ y → (x ++ ':' :: y).reverse.takeWhile (· ≠ ':') = y.reverse := by
    intro x y hy
    rw [List.reverse_append, List.reverse_cons, List.append_assoc, List.takeWhile_append_of_pos]
    · simp
    · intro z hz
      have hne : z ≠ ':' := fun heq => hy (heq ▸ List.mem_reverse.1 hz)
      simpa using hne
  have hbd : b = d := by
    rw [← List.reverse_inj, ← hsplit hb, ← hsplit hd, h]
  subst hbd
  exact ⟨List.append_cancel_right h, rfl⟩

theorem sortKey_inj {l l' : Locator} (hl : Keyed l) (hl' : Keyed l') (h : sortKey l = sortKey l') : l = l' := by
  have hkind : ∀ {a b c d : String}, ((a, b) : String × String) = (c, d) → a ≠ c → False := fun heq hne =>
    hne (Prod.mk.inj heq).1
  cases l with
  | jsonPointer p =>
    cases l' with
    | jsonPointer p' => rw [(Prod.mk.inj h).2]
    | xmlPath _ | sheetCell _ _ | docSection _ => exact (hkind h (by decide)).elim
    | page _ | textOffsets _ _ => exact hl'.elim
  | xmlPath p =>
    cases l' with
    | xmlPath p' => rw [(Prod.mk.inj h).2]
    | jsonPointer _ | sheetCell _ _ | docSection _ => exact (hkind h (by decide)).elim
    | page _ | textOffsets _ _ => exact hl'.elim
  | sheetCell sheet cell =>
    cases l' with
    | sheetCell sheet' cell' =>
      have htext := congrArg String.toList (Prod.mk.inj h).2
      simp only [String.toList_append] at htext
      obtain ⟨hsheet, hcell⟩ := append_colon_inj hl hl' htext
      rw [String.toList_inj.1 hsheet, String.toList_inj.1 hcell]
    | jsonPointer _ | xmlPath _ | docSection _ => exact (hkind h (by decide)).elim
    | page _ | textOffsets _ _ => exact hl'.elim
  | docSection name =>
    cases l' with
    | docSection name' => rw [(Prod.mk.inj h).2]
    | jsonPointer _ | xmlPath _ | sheetCell _ _ => exact (hkind h (by decide)).elim
    | page _ | textOffsets _ _ => exact hl'.elim
  | page _ | textOffsets _ _ => exact hl.elim

theorem distinguished_of_keyed (h : ∀ s ∈ segments, Keyed s.locator) : Distinguished segments :=
  fun a ha b hb heq => sortKey_inj (h a ha) (h b hb) (toLex.injective heq)

theorem distinguished_singleton (s : Segment) : Distinguished [s] := by
  intro a ha b hb _
  rw [List.mem_singleton.1 ha, List.mem_singleton.1 hb]

/-- no two addresses of a format share a key -/
theorem distinguished_documentSegments (h : documentSegments r limits maxCharacters artifact = some segments) :
    Distinguished segments := by
  rcases documentSegments_cases h with ⟨text, -, rfl⟩ | ⟨leaves, rows, -, rfl⟩ | ⟨pieces, hkeyed, rfl⟩
  · exact distinguished_singleton _
  · refine distinguished_of_keyed fun s hs => ?_
    obtain ⟨row, -, rfl⟩ := List.mem_map.1 hs
    trivial
  · exact distinguished_of_keyed (keyed_numberFrom hkeyed)

/-! ## Text and PDF -/

theorem ascending_plainText {content : Option (List Char)}
    (h : extractPlainText maxCharacters content = some segments) : Ascending maxCharacters segments := by
  obtain ⟨text, hle, rfl⟩ := extractPlainText_eq_some h
  refine ⟨List.pairwise_singleton _ _, ?_⟩
  simpa [totalCharacters, Py.chars_eq] using hle

/-- the pages that were read -/
theorem pagesFrom_spec {page total last : Nat} {pages : List String}
    (h : pagesFrom maxCharacters page total pages = some (last, segments)) :
    last = total + totalCharacters segments ∧ (total ≤ maxCharacters → last ≤ maxCharacters) ∧ Increasing segments ∧
      ∀ s ∈ segments, page ≤ s.segmentIndex ∧ s.locator = .page s.segmentIndex := by
  induction pages generalizing page total segments with
  | nil =>
    cases h
    exact ⟨rfl, id, List.Pairwise.nil, fun s hs => absurd hs List.not_mem_nil⟩
  | cons text pages ih =>
    rw [pagesFrom] at h
    by_cases htext : Py.hasText text = false
    · rw [if_pos htext] at h
      obtain ⟨hlast, hbounded, hincreasing, hpages⟩ := ih h
      exact ⟨hlast, hbounded, hincreasing, fun s hs => ⟨(Nat.le_succ _).trans (hpages s hs).1, (hpages s hs).2⟩⟩
    · rw [if_neg htext] at h
      dsimp only at h
      split_ifs at h with hlimit
      obtain ⟨⟨last', rest⟩, hrest, heq⟩ := Option.map_eq_some_iff.1 h
      obtain ⟨rfl, rfl⟩ := Prod.mk.inj heq
      obtain ⟨hlast, hbounded, hincreasing, hpages⟩ := ih hrest
      refine ⟨?_, fun _ => hbounded (not_lt.1 hlimit), List.pairwise_cons.2 ⟨fun n hn => ?_, hincreasing⟩,
        fun s hs => ?_⟩
      · rw [hlast, totalCharacters, totalCharacters, List.map_cons, List.sum_cons]
        dsimp only
        omega
      · obtain ⟨s, hs, rfl⟩ := List.mem_map.1 hn
        exact (hpages s hs).1
      · rcases List.mem_cons.1 hs with rfl | hs
        · exact ⟨le_rfl, rfl⟩
        · exact ⟨(Nat.le_succ _).trans (hpages s hs).1, (hpages s hs).2⟩

theorem wellOrdered_pdf {pages : List String} {o : Outcome} (h : extractPdf maxCharacters maxPages pages = some o) :
    WellOrdered maxCharacters o := by
  unfold extractPdf at h
  split_ifs at h
  obtain ⟨⟨last, segments⟩, hpages, rfl⟩ := Option.map_eq_some_iff.1 h
  obtain ⟨hlast, hbounded, hincreasing, hnumbered⟩ := pagesFrom_spec hpages
  refine ⟨hincreasing, ?_, ?_, hbounded (Nat.zero_le _)⟩
  · rw [List.Nodup, List.pairwise_map]
    refine (List.pairwise_map.1 hincreasing).imp_of_mem fun {a b} ha hb hlt heq => ?_
    rw [(hnumbered a ha).2, (hnumbered b hb).2, Locator.page.injEq] at heq
    exact hlt.ne heq
  · rw [hlast, Nat.zero_add]

/-! ## Outcomes -/

/-- **An outcome is ordered, addressed and bounded** exactly if the artifact is text or a PDF, or its addresses ascend
as strings in document order and its texts are within the limit together. -/
theorem wellOrdered_iff (r : ReRules) (limits : ExtractionLimits) (maxCharacters maxPages : Nat) (artifact : Artifact)
    (o : Outcome) (h : extractContent r limits maxCharacters maxPages artifact = some o) :
    WellOrdered maxCharacters o ↔ Addressed r limits maxCharacters artifact := by
  have hsorted : ∀ {segments : List Segment}, documentSegments r limits maxCharacters artifact = some segments →
      (WellOrdered maxCharacters (succeededOutcome segments) ↔ Ascending maxCharacters segments) := fun hsegments =>
    wellOrdered_succeeded_iff (increasing_documentSegments hsegments) (distinguished_documentSegments hsegments)
  have haddressed : (documentSegments r limits maxCharacters artifact).map succeededOutcome = some o →
      (WellOrdered maxCharacters o ↔ ∀ segments, documentSegments r limits maxCharacters artifact = some segments →
        Ascending maxCharacters segments) := by
    intro hmap
    obtain ⟨segments, hsegments, rfl⟩ := Option.map_eq_some_iff.1 hmap
    rw [hsorted hsegments]
    constructor
    · intro hascending segments' hsegments'
      rwa [← Option.some.inj (hsegments.symm.trans hsegments')]
    · intro hall
      exact hall segments hsegments
  cases artifact with
  | text content =>
    refine iff_of_true ((haddressed h).2 fun segments hsegments => ?_) trivial
    exact ascending_plainText hsegments
  | pdf pages => exact iff_of_true (wellOrdered_pdf h) trivial
  | json signature content => exact haddressed h
  | xml format doc => exact haddressed h
  | docx blocks => exact haddressed h
  | xlsx memberPaths worksheets => exact haddressed h

/-! ## Sections -/

namespace Samples

def paragraphs : List Segment := [⟨1, "a", .docSection "paragraph-1"⟩, ⟨2, "b", .docSection "paragraph-2"⟩]

def tableFirst : List Segment := [⟨1, "a", .docSection "table-1"⟩, ⟨2, "b", .docSection "paragraph-2"⟩]

end Samples

open Samples in
theorem wellOrdered_paragraphs : WellOrdered 10 (succeededOutcome paragraphs) :=
  (wellOrdered_iff Xml.Samples.ascii Xml.Samples.smallLimits 10 10 (.docx [⟨false, "a"⟩, ⟨false, "b"⟩]) _
    (by rfl)).2 (by
    intro segments hsegments
    have hdocument : documentSegments Xml.Samples.ascii Xml.Samples.smallLimits 10
        (.docx [⟨false, "a"⟩, ⟨false, "b"⟩]) = some paragraphs := by rfl
    obtain rfl := Option.some.inj (hdocument.symm.trans hsegments)
    refine ⟨?_, by decide⟩
    have hlt : "paragraph-1" < "paragraph-2" := by
      rw [← not_le]
      decide
    have hkey : segmentSortKey ⟨1, "a", .docSection "paragraph-1"⟩ <
        segmentSortKey ⟨2, "b", .docSection "paragraph-2"⟩ :=
      Prod.Lex.toLex_lt_toLex.2 (Or.inr ⟨rfl, hlt⟩)
    simpa [paragraphs] using hkey)

open Samples in
/-- a paragraph after a table is sorted before it -/
theorem table_sorted_last : ¬∀ (r : ReRules) (limits : ExtractionLimits) (maxCharacters maxPages : Nat)
    (artifact : Artifact) (o : Outcome), extractContent r limits maxCharacters maxPages artifact = some o →
      WellOrdered maxCharacters o := by
  intro h
  have hordered := h Xml.Samples.ascii Xml.Samples.smallLimits 10 10 (.docx [⟨true, "a"⟩, ⟨false, "b"⟩])
    (succeededOutcome tableFirst) (by rfl)
  have hincreasing : Increasing tableFirst := by simp [Increasing, tableFirst]
  have hdistinguished : Distinguished tableFirst :=
    distinguished_of_keyed fun s hs => by
      rcases List.mem_cons.1 hs with rfl | hs
      · trivial
      · rw [List.mem_singleton.1 hs]
        trivial
  have hkeys := ((wellOrdered_succeeded_iff hincreasing hdistinguished).1 hordered).keys
  have hlt := (List.pairwise_cons.1 hkeys).1 _ List.mem_cons_self
  rcases Prod.Lex.toLex_lt_toLex.1 hlt with hkind | ⟨-, hname⟩
  · exact lt_irrefl _ hkind
  · have hle : "paragraph-2" ≤ "table-1" := by decide
    exact absurd hname (not_lt.2 hle)

end AtoService.Extraction.Outcomes
