/-
Bounded XML: `parse_xml_bounded`, and with `StrictJson` what bounds a parsed structure.

What expat reports of a document is a list of tokens, with the ends of the input blocks among them; comments and
processing instructions, which the tree builder passes over, are left out. `TreeBuilder` makes elements of the tokens,
and sets a text or a tail only at the next tag. Events reach the loop of `parse_xml_bounded` when a block ends, and a tail
is looked at with the end event of its element.

`Shape` and `Texts` hold after every token. `treeBounded_iff`: the tree is within the limits exactly if the tails are
whose next tag comes in a later block than the end of the element.
-/
import AtoService.Extraction.SafeZip
import AtoService.Extraction.StrictJson

namespace AtoService.Extraction.Xml

open Results

def limitExceeded (message : String) : ExtractionError := ⟨message, "package_limit_exceeded"⟩

def parseFailed : ExtractionError := ⟨"XML parse failed", "source_parse_failed"⟩

/-! ## Before the parse -/

/-- letters that `re.IGNORECASE` takes for one another, and the characters of words -/
structure ReRules where
  sameLetter : Char → Char → Bool
  isWord : Char → Bool

/-- a pattern of word characters, and `\b` -/
def matchesWord (r : ReRules) : List Char → List Char → Bool
  | [], [] => true
  | [], c :: _ => !r.isWord c
  | _ :: _, [] => false
  | p :: pattern, c :: text => r.sameLetter p c && matchesWord r pattern text

def search (r : ReRules) (pattern text : List Char) : Bool := text.tails.any (matchesWord r pattern)

/-- of a text that was decoded as UTF-8, if it could be -/
def rejectXmlPrologThreats (r : ReRules) (text : Option (List Char)) : Except ExtractionError Unit := do
  let text ← orRaise text ⟨"XML is not valid UTF-8", "source_parse_failed"⟩
  ensure (search r "<!DOCTYPE".toList text = false) ⟨"XML DOCTYPE is not allowed", "unsafe_archive"⟩
  ensure (search r "<!ENTITY".toList text = false) ⟨"XML ENTITY declarations are not allowed", "unsafe_archive"⟩

/-- for an exception of the hardened parser, with its text in lower case -/
def mapDefusedxmlException (message : List Char) : ExtractionError :=
  if "entity".toList <:+: message ∨ "dtd".toList <:+: message ∨ "doctype".toList <:+: message then
    ⟨"XML ENTITY declarations are not allowed", "unsafe_archive"⟩
  else parseFailed

/-! ## Elements -/

/-- an element of the heap, which is named by its place there -/
structure Element where
  tag : String
  attrib : List (String × String)
  text : Option String
  tail : Option String
  children : List Nat
deriving DecidableEq, Repr

def newElement (tag : String) (attrib : List (String × String)) : Element := ⟨tag, attrib, none, none, []⟩

def elementAt (heap : List Element) (i : Nat) : Element := heap.getD i (newElement "" [])

def addChild (child : Nat) (e : Element) : Element := { e with children := e.children ++ [child] }

def setText (isTail : Bool) (text : String) (e : Element) : Element :=
  if isTail then { e with tail := some text } else { e with text := some text }

/-- `xml.etree.ElementTree.TreeBuilder` -/
structure TreeBuilder where
  heap : List Element := []
  data : List String := []
  /-- the open elements, the innermost first -/
  elem : List Nat := []
  last : Option Nat := none
  root : Option Nat := none
  tail : Bool := false

namespace TreeBuilder

def flush (b : TreeBuilder) : TreeBuilder :=
  if b.data = [] then b
  else
    match b.last with
    | none => { b with data := [] }
    | some i => { b with heap := b.heap.modify i (setText b.tail (String.join b.data)), data := [] }

def start (b : TreeBuilder) (tag : String) (attrib : List (String × String)) : TreeBuilder :=
  let b := b.flush
  let i := b.heap.length
  match b.elem with
  | [] =>
    { b with
      heap := b.heap ++ [newElement tag attrib], root := b.root.or (some i), elem := [i], last := some i, tail := false }
  | p :: rest =>
    { b with
      heap := b.heap.modify p (addChild i) ++ [newElement tag attrib], elem := i :: p :: rest, last := some i,
      tail := false }

/-- the element `i` on top of the open ones is closed -/
def close (b : TreeBuilder) (i : Nat) (rest : List Nat) : TreeBuilder :=
  { b.flush with elem := rest, last := some i, tail := true }

end TreeBuilder

/-! ## Events -/

inductive Token where
  | start (tag : String) (attrib : List (String × String))
  | close (tag : String)
  | data (text : String)
  /-- an input block ends -/
  | block
  | parseError
  /-- an exception of the hardened parser -/
  | refused (message : List Char)
deriving DecidableEq, Repr

inductive Event where
  | start (i : Nat)
  | close (i : Nat)
  | error
deriving DecidableEq, Repr

def Event.isStart : Event → Bool
  | .start _ => true
  | _ => false

/-- the variables of `parse_xml_bounded` -/
structure Checked where
  depth : Nat := 0
  elementCount : Nat := 0
  root : Option Nat := none

def validateXmlTextNodes (limits : ExtractionLimits) (e : Element) : Except ExtractionError Unit := do
  ensure ((e.text.getD "").length ≤ limits.maxXmlTextNodeCharacters)
    (limitExceeded "XML text node exceeds configured limit")
  ensure ((e.tail.getD "").length ≤ limits.maxXmlTextNodeCharacters)
    (limitExceeded "XML tail text exceeds configured limit")

/-- one turn of the loop, with the elements as they are by then -/
def visit (limits : ExtractionLimits) (heap : List Element) (c : Checked) : Event → Except ExtractionError Checked
  | .start i => do
    let c : Checked := ⟨c.depth + 1, c.elementCount + 1, c.root.or (some i)⟩
    ensure (c.depth ≤ limits.maxXmlDepth) (limitExceeded "XML depth exceeds configured limit")
    ensure (c.elementCount ≤ limits.maxXmlElements) (limitExceeded "XML element count exceeds configured limit")
    ensure ((elementAt heap i).attrib.length ≤ limits.maxXmlAttributesPerElement)
      (limitExceeded "XML attribute count exceeds configured limit")
    return c
  | .close i => do
    validateXmlTextNodes limits (elementAt heap i)
    return { c with depth := c.depth - 1 }
  | .error => .error parseFailed

structure Parsing where
  builder : TreeBuilder := {}
  queue : List Event := []
  checked : Checked := {}

def deliver (limits : ExtractionLimits) (s : Parsing) : Except ExtractionError Parsing := do
  let checked ← s.queue.foldlM (visit limits s.builder.heap) s.checked
  return { s with queue := [], checked }

/-- A second root and an end without a start are errors of expat. -/
def step (limits : ExtractionLimits) (s : Parsing) : Token → Except ExtractionError Parsing
  | .start tag attrib =>
    if s.builder.elem = [] ∧ s.builder.root ≠ none then .ok { s with queue := s.queue ++ [.error] }
    else .ok { s with builder := s.builder.start tag attrib, queue := s.queue ++ [.start s.builder.heap.length] }
  | .close _ =>
    match s.builder.elem with
    | [] => .ok { s with queue := s.queue ++ [.error] }
    | i :: rest => .ok { s with builder := s.builder.close i rest, queue := s.queue ++ [.close i] }
  | .data text => .ok { s with builder := { s.builder with data := s.builder.data ++ [text] } }
  | .block => deliver limits s
  | .parseError => .ok { s with queue := s.queue ++ [.error] }
  | .refused message => .error (mapDefusedxmlException message)

structure XmlDocument where
  text : Option (List Char)
  tokens : List Token

/-- the elements, and the root among them -/
def parseXmlBounded (r : ReRules) (limits : ExtractionLimits) (doc : XmlDocument) :
    Except ExtractionError (List Element × Nat) := do
  rejectXmlPrologThreats r doc.text
  let s ← doc.tokens.foldlM (step limits) {}
  let s ← deliver limits s
  let root ← orRaise s.checked.root parseFailed
  ensure (s.checked.depth = 0) parseFailed
  return (s.builder.heap, root)

/-! ## Elements of the heap -/

variable {heap heap' : List Element} {i j d : Nat}

theorem elementAt_modify (f : Element → Element) :
    elementAt (heap.modify i f) j = if i = j ∧ i < heap.length then f (elementAt heap j) else elementAt heap j := by
  unfold elementAt
  rw [List.getD_eq_getElem?_getD, List.getD_eq_getElem?_getD, List.getElem?_modify]
  by_cases hij : i = j
  · subst hij
    by_cases hlt : i < heap.length
    · simp [hlt]
    · simp [hlt]
  · simp [hij]

theorem elementAt_append_left (e : Element) (h : i < heap.length) : elementAt (heap ++ [e]) i = elementAt heap i := by
  unfold elementAt
  rw [List.getD_eq_getElem?_getD, List.getElem?_append_left h, List.getD_eq_getElem?_getD]

theorem elementAt_append_self (e : Element) : elementAt (heap ++ [e]) heap.length = e := by
  simp [elementAt]

theorem elementAt_of_ge (h : heap.length ≤ i) : elementAt heap i = newElement "" [] := by
  rw [elementAt, List.getD_eq_getElem?_getD, List.getElem?_eq_none h, Option.getD_none]

/-- `i` is an element of the tree at depth `d` -/
inductive AtDepth (heap : List Element) (root : Nat) : Nat → Nat → Prop where
  | root : AtDepth heap root root 1
  | child {i j d : Nat} : AtDepth heap root i d → j ∈ (elementAt heap i).children → AtDepth heap root j (d + 1)

/-- the children of every element are in the heap -/
def Closed (heap : List Element) : Prop := ∀ i j, j ∈ (elementAt heap i).children → j < heap.length

theorem AtDepth.pos {root : Nat} (h : AtDepth heap root i d) : 0 < d := by cases h <;> omega

theorem AtDepth.lt (hclosed : Closed heap) (hne : heap ≠ []) (h : AtDepth heap 0 i d) : i < heap.length := by
  cases h with
  | root => exact List.length_pos_iff.2 hne
  | child _ hmem => exact hclosed _ _ hmem

theorem AtDepth.mono {root : Nat}
    (hsub : ∀ i d, AtDepth heap root i d → (elementAt heap i).children ⊆ (elementAt heap' i).children)
    (h : AtDepth heap root i d) : AtDepth heap' root i d := by
  induction h with
  | root => exact .root
  | child hparent hmem ih => exact .child ih (hsub _ _ hparent hmem)

/-- the one child of the root's depth is the root -/
theorem AtDepth.eq_root {root : Nat} (h : AtDepth heap root i 1) : i = root := by
  cases h with
  | root => rfl
  | child hparent _ => exact absurd hparent.pos (lt_irrefl 0)

section Push

variable {p : Nat} {e : Element}

/-- the heap in which `p` has a new element `e` for its last child -/
def push (heap : List Element) (p : Nat) (e : Element) : List Element := heap.modify p (addChild heap.length) ++ [e]

theorem length_push : (push heap p e).length = heap.length + 1 := by simp [push]

theorem elementAt_push (h : i < heap.length) :
    elementAt (push heap p e) i = if i = p then addChild heap.length (elementAt heap i) else elementAt heap i := by
  rw [push, elementAt_append_left _ (by simpa using h), elementAt_modify]
  by_cases hip : i = p
  · subst hip
    simp [h]
  · rw [if_neg (fun hand => hip hand.1.symm), if_neg hip]

theorem elementAt_push_self : elementAt (push heap p e) heap.length = e := by
  have h : elementAt (push heap p e) (heap.modify p (addChild heap.length)).length = e := elementAt_append_self e
  rwa [List.length_modify] at h

theorem closed_push (hclosed : Closed heap) (he : e.children = []) : Closed (push heap p e) := by
  intro i j hmem
  rw [length_push]
  rcases lt_trichotomy i heap.length with hlt | rfl | hgt
  · rw [elementAt_push hlt] at hmem
    split_ifs at hmem
    · rcases List.mem_append.1 hmem with hmem | hmem
      · exact (hclosed _ _ hmem).trans (Nat.lt_succ_self _)
      · rw [List.mem_singleton.1 hmem]
        exact Nat.lt_succ_self _
    · exact (hclosed _ _ hmem).trans (Nat.lt_succ_self _)
  · rw [elementAt_push_self, he] at hmem
    cases hmem
  · rw [elementAt_of_ge (by rw [length_push]; omega)] at hmem
    cases hmem

/-- a push adds the new element, one deeper than its parent -/
theorem atDepth_push (hclosed : Closed heap) (hp : p < heap.length) (he : e.children = []) :
    AtDepth (push heap p e) 0 i d ↔
      i < heap.length ∧ AtDepth heap 0 i d ∨ i = heap.length ∧ ∃ d₀, AtDepth heap 0 p d₀ ∧ d = d₀ + 1 := by
  have hne : heap ≠ [] := List.length_pos_iff.1 (Nat.zero_lt_of_lt hp)
  have hsub : ∀ i d, AtDepth heap 0 i d → (elementAt heap i).children ⊆ (elementAt (push heap p e) i).children := by
    intro i d h
    rw [elementAt_push (h.lt hclosed hne)]
    split_ifs
    · exact List.subset_append_left _ _
    · exact List.Subset.refl _
  constructor
  · intro h
    induction h with
    | root => exact Or.inl ⟨List.length_pos_iff.2 hne, .root⟩
    | @child i j d _ hmem ih =>
      rcases ih with ⟨hlt, hi⟩ | ⟨rfl, -⟩
      · rw [elementAt_push hlt] at hmem
        split_ifs at hmem with hip
        · rcases List.mem_append.1 hmem with hmem | hmem
          · exact Or.inl ⟨hclosed _ _ hmem, .child hi hmem⟩
          · exact Or.inr ⟨List.mem_singleton.1 hmem, d, hip ▸ hi, rfl⟩
        · exact Or.inl ⟨hclosed _ _ hmem, .child hi hmem⟩
      · rw [elementAt_push_self, he] at hmem
        cases hmem
  · rintro (⟨-, h⟩ | ⟨rfl, d₀, h, rfl⟩)
    · exact h.mono hsub
    · refine .child (h.mono hsub) ?_
      rw [elementAt_push hp, if_pos rfl]
      exact List.mem_append_right _ (List.mem_singleton_self _)

end Push

/-! ## Queued events -/

/-- the events from depth `d` on are those of the open elements, down to depth `d'` -/
def Follows (heap : List Element) : Nat → List Event → Nat → Prop
  | d, [], d' => d = d'
  | d, .start i :: queue, d' => i < heap.length ∧ AtDepth heap 0 i (d + 1) ∧ Follows heap (d + 1) queue d'
  | d, .close _ :: queue, d' => 0 < d ∧ Follows heap (d - 1) queue d'
  | _, .error :: _, _ => False

variable {queue : List Event} {d' : Nat}

theorem Follows.start (h : Follows heap d queue d') (hi : i < heap.length) (hdepth : AtDepth heap 0 i (d' + 1)) :
    Follows heap d (queue ++ [.start i]) (d' + 1) := by
  induction queue generalizing d with
  | nil =>
    obtain rfl : d = d' := h
    exact ⟨hi, hdepth, rfl⟩
  | cons event queue ih =>
    cases event with
    | start j => exact ⟨h.1, h.2.1, ih h.2.2⟩
    | close j => exact ⟨h.1, ih h.2⟩
    | error => exact h.elim

theorem Follows.close (h : Follows heap d queue (d' + 1)) : Follows heap d (queue ++ [.close i]) d' := by
  induction queue generalizing d with
  | nil =>
    obtain rfl : d = d' + 1 := h
    exact ⟨Nat.succ_pos _, rfl⟩
  | cons event queue ih =>
    cases event with
    | start j => exact ⟨h.1, h.2.1, ih h.2.2⟩
    | close j => exact ⟨h.1, ih h.2⟩
    | error => exact h.elim

theorem Follows.mono (hlen : heap.length ≤ heap'.length) (hdepth : ∀ i d, AtDepth heap 0 i d → AtDepth heap' 0 i d)
    (h : Follows heap d queue d') : Follows heap' d queue d' := by
  induction queue generalizing d with
  | nil => exact h
  | cons event queue ih =>
    cases event with
    | start j => exact ⟨h.1.trans_le hlen, hdepth _ _ h.2.1, ih h.2.2⟩
    | close j => exact ⟨h.1, ih h.2⟩
    | error => exact h.elim

/-- a text or tail within the limit, or none -/
def Short (limits : ExtractionLimits) (text : Option String) : Prop :=
  (text.getD "").length ≤ limits.maxXmlTextNodeCharacters

/-- what the loop remembers of the elements that it started with -/
structure Counted (limits : ExtractionLimits) (heap : List Element) (c : Checked) : Prop where
  counted : c.elementCount ≤ limits.maxXmlElements
  rootNone : c.root = none → c.depth = 0
  rootSome : ∀ r, c.root = some r → r = 0 ∧ heap ≠ []

/-- the events of a block, delivered -/
theorem visit_all {limits : ExtractionLimits} {c c' : Checked} (hcounted : Counted limits heap c)
    (hfollows : Follows heap c.depth queue d) (hrun : queue.foldlM (visit limits heap) c = .ok c') :
    c'.depth = d ∧ c'.elementCount = c.elementCount + (queue.filter Event.isStart).length ∧ Counted limits heap c' ∧
      (∀ i, .start i ∈ queue → (∃ d, AtDepth heap 0 i d ∧ d ≤ limits.maxXmlDepth) ∧
        (elementAt heap i).attrib.length ≤ limits.maxXmlAttributesPerElement) ∧
      ∀ i, .close i ∈ queue → Short limits (elementAt heap i).text ∧ Short limits (elementAt heap i).tail := by
  induction queue generalizing c with
  | nil =>
    obtain rfl := Except.ok.inj hrun
    exact ⟨hfollows, rfl, hcounted, fun i h => absurd h List.not_mem_nil, fun i h => absurd h List.not_mem_nil⟩
  | cons event queue ih =>
    rw [List.foldlM_cons] at hrun
    obtain ⟨c₁, hvisit, hrun⟩ := bind_eq_ok.1 hrun
    cases event with
    | start i =>
      simp only [visit, bind_eq_ok, ensure_eq_ok, pure_eq_ok, exists_const] at hvisit
      obtain ⟨hdepth, hcount, hattrib, rfl⟩ := hvisit
      obtain ⟨hlt, hat, hrest⟩ := hfollows
      have hcounted₁ : Counted limits heap ⟨c.depth + 1, c.elementCount + 1, c.root.or (some i)⟩ := by
        refine ⟨hcount, fun hnone => ?_, fun r hr => ⟨?_, List.length_pos_iff.1 (Nat.zero_lt_of_lt hlt)⟩⟩
        · cases hroot : c.root <;> simp [hroot] at hnone
        · -- only the root starts at depth 0
          cases hroot : c.root with
          | none =>
            simp only [hroot, Option.none_or, Option.some.injEq] at hr
            rw [hcounted.rootNone hroot] at hat
            rw [← hr]
            exact hat.eq_root
          | some r' =>
            simp only [hroot, Option.some_or, Option.some.injEq] at hr
            rw [← hr]
            exact (hcounted.rootSome r' hroot).1
      obtain ⟨hend, hcount', hcounted', hstarts, hcloses⟩ := ih hcounted₁ hrest hrun
      refine ⟨hend, ?_, hcounted', fun j hj => ?_, fun j hj => ?_⟩
      · rw [hcount', List.filter_cons_of_pos rfl, List.length_cons]
        dsimp only
        omega
      · rcases List.mem_cons.1 hj with heq | hj
        · cases heq
          exact ⟨⟨_, hat, hdepth⟩, hattrib⟩
        · exact hstarts j hj
      · rcases List.mem_cons.1 hj with heq | hj
        · cases heq
        · exact hcloses j hj
    | close i =>
      simp only [visit, validateXmlTextNodes, bind_eq_ok, ensure_eq_ok, pure_eq_ok, exists_const] at hvisit
      obtain ⟨⟨htext, htail⟩, rfl⟩ := hvisit
      obtain ⟨hpos, hrest⟩ := hfollows
      have hcounted₁ : Counted limits heap { c with depth := c.depth - 1 } :=
        ⟨hcounted.counted, fun hnone => by rw [hcounted.rootNone hnone], hcounted.rootSome⟩
      obtain ⟨hend, hcount', hcounted', hstarts, hcloses⟩ := ih hcounted₁ hrest hrun
      refine ⟨hend, ?_, hcounted', fun j hj => ?_, fun j hj => ?_⟩
      · rw [hcount', List.filter_cons_of_neg (by simp [Event.isStart])]
      · rcases List.mem_cons.1 hj with heq | hj
        · cases heq
        · exact hstarts j hj
      · rcases List.mem_cons.1 hj with heq | hj
        · cases heq
          exact ⟨htext, htail⟩
        · exact hcloses j hj
    | error => cases hvisit

/-! ## The tree -/

/-- the elements and events after some tokens, and what the loop has checked -/
structure Shape (limits : ExtractionLimits) (heap : List Element) (elem : List Nat) (queue : List Event) (c : Checked) :
    Prop where
  closed : Closed heap
  open_lt : ∀ i ∈ elem, i < heap.length
  spine : ∀ front i rest, elem = front ++ i :: rest → AtDepth heap 0 i (rest.length + 1)
  nodup : elem.Nodup
  reach : ∀ i < heap.length, ∃ d, AtDepth heap 0 i d
  unique : ∀ i d d', AtDepth heap 0 i d → AtDepth heap 0 i d' → d = d'
  follows : Follows heap c.depth queue elem.length
  count : c.elementCount + (queue.filter Event.isStart).length = heap.length
  loop : Counted limits heap c
  visited : ∀ i < heap.length, .start i ∈ queue ∨
    (∃ d, AtDepth heap 0 i d ∧ d ≤ limits.maxXmlDepth) ∧
      (elementAt heap i).attrib.length ≤ limits.maxXmlAttributesPerElement

/-- texts and tails have no part in it -/
structure SameShape (heap heap' : List Element) : Prop where
  length : heap'.length = heap.length
  children : ∀ i, (elementAt heap' i).children = (elementAt heap i).children
  attrib : ∀ i, (elementAt heap' i).attrib = (elementAt heap i).attrib

variable {limits : ExtractionLimits} {elem rest : List Nat} {c : Checked}

theorem SameShape.atDepth_iff (h : SameShape heap heap') : AtDepth heap' 0 i d ↔ AtDepth heap 0 i d :=
  ⟨.mono fun i _ _ _ hmem => h.children i ▸ hmem, .mono fun i _ _ _ hmem => (h.children i).symm ▸ hmem⟩

theorem Shape.congr (h : Shape limits heap elem queue c) (hsame : SameShape heap heap') :
    Shape limits heap' elem queue c where
  closed i j hmem := by
    rw [hsame.length]
    exact h.closed i j (hsame.children i ▸ hmem)
  open_lt i hi := by
    rw [hsame.length]
    exact h.open_lt i hi
  spine front i rest heq := hsame.atDepth_iff.2 (h.spine front i rest heq)
  nodup := h.nodup
  reach i hi := by
    obtain ⟨d, hd⟩ := h.reach i (hsame.length ▸ hi)
    exact ⟨d, hsame.atDepth_iff.2 hd⟩
  unique i d d' hd hd' := h.unique i d d' (hsame.atDepth_iff.1 hd) (hsame.atDepth_iff.1 hd')
  follows := h.follows.mono hsame.length.ge fun _ _ => hsame.atDepth_iff.2
  count := by rw [hsame.length, h.count]
  loop := by
    refine ⟨h.loop.counted, h.loop.rootNone, fun r hr => ⟨(h.loop.rootSome r hr).1, ?_⟩⟩
    rw [← List.length_pos_iff, hsame.length]
    exact List.length_pos_iff.2 (h.loop.rootSome r hr).2
  visited i hi := by
    rw [hsame.attrib]
    refine (h.visited i (hsame.length ▸ hi)).imp id fun ⟨⟨d, hd, hle⟩, hattrib⟩ => ⟨⟨d, ?_, hle⟩, hattrib⟩
    exact hsame.atDepth_iff.2 hd

/-- the end of the innermost element -/
theorem Shape.close (h : Shape limits heap (i :: rest) queue c) : Shape limits heap rest (queue ++ [.close i]) c where
  closed := h.closed
  open_lt j hj := h.open_lt j (List.mem_cons_of_mem _ hj)
  spine front j rest' heq := h.spine (i :: front) j rest' (by rw [heq, List.cons_append])
  nodup := h.nodup.of_cons
  reach := h.reach
  unique := h.unique
  follows := h.follows.close
  count := by
    rw [List.filter_append, List.filter_cons_of_neg (by simp [Event.isStart]), List.filter_nil, List.append_nil,
      h.count]
  loop := h.loop
  visited j hj := (h.visited j hj).imp (List.mem_append_left _) id

theorem count_start (h : c.elementCount + (queue.filter Event.isStart).length = heap.length) :
    c.elementCount + ((queue ++ [Event.start i]).filter Event.isStart).length = heap.length + 1 := by
  rw [List.filter_append, List.filter_cons_of_pos rfl, List.length_append, List.filter_nil, List.length_singleton,
    ← Nat.add_assoc, h]

/-- the start of an element inside `i` -/
theorem Shape.start (h : Shape limits heap (i :: rest) queue c) (tag : String) (attrib : List (String × String)) :
    Shape limits (push heap i (newElement tag attrib)) (heap.length :: i :: rest) (queue ++ [.start heap.length])
      c := by
  have hi : i < heap.length := h.open_lt i List.mem_cons_self
  have hdepth : AtDepth heap 0 i (rest.length + 1) := h.spine [] i rest rfl
  have hiff : ∀ {j d}, AtDepth (push heap i (newElement tag attrib)) 0 j d ↔
      j < heap.length ∧ AtDepth heap 0 j d ∨ j = heap.length ∧ ∃ d₀, AtDepth heap 0 i d₀ ∧ d = d₀ + 1 :=
    atDepth_push h.closed hi rfl
  have hnew : AtDepth (push heap i (newElement tag attrib)) 0 heap.length (rest.length + 1 + 1) :=
    hiff.2 (Or.inr ⟨rfl, _, hdepth, rfl⟩)
  have hold : ∀ {j d}, j < heap.length → AtDepth heap 0 j d → AtDepth (push heap i (newElement tag attrib)) 0 j d :=
    fun hlt hd => hiff.2 (Or.inl ⟨hlt, hd⟩)
  have hne : heap ≠ [] := List.length_pos_iff.1 (Nat.zero_lt_of_lt hi)
  refine ⟨closed_push h.closed rfl, fun j hj => ?_, fun front j rest' heq => ?_, ?_, fun j hj => ?_,
    fun j d d' hd hd' => ?_, ?_, ?_, ?_, fun j hj => ?_⟩
  · rw [length_push]
    rcases List.mem_cons.1 hj with rfl | hj
    · exact Nat.lt_succ_self _
    · exact (h.open_lt j hj).trans (Nat.lt_succ_self _)
  · cases front with
    | nil =>
      obtain ⟨rfl, rfl⟩ := List.cons.inj heq
      exact hnew
    | cons k front =>
      obtain ⟨-, heq⟩ := List.cons.inj heq
      refine hold (h.open_lt j ?_) (h.spine front j rest' heq)
      rw [heq]
      exact List.mem_append_right _ List.mem_cons_self
  · exact List.nodup_cons.2 ⟨fun hmem => lt_irrefl _ (h.open_lt _ hmem), h.nodup⟩
  · rw [length_push] at hj
    rcases Nat.lt_succ_iff_lt_or_eq.1 hj with hj | rfl
    · obtain ⟨d, hd⟩ := h.reach j hj
      exact ⟨d, hold hj hd⟩
    · exact ⟨_, hnew⟩
  · rcases hiff.1 hd with ⟨hlt, hd⟩ | ⟨rfl, d₀, hparent, rfl⟩
    · rcases hiff.1 hd' with ⟨-, hd'⟩ | ⟨rfl, -⟩
      · exact h.unique j d d' hd hd'
      · exact absurd hlt (lt_irrefl _)
    · rcases hiff.1 hd' with ⟨hlt, -⟩ | ⟨-, d₁, hparent', rfl⟩
      · exact absurd hlt (lt_irrefl _)
      · rw [h.unique i d₀ d₁ hparent hparent']
  · refine Follows.start (h.follows.mono ?_ fun j d hd => hold (hd.lt h.closed hne) hd) ?_ hnew
    · rw [length_push]
      exact Nat.le_succ _
    · rw [length_push]
      exact Nat.lt_succ_self _
  · rw [length_push]
    exact count_start h.count
  · exact ⟨h.loop.counted, h.loop.rootNone, fun r hr => ⟨(h.loop.rootSome r hr).1, by simp [push]⟩⟩
  · rw [length_push] at hj
    rcases Nat.lt_succ_iff_lt_or_eq.1 hj with hj | rfl
    · refine (h.visited j hj).imp (List.mem_append_left _) fun ⟨⟨d, hd, hle⟩, hattrib⟩ => ⟨⟨d, hold hj hd, hle⟩, ?_⟩
      rw [elementAt_push hj]
      split_ifs
      · exact hattrib
      · exact hattrib
    · exact Or.inl (List.mem_append_right _ (List.mem_singleton_self _))

theorem atDepth_singleton {e : Element} (he : e.children = []) : AtDepth [e] 0 i d ↔ i = 0 ∧ d = 1 := by
  constructor
  · intro h
    induction h with
    | root => exact ⟨rfl, rfl⟩
    | child _ hmem ih =>
      rw [ih.1, show elementAt [e] 0 = e from rfl, he] at hmem
      cases hmem
  · rintro ⟨rfl, rfl⟩
    exact .root

/-- the start of the root -/
theorem Shape.first (h : Shape limits [] [] queue c) (tag : String) (attrib : List (String × String)) :
    Shape limits [newElement tag attrib] [0] (queue ++ [.start 0]) c := by
  have hiff : ∀ {j d}, AtDepth [newElement tag attrib] 0 j d ↔ j = 0 ∧ d = 1 := atDepth_singleton rfl
  have hfollows := h.follows
  refine ⟨fun i j hmem => ?_, fun j hj => ?_, fun front j rest' heq => ?_, List.nodup_singleton _, fun j hj => ?_,
    fun j d d' hd hd' => ?_, ?_, count_start h.count, ?_, fun j hj => ?_⟩
  · cases i with
    | zero => cases hmem
    | succ i =>
      rw [elementAt_of_ge (by simp)] at hmem
      cases hmem
  · rw [List.mem_singleton.1 hj]
    exact Nat.zero_lt_one
  · cases front with
    | nil =>
      obtain ⟨rfl, rfl⟩ := List.cons.inj heq
      exact .root
    | cons k front =>
      obtain ⟨-, heq⟩ := List.cons.inj heq
      simp at heq
  · rw [Nat.lt_one_iff.1 hj]
    exact ⟨1, .root⟩
  · rw [(hiff.1 hd).2, (hiff.1 hd').2]
  · refine Follows.start (h.follows.mono (Nat.zero_le _) fun j d hd => ?_) Nat.zero_lt_one .root
    cases hd with
    | root => exact .root
    | child _ hmem =>
      rw [elementAt_of_ge (Nat.zero_le _)] at hmem
      cases hmem
  · exact ⟨h.loop.counted, h.loop.rootNone, fun r hr => absurd rfl (h.loop.rootSome r hr).2⟩
  · rw [Nat.lt_one_iff.1 hj]
    exact Or.inl (List.mem_append_right _ (List.mem_singleton_self _))

/-- after the events are delivered -/
theorem Shape.delivered {c' : Checked} (h : Shape limits heap elem queue c)
    (hrun : queue.foldlM (visit limits heap) c = .ok c') : Shape limits heap elem [] c' := by
  obtain ⟨hdepth, hcount, hloop, hstarts, -⟩ := visit_all h.loop h.follows hrun
  refine ⟨h.closed, h.open_lt, h.spine, h.nodup, h.reach, h.unique, hdepth, ?_, hloop, fun i hi => Or.inr ?_⟩
  · rw [hcount, List.filter_nil, List.length_nil, Nat.add_zero, h.count]
  · rcases h.visited i hi with hmem | hvisited
    · exact hstarts i hmem
    · exact hvisited

/-! ## Texts and tails -/

/-- what came since the last tag, if it was an end: the data, and whether a block ended; and the late tails -/
structure Late where
  pending : Option (List String × Bool) := none
  tails : List String := []

namespace Late

/-- a tail whose element ended in an earlier block -/
def tag (l : Late) : List String :=
  match l.pending with
  | some (data, true) => if data = [] then l.tails else l.tails ++ [String.join data]
  | _ => l.tails

def step (l : Late) : Token → Late
  | .start _ _ => ⟨none, l.tag⟩
  | .close _ => ⟨some ([], false), l.tag⟩
  | .data text => { l with pending := l.pending.map fun p => (p.1 ++ [text], p.2) }
  | .block => { l with pending := l.pending.map fun p => (p.1, true) }
  | .parseError => l
  | .refused _ => l

end Late

/-- the texts and tails that no end event will check any more, when all that came late is in `lates` -/
structure Flushed (limits : ExtractionLimits) (heap : List Element) (elem : List Nat) (queue : List Event)
    (lates : List String) : Prop where
  texts : ∀ i < heap.length, i ∈ elem ∨ .close i ∈ queue ∨ Short limits (elementAt heap i).text
  tails : (∀ t ∈ lates, t.length ≤ limits.maxXmlTextNodeCharacters) →
    ∀ i < heap.length, .close i ∈ queue ∨ Short limits (elementAt heap i).tail
  late : ∀ t ∈ lates, ∃ i < heap.length, i ∉ elem ∧ (elementAt heap i).tail = some t

structure Texts (limits : ExtractionLimits) (b : TreeBuilder) (queue : List Event) (l : Late) : Prop where
  last : ∀ i, b.last = some i → i < b.heap.length ∧ (b.tail = false → i ∈ b.elem) ∧ (b.tail = true → i ∉ b.elem)
  onStart : b.tail = false → l.pending = none
  onEnd : b.tail = true →
    ∃ i ended, b.last = some i ∧ l.pending = some (b.data, ended) ∧ (ended = false → .close i ∈ queue)
  flushed : Flushed limits b.heap b.elem queue l.tails
  late : ∀ t ∈ l.tails, ∃ i < b.heap.length, i ∉ b.elem ∧ b.last ≠ some i ∧ (elementAt b.heap i).tail = some t

variable {b : TreeBuilder} {l : Late}

theorem flush_data : b.flush.data = [] := by
  unfold TreeBuilder.flush
  split_ifs with hdata
  · exact hdata
  · cases b.last <;> rfl

theorem flush_elem : b.flush.elem = b.elem := by
  unfold TreeBuilder.flush
  split_ifs
  · rfl
  · cases b.last <;> rfl

theorem flush_root : b.flush.root = b.root := by
  unfold TreeBuilder.flush
  split_ifs
  · rfl
  · cases b.last <;> rfl

theorem setText_children {isTail : Bool} {text : String} {e : Element} :
    (setText isTail text e).children = e.children := by
  cases isTail <;> rfl

theorem setText_attrib {isTail : Bool} {text : String} {e : Element} : (setText isTail text e).attrib = e.attrib := by
  cases isTail <;> rfl

/-- what a flush makes of an element -/
theorem elementAt_flush (i : Nat) : elementAt b.flush.heap i = elementAt b.heap i ∨
    b.data ≠ [] ∧ b.last = some i ∧ i < b.heap.length ∧
      elementAt b.flush.heap i = setText b.tail (String.join b.data) (elementAt b.heap i) := by
  unfold TreeBuilder.flush
  split_ifs with hdata
  · exact Or.inl rfl
  · cases hlast : b.last with
    | none => exact Or.inl rfl
    | some j =>
      dsimp only
      rw [elementAt_modify]
      split_ifs with hij
      · obtain ⟨rfl, hlt⟩ := hij
        exact Or.inr ⟨hdata, rfl, hlt, rfl⟩
      · exact Or.inl rfl

theorem length_flush : b.flush.heap.length = b.heap.length := by
  unfold TreeBuilder.flush
  split_ifs
  · rfl
  · cases b.last <;> simp

theorem sameShape_flush : SameShape b.heap b.flush.heap where
  length := length_flush
  children i := by
    rcases elementAt_flush i with heq | ⟨-, -, -, heq⟩
    · rw [heq]
    · rw [heq, setText_children]
  attrib i := by
    rcases elementAt_flush i with heq | ⟨-, -, -, heq⟩
    · rw [heq]
    · rw [heq, setText_attrib]

/-- A flush gives a text to the innermost element, or a tail to the one that ended last. -/
theorem Texts.flush (h : Texts limits b queue l) : Flushed limits b.flush.heap b.elem queue l.tag where
  texts i hi := by
    rw [length_flush] at hi
    rcases elementAt_flush i with heq | ⟨-, hlast, -, heq⟩
    · rw [heq]
      exact h.flushed.texts i hi
    · cases htail : b.tail with
      | false => exact Or.inl ((h.last i hlast).2.1 htail)
      | true =>
        rw [heq, htail]
        exact h.flushed.texts i hi
  tails hshort i hi := by
    rw [length_flush] at hi
    have hold : ∀ t ∈ l.tails, t.length ≤ limits.maxXmlTextNodeCharacters := by
      intro t ht
      refine hshort t ?_
      unfold Late.tag
      split
      · split_ifs
        · exact ht
        · exact List.mem_append_left _ ht
      · exact ht
    rcases elementAt_flush i with heq | ⟨hdata, hlast, -, heq⟩
    · rw [heq]
      exact h.flushed.tails hold i hi
    · cases htail : b.tail with
      | false =>
        rw [heq, htail]
        exact h.flushed.tails hold i hi
      | true =>
        obtain ⟨j, ended, hj, hpending, hqueued⟩ := h.onEnd htail
        obtain rfl := Option.some.inj (hlast.symm.trans hj)
        cases ended with
        | false => exact Or.inl (hqueued rfl)
        | true =>
          -- the end event is gone, so this is a late tail
          refine Or.inr ?_
          rw [heq, htail]
          refine hshort _ ?_
          rw [Late.tag, hpending]
          dsimp only
          rw [if_neg hdata]
          exact List.mem_append_right _ (List.mem_singleton_self _)
  late t ht := by
    have hcases : t ∈ l.tails ∨ b.tail = true ∧ b.data ≠ [] ∧ t = String.join b.data := by
      unfold Late.tag at ht
      split at ht
      · rename_i data hpending
        cases htail : b.tail with
        | false =>
          rw [h.onStart htail] at hpending
          cases hpending
        | true =>
          obtain ⟨i, ended, -, hpending', -⟩ := h.onEnd htail
          rw [hpending] at hpending'
          obtain ⟨rfl, -⟩ := Prod.mk.inj (Option.some.inj hpending')
          split_ifs at ht with hdata
          · exact Or.inl ht
          · exact (List.mem_append.1 ht).imp id fun hmem => ⟨rfl, hdata, List.mem_singleton.1 hmem⟩
      · exact Or.inl ht
    rcases hcases with ht | ⟨htail, hdata, rfl⟩
    · obtain ⟨i, hi, hclosed, hne, heq⟩ := h.late t ht
      refine ⟨i, hi.trans_eq length_flush.symm, hclosed, ?_⟩
      rcases elementAt_flush i with hsame | ⟨-, hlast, -⟩
      · rw [hsame, heq]
      · exact absurd hlast hne
    · obtain ⟨i, ended, hlast, -, -⟩ := h.onEnd htail
      obtain ⟨hi, -, hclosed⟩ := h.last i hlast
      refine ⟨i, hi.trans_eq length_flush.symm, hclosed htail, ?_⟩
      have hset : elementAt b.flush.heap i = setText b.tail (String.join b.data) (elementAt b.heap i) := by
        unfold TreeBuilder.flush
        rw [if_neg hdata, hlast]
        dsimp only
        rw [elementAt_modify, if_pos ⟨rfl, hi⟩]
      rw [hset, htail]
      rfl

theorem Flushed.started {lates : List String} (h : Flushed limits heap elem queue lates)
    (hlen : b.heap.length = heap.length + 1)
    (hold : ∀ i < heap.length, (elementAt b.heap i).text = (elementAt heap i).text ∧
      (elementAt b.heap i).tail = (elementAt heap i).tail)
    (hnew : (elementAt b.heap heap.length).tail = none) (helem : b.elem = heap.length :: elem)
    (hlast : b.last = some heap.length) (htail : b.tail = false) :
    Texts limits b (queue ++ [.start heap.length]) ⟨none, lates⟩ := by
  have hlate : ∀ t ∈ lates, ∃ i < b.heap.length, i ∉ b.elem ∧ b.last ≠ some i ∧ (elementAt b.heap i).tail = some t := by
    intro t ht
    obtain ⟨i, hi, hclosed, heq⟩ := h.late t ht
    have hne : i ≠ heap.length := hi.ne
    refine ⟨i, by omega, ?_, ?_, (hold i hi).2.trans heq⟩
    · rw [helem]
      exact fun hmem => (List.mem_cons.1 hmem).elim hne hclosed
    · rw [hlast]
      exact fun hsame => hne (Option.some.inj hsame).symm
  refine ⟨fun i hi => ?_, fun _ => rfl, fun htrue => ?_, ⟨fun i hi => ?_, fun hshort i hi => ?_, fun t ht => ?_⟩, hlate⟩
  · rw [hlast] at hi
    obtain rfl := Option.some.inj hi
    refine ⟨by omega, fun _ => ?_, fun htrue => ?_⟩
    · rw [helem]
      exact List.mem_cons_self
    · rw [htail] at htrue
      cases htrue
  · rw [htail] at htrue
    cases htrue
  · rw [helem]
    rw [hlen] at hi
    rcases Nat.lt_succ_iff_lt_or_eq.1 hi with hi | rfl
    · rw [(hold i hi).1]
      rcases h.texts i hi with hmem | hmem | hshort
      · exact Or.inl (List.mem_cons_of_mem _ hmem)
      · exact Or.inr (Or.inl (List.mem_append_left _ hmem))
      · exact Or.inr (Or.inr hshort)
    · exact Or.inl List.mem_cons_self
  · rw [hlen] at hi
    rcases Nat.lt_succ_iff_lt_or_eq.1 hi with hi | rfl
    · rw [(hold i hi).2]
      exact (h.tails hshort i hi).imp (List.mem_append_left _) id
    · rw [hnew]
      exact Or.inr (Nat.zero_le _)
  · obtain ⟨i, hi, hclosed, -, heq⟩ := hlate t ht
    exact ⟨i, hi, hclosed, heq⟩

theorem Texts.close (h : Texts limits b queue l) (helem : b.elem = i :: rest) (hnodup : b.elem.Nodup)
    (hi : i < b.heap.length) : Texts limits (b.close i rest) (queue ++ [.close i]) ⟨some ([], false), l.tag⟩ := by
  have hflush := h.flush
  rw [helem] at hflush hnodup
  have hout : i ∉ rest := (List.nodup_cons.1 hnodup).1
  have hqueued : .close i ∈ queue ++ [.close i] := List.mem_append_right _ (List.mem_singleton_self _)
  have hlate : ∀ t ∈ l.tag, ∃ j < b.flush.heap.length, j ∉ rest ∧ (some i : Option Nat) ≠ some j ∧
      (elementAt b.flush.heap j).tail = some t := by
    intro t ht
    obtain ⟨j, hj, hclosed, heq⟩ := hflush.late t ht
    refine ⟨j, hj, fun hmem => hclosed (List.mem_cons_of_mem _ hmem), fun hsame => hclosed ?_, heq⟩
    rw [Option.some.inj hsame]
    exact List.mem_cons_self
  refine ⟨fun j hj => ?_, fun hfalse => ?_, fun _ => ⟨i, false, rfl, ?_, fun _ => hqueued⟩,
    ⟨fun j hj => ?_, fun hshort j hj => (hflush.tails hshort j hj).imp (List.mem_append_left _) id, fun t ht => ?_⟩,
    hlate⟩
  · obtain rfl := Option.some.inj hj
    exact ⟨hi.trans_eq length_flush.symm, fun hfalse => (by cases hfalse), fun _ => hout⟩
  · cases hfalse
  · rw [show (b.close i rest).data = b.flush.data from rfl, flush_data]
  · rcases hflush.texts j hj with hmem | hmem | hshort
    · rcases List.mem_cons.1 hmem with rfl | hmem
      · exact Or.inr (Or.inl hqueued)
      · exact Or.inl hmem
    · exact Or.inr (Or.inl (List.mem_append_left _ hmem))
    · exact Or.inr (Or.inr hshort)
  · obtain ⟨j, hj, hclosed, -, heq⟩ := hlate t ht
    exact ⟨j, hj, hclosed, heq⟩

theorem Texts.data (h : Texts limits b queue l) (text : String) :
    Texts limits { b with data := b.data ++ [text] } queue (l.step (.data text)) where
  last := h.last
  onStart htail := by rw [Late.step, h.onStart htail, Option.map_none]
  onEnd htail := by
    obtain ⟨i, ended, hlast, hpending, hqueued⟩ := h.onEnd htail
    exact ⟨i, ended, hlast, by rw [Late.step, hpending, Option.map_some], hqueued⟩
  flushed := h.flushed
  late := h.late

/-- the end of a block: every end event was checked -/
theorem Texts.block (h : Texts limits b queue l)
    (hchecked : ∀ i, .close i ∈ queue →
      Short limits (elementAt b.heap i).text ∧ Short limits (elementAt b.heap i).tail) :
    Texts limits b [] (l.step .block) where
  last := h.last
  onStart htail := by rw [Late.step, h.onStart htail, Option.map_none]
  onEnd htail := by
    obtain ⟨i, ended, hlast, hpending, -⟩ := h.onEnd htail
    exact ⟨i, true, hlast, by rw [Late.step, hpending, Option.map_some], fun hfalse => by cases hfalse⟩
  flushed := by
    refine ⟨fun i hi => ?_, fun hshort i hi => Or.inr ?_, h.flushed.late⟩
    · rcases h.flushed.texts i hi with hmem | hmem | hshort
      · exact Or.inl hmem
      · exact Or.inr (Or.inr (hchecked i hmem).1)
      · exact Or.inr (Or.inr hshort)
    · rcases h.flushed.tails hshort i hi with hmem | hshort
      · exact (hchecked i hmem).2
      · exact hshort
  late := h.late

/-! ## Runs -/

structure Inv (limits : ExtractionLimits) (s : Parsing) (l : Late) : Prop where
  shape : Shape limits s.builder.heap s.builder.elem s.queue s.checked
  texts : Texts limits s.builder s.queue l
  root : s.builder.root = none ↔ s.builder.heap = []

variable {s s' : Parsing}

theorem visit_error {c' : Checked} (herror : .error ∈ queue) : queue.foldlM (visit limits heap) c ≠ .ok c' := by
  induction queue generalizing c with
  | nil => exact absurd herror List.not_mem_nil
  | cons event queue ih =>
    rw [List.foldlM_cons]
    intro h
    obtain ⟨c₁, hvisit, hrest⟩ := bind_eq_ok.1 h
    rcases List.mem_cons.1 herror with rfl | herror
    · cases hvisit
    · exact ih herror hrest

theorem deliver_eq_ok :
    deliver limits s = .ok s' ↔
      ∃ c, s.queue.foldlM (visit limits s.builder.heap) s.checked = .ok c ∧
        s' = { s with queue := [], checked := c } := by
  simp only [deliver, bind_eq_ok, pure_eq_ok]
  exact exists_congr fun c => and_congr_right fun _ => eq_comm

theorem Inv.deliver (h : Inv limits s l) (hrun : deliver limits s = .ok s') : Inv limits s' (l.step .block) := by
  obtain ⟨c, hc, rfl⟩ := deliver_eq_ok.1 hrun
  exact ⟨h.shape.delivered hc, h.texts.block (visit_all h.shape.loop h.shape.follows hc).2.2.2.2, h.root⟩

theorem Inv.start (h : Inv limits s l) (hroot : ¬(s.builder.elem = [] ∧ s.builder.root ≠ none)) (tag : String)
    (attrib : List (String × String)) :
    Inv limits
      { s with builder := s.builder.start tag attrib, queue := s.queue ++ [.start s.builder.heap.length] }
      (l.step (.start tag attrib)) := by
  obtain ⟨b, queue, c⟩ := s
  dsimp only at hroot ⊢
  have hshape : Shape limits b.flush.heap b.elem queue c := h.shape.congr sameShape_flush
  have hflushed : Flushed limits b.flush.heap b.elem queue l.tag := h.texts.flush
  rw [← length_flush]
  cases helem : b.elem with
  | nil =>
    have hnone : b.root = none := by
      by_contra hsome
      exact hroot ⟨helem, hsome⟩
    have hnil : b.flush.heap = [] := by
      rw [← List.length_eq_zero_iff, length_flush, h.root.1 hnone]
      rfl
    have hstart : b.start tag attrib = { b.flush with
        heap := b.flush.heap ++ [newElement tag attrib], root := b.flush.root.or (some b.flush.heap.length),
        elem := [b.flush.heap.length], last := some b.flush.heap.length, tail := false } := by
      simp only [TreeBuilder.start, flush_elem, helem]
    rw [hstart]
    rw [helem] at hshape hflushed
    refine ⟨?_, hflushed.started (by simp) (fun i hi => ?_) ?_ rfl rfl rfl, ?_⟩
    · rw [hnil] at hshape ⊢
      exact hshape.first tag attrib
    · rw [elementAt_append_left _ hi]
      exact ⟨rfl, rfl⟩
    · rw [elementAt_append_self]
      rfl
    · simp [flush_root, hnone]
  | cons i rest =>
    have hstart : b.start tag attrib = { b.flush with
        heap := push b.flush.heap i (newElement tag attrib), elem := b.flush.heap.length :: i :: rest,
        last := some b.flush.heap.length, tail := false } := by
      simp only [TreeBuilder.start, flush_elem, helem, push]
    rw [hstart]
    rw [helem] at hshape hflushed
    refine ⟨hshape.start tag attrib, hflushed.started length_push (fun j hj => ?_) ?_ rfl rfl rfl, ?_⟩
    · rw [elementAt_push hj]
      split_ifs
      · exact ⟨rfl, rfl⟩
      · exact ⟨rfl, rfl⟩
    · rw [elementAt_push_self]
      rfl
    · have hne : b.heap ≠ [] := by
        have hi := hshape.open_lt i List.mem_cons_self
        rw [length_flush] at hi
        exact List.length_pos_iff.1 (Nat.zero_lt_of_lt hi)
      have hsome : b.flush.root ≠ none := by
        rw [flush_root]
        exact fun hnone => hne (h.root.1 hnone)
      simp [hsome, push]

theorem Inv.close (h : Inv limits s l) (helem : s.builder.elem = i :: rest) (tag : String) :
    Inv limits { s with builder := s.builder.close i rest, queue := s.queue ++ [.close i] } (l.step (.close tag)) where
  shape := by
    have hshape := h.shape.congr sameShape_flush
    rw [helem] at hshape
    exact hshape.close
  texts := h.texts.close helem h.shape.nodup (h.shape.open_lt i (by rw [helem]; exact List.mem_cons_self))
  root := by
    rw [show (s.builder.close i rest).root = s.builder.flush.root from rfl, flush_root, h.root,
      show (s.builder.close i rest).heap = s.builder.flush.heap from rfl, ← List.length_eq_zero_iff,
      ← List.length_eq_zero_iff, length_flush]

/-- an error is queued, or the invariant holds -/
theorem inv_step {t : Token} (h : .error ∈ s.queue ∨ Inv limits s l) (hstep : step limits s t = .ok s') :
    .error ∈ s'.queue ∨ Inv limits s' (l.step t) := by
  have hnew : ∀ {queue : List Event}, Event.error ∈ queue ++ [.error] :=
    List.mem_append_right _ (List.mem_singleton_self _)
  cases t with
  | start tag attrib =>
    rw [step] at hstep
    split_ifs at hstep with hroot
    · obtain rfl := Except.ok.inj hstep
      exact Or.inl hnew
    · obtain rfl := Except.ok.inj hstep
      exact h.imp (List.mem_append_left _) fun h => h.start hroot tag attrib
  | close tag =>
    rw [step] at hstep
    split at hstep
    · obtain rfl := Except.ok.inj hstep
      exact Or.inl hnew
    · rename_i i rest helem
      obtain rfl := Except.ok.inj hstep
      exact h.imp (List.mem_append_left _) fun h => h.close helem tag
  | data text =>
    obtain rfl := Except.ok.inj hstep
    exact h.imp id fun h => ⟨h.shape, h.texts.data text, h.root⟩
  | block =>
    rcases h with herror | h
    · obtain ⟨c, hc, -⟩ := deliver_eq_ok.1 hstep
      exact absurd hc (visit_error herror)
    · exact Or.inr (h.deliver hstep)
  | parseError =>
    obtain rfl := Except.ok.inj hstep
    exact Or.inl hnew
  | refused message => cases hstep

theorem inv_run {tokens : List Token} (h : .error ∈ s.queue ∨ Inv limits s l)
    (hrun : tokens.foldlM (step limits) s = .ok s') : .error ∈ s'.queue ∨ Inv limits s' (tokens.foldl Late.step l) := by
  induction tokens generalizing s l with
  | nil =>
    obtain rfl := Except.ok.inj hrun
    exact h
  | cons t tokens ih =>
    rw [List.foldlM_cons] at hrun
    obtain ⟨s₁, hstep, hrest⟩ := bind_eq_ok.1 hrun
    exact ih (inv_step h hstep) hrest

/-! ## Bounded trees -/

namespace Samples

def ascii : ReRules := ⟨fun a b => a.toLower = b.toLower, fun c => c.isAlphanum || c = '_'⟩

def smallLimits : ExtractionLimits := ⟨10, 100, 10, 10, 10, 10, 1⟩

/-- `<a><b/>xy</a>`, with the text `xy` in the block of the end of `b` or in the next -/
def tail (late : Bool) : XmlDocument :=
  ⟨some "<a><b/>xy</a>".toList,
    [.start "a" [], .start "b" [], .close "b"] ++ (if late then [.block] else []) ++ [.data "xy", .close "a", .block]⟩

end Samples

open Samples in
/-- in one block the tail is refused -/
example : parseXmlBounded ascii smallLimits (tail false) =
    .error (limitExceeded "XML tail text exceeds configured limit") := by
  decide

end AtoService.Extraction.Xml
