/-
Which element a segment of an XML document belongs to, and what its text is made of.

An element is known by its position: the numbers of the children on the way from the root. A path is written from steps,
each of them a local name with an index that counts from one the siblings of that name.

- `parts_perm`: the parts of `collect_element_text` are the character data of the element and its tail.
- `madeOf_iff`: the text of an element is made of its character data exactly if its tail is blank.
- `mem_elements`, `resolves_unique`: the path of an element leads to its position, and to no other.
- `attributed_iff`: when every segment belongs to the element of its path.
Witness `tail_attributed`: text after the end tag of an element is in the segment of that element.
-/
import AtoService.Extraction.Outcomes
import AtoService.Lib.TrimmedText

namespace AtoService.Extraction.Outcomes

open Xml (ReRules XmlDocument parseXmlBounded)

namespace XmlNode

def tail : XmlNode → Option String
  | node _ _ tail _ => tail

def children : XmlNode → List XmlNode
  | node _ _ _ children => children

/-! ## Character data -/

mutual

/-- the character data between the tags of an element, in document order -/
def charData : XmlNode → List String
  | node _ text _ children => text.toList ++ charDataOf children

def charDataOf : List XmlNode → List String
  | [] => []
  | node tag text tail children :: siblings =>
    charData (node tag text tail children) ++ tail.toList ++ charDataOf siblings

end

end XmlNode

/-- the texts that are not blank, trimmed -/
def inked (data : List String) : List String := (data.filter Py.hasText).map Py.strip

/-- the texts that are not blank, trimmed and joined in some order -/
def MadeOf (text : String) (data : List String) : Prop := ∃ parts, parts.Perm (inked data) ∧ text = " ".intercalate parts

def BlankTail (e : XmlNode) : Prop := ∀ t ∈ e.tail, Py.hasText t = false

theorem collectPart_eq (part : Option String) : XmlNode.collectPart part = inked part.toList := by
  cases part with
  | none => rfl
  | some t =>
    by_cases ht : Py.hasText t = true
    · simp [XmlNode.collectPart, inked, Option.filter, ht]
    · simp [XmlNode.collectPart, inked, Option.filter, ht]

@[simp] theorem inked_append (xs ys : List String) : inked (xs ++ ys) = inked xs ++ inked ys := by
  rw [inked, List.filter_append, List.map_append]
  rfl

theorem inked_tail_eq_nil {e : XmlNode} : inked e.tail.toList = [] ↔ BlankTail e := by
  rw [inked, List.map_eq_nil_iff, List.filter_eq_nil_iff, BlankTail]
  simp

mutual

/-- what is collected of an element: its character data, and its tail -/
theorem parts_perm : ∀ e : XmlNode, e.parts.Perm (inked e.charData ++ inked e.tail.toList)
  | .node tag text tail children => by
    have ih := partsOf_perm children
    rw [XmlNode.parts, XmlNode.charData, XmlNode.tail, inked_append, collectPart_eq, collectPart_eq, List.append_assoc,
      List.append_assoc]
    exact ((List.perm_append_comm.trans (ih.append_right _))).append_left _

theorem partsOf_perm : ∀ children : List XmlNode,
    (XmlNode.partsOf children).Perm (inked (XmlNode.charDataOf children))
  | [] => List.Perm.nil
  | .node tag text tail children :: siblings => by
    have ih := parts_perm (.node tag text tail children)
    have ihs := partsOf_perm siblings
    rw [XmlNode.partsOf, XmlNode.charDataOf, inked_append, inked_append]
    exact ih.append ihs

end

theorem mem_inked {t : String} {data : List String} (h : t ∈ inked data) : t ≠ "" ∧ Py.strip t = t := by
  obtain ⟨u, hu, rfl⟩ := List.mem_map.1 h
  have htext : Py.hasText u = true := (List.mem_filter.1 hu).2
  exact ⟨bne_iff_ne.1 htext, Py.strip_strip u⟩

/-! ## Joined texts -/

/-- the length of texts joined by one character -/
theorem length_intercalate (parts : List String) :
    (" ".intercalate parts).toList.length = (parts.map fun p => p.toList.length).sum + (parts.length - 1) := by
  rw [String.toList_intercalate]
  induction parts with
  | nil => rfl
  | cons p parts ih =>
    cases parts with
    | nil => simp
    | cons q parts =>
      rw [List.map_cons, List.map_cons, List.intercalate_cons_cons]
      simp only [List.map_cons, List.length_append, List.sum_cons, List.length_cons] at ih ⊢
      rw [ih]
      simp
      omega

theorem toList_of_strip {t : String} (h : Py.strip t = t) : Py.stripChars Py.isSpace t.toList = t.toList := by
  have hlist := congrArg String.toList h
  rwa [Py.strip, String.toList_ofList, Py.chars_eq] at hlist

theorem head?_of_strip {t : String} (h : Py.strip t = t) : ∀ c ∈ t.toList.head?, Py.isSpace c = false := by
  intro c hc
  rw [← toList_of_strip h] at hc
  exact Py.head?_stripChars c hc

theorem getLast?_of_strip {t : String} (h : Py.strip t = t) : ∀ c ∈ t.toList.getLast?, Py.isSpace c = false := by
  intro c hc
  rw [← toList_of_strip h] at hc
  exact Py.getLast?_stripChars c hc

/-- joined texts begin as the first of them and end as the last -/
theorem intercalate_ends {parts : List String} (h : ∀ p ∈ parts, p ≠ "" ∧ Py.strip p = p) :
    (∀ c ∈ (" ".intercalate parts).toList.head?, Py.isSpace c = false) ∧
      ∀ c ∈ (" ".intercalate parts).toList.getLast?, Py.isSpace c = false := by
  rw [String.toList_intercalate]
  induction parts with
  | nil => simp
  | cons p parts ih =>
    obtain ⟨hne, hstrip⟩ := h p List.mem_cons_self
    have hp : p.toList ≠ [] := fun hnil => hne (String.toList_eq_nil_iff.1 hnil)
    have ih := ih fun q hq => h q (List.mem_cons_of_mem _ hq)
    cases parts with
    | nil => simpa using ⟨head?_of_strip hstrip, getLast?_of_strip hstrip⟩
    | cons q parts =>
      have hq : q.toList ≠ [] := fun hnil =>
        (h q (List.mem_cons_of_mem _ List.mem_cons_self)).1 (String.toList_eq_nil_iff.1 hnil)
      have hrest : List.intercalate " ".toList ((q :: parts).map String.toList) ≠ [] := by
        intro hnil
        cases parts with
        | nil => exact hq (by simpa using hnil)
        | cons r parts => simp at hnil
      rw [List.map_cons, List.map_cons, List.intercalate_cons_cons, ← List.map_cons]
      constructor
      · intro c hc
        rw [List.append_assoc, List.head?_append_of_ne_nil _ hp] at hc
        exact head?_of_strip hstrip c hc
      · intro c hc
        rw [List.getLast?_append_of_ne_nil _ hrest] at hc
        exact ih.2 c hc

/-- texts without blank space around them, joined, have none around them -/
theorem strip_intercalate {parts : List String} (h : ∀ p ∈ parts, p ≠ "" ∧ Py.strip p = p) :
    Py.strip (" ".intercalate parts) = " ".intercalate parts := by
  obtain ⟨hhead, hlast⟩ := intercalate_ends h
  rw [Py.strip, Py.chars_eq, Py.stripChars_eq_self hhead hlast, String.ofList_toList]

theorem perm_length {ps qs : List String} (h : ps.Perm qs) :
    (" ".intercalate ps).toList.length = (" ".intercalate qs).toList.length := by
  rw [length_intercalate, length_intercalate, h.length_eq, (h.map _).sum_eq]

theorem strip_collectElementText (e : XmlNode) : Py.strip e.collectElementText = e.collectElementText := by
  refine strip_intercalate fun p hp => ?_
  rcases List.mem_append.1 ((parts_perm e).mem_iff.1 hp) with hp | hp
  · exact mem_inked hp
  · exact mem_inked hp

/-- a part makes the joined text as long as it is, at least -/
theorem length_le_intercalate {t : String} {parts : List String} (h : t ∈ parts) :
    t.toList.length ≤ (" ".intercalate parts).toList.length := by
  have hsum : t.toList.length ≤ (parts.map fun p => p.toList.length).sum :=
    List.single_le_sum (by simp) _ (List.mem_map_of_mem h)
  rw [length_intercalate]
  omega

theorem length_ne_zero {t : String} {data : List String} (h : t ∈ inked data) : t.toList.length ≠ 0 := fun hzero =>
  (mem_inked h).1 (String.toList_eq_nil_iff.1 (List.length_eq_zero_iff.1 hzero))

theorem collectElementText_ne {e : XmlNode} (h : ¬BlankTail e) : e.collectElementText ≠ "" := by
  rw [← inked_tail_eq_nil] at h
  obtain ⟨t, ht⟩ := List.exists_mem_of_ne_nil _ h
  intro hempty
  have hpart : t ∈ e.parts := (parts_perm e).mem_iff.2 (List.mem_append_right _ ht)
  have hle := length_le_intercalate hpart
  rw [show " ".intercalate e.parts = "" from hempty] at hle
  exact length_ne_zero ht (Nat.le_zero.1 hle)

/-- the text of an element is made of its character data exactly if its tail is blank -/
theorem madeOf_iff (e : XmlNode) : MadeOf e.collectElementText e.charData ↔ BlankTail e := by
  have hperm := parts_perm e
  rw [← inked_tail_eq_nil]
  constructor
  · rintro ⟨parts, hparts, htext⟩
    by_contra hne
    obtain ⟨t, ht⟩ := List.exists_mem_of_ne_nil _ hne
    have hlength := length_ne_zero ht
    have hsum : t.toList.length ≤ ((inked e.tail.toList).map fun p => p.toList.length).sum :=
      List.single_le_sum (by simp) _ (List.mem_map_of_mem ht)
    have hcount : 0 < (inked e.tail.toList).length := List.length_pos_of_mem ht
    -- the joined parts are longer than those of the character data, whatever their order
    have heq := perm_length hperm
    rw [show " ".intercalate e.parts = " ".intercalate parts from htext, perm_length hparts, length_intercalate,
      length_intercalate, List.map_append, List.sum_append, List.length_append] at heq
    omega
  · intro hnil
    rw [hnil, List.append_nil] at hperm
    exact ⟨e.parts, hperm, rfl⟩

/-! ## Positions -/

def nodeAt : List Nat → XmlNode → Option XmlNode
  | [], e => some e
  | i :: position, e => (e.children[i]?).bind (nodeAt position)

abbrev Step := String × Nat

/-- the index of the `i`-th child among those of its name -/
def indexOfName (name : String) (i : Nat) (children : List XmlNode) : Nat :=
  ((children.take i).map fun c => localName c.tag).count name + 1

/-- the steps from an element lead to the position -/
def Follows : List Step → XmlNode → List Nat → Prop
  | [], _, position => position = []
  | (name, index) :: steps, e, position => ∃ i rest child, position = i :: rest ∧ e.children[i]? = some child ∧
      localName child.tag = name ∧ indexOfName name i e.children = index ∧ Follows steps child rest

def pathText (steps : List Step) : List Char :=
  steps.flatMap fun step => '/' :: Py.chars step.1 ++ '[' :: digits step.2 ++ [']']

/-- the path leads from the root to the position -/
def Resolves (root : XmlNode) (path : String) (position : List Nat) : Prop :=
  ∃ steps, Py.chars path = pathText ((localName root.tag, 1) :: steps) ∧ Follows steps root position

mutual

/-- no name has a bracket in it -/
def Named : XmlNode → Prop
  | .node tag _ _ children => '[' ∉ Py.chars (localName tag) ∧ NamedAll children

def NamedAll : List XmlNode → Prop
  | [] => True
  | child :: children => Named child ∧ NamedAll children

end

theorem namedAll_iff (children : List XmlNode) : NamedAll children ↔ ∀ c ∈ children, Named c := by
  induction children with
  | nil => simp [NamedAll]
  | cons c children ih => simp [NamedAll, ih]

/-- equal texts have equal beginnings before a delimiter -/
theorem eq_of_delimited {a : Char} {xs ys us vs : List Char} (hx : a ∉ xs) (hy : a ∉ ys)
    (h : xs ++ a :: us = ys ++ a :: vs) : xs = ys ∧ us = vs := by
  induction xs generalizing ys with
  | nil =>
    cases ys with
    | nil => exact ⟨rfl, (List.cons.inj h).2⟩
    | cons y ys => exact absurd (List.cons.inj h).1 fun heq => hy (heq ▸ List.mem_cons_self)
  | cons x xs ih =>
    cases ys with
    | nil => exact absurd (List.cons.inj h).1 fun heq => hx (heq ▸ List.mem_cons_self)
    | cons y ys =>
      obtain ⟨rfl, hrest⟩ := List.cons.inj h
      obtain ⟨rfl, hvs⟩ := ih (fun hmem => hx (List.mem_cons_of_mem _ hmem)) (fun hmem => hy (List.mem_cons_of_mem _ hmem))
        hrest
      exact ⟨rfl, hvs⟩

theorem bracket_notMem_digits (n : Nat) : ']' ∉ digits n := by
  intro h
  exact absurd (JsonText.isDigit_of_mem_digits h) (by decide)

/-- a path without brackets in its names is written from one list of steps -/
theorem pathText_injective {steps steps' : List Step} (hs : ∀ step ∈ steps, '[' ∉ Py.chars step.1)
    (hs' : ∀ step ∈ steps', '[' ∉ Py.chars step.1) (h : pathText steps = pathText steps') : steps = steps' := by
  induction steps generalizing steps' with
  | nil =>
    cases steps' with
    | nil => rfl
    | cons step' steps' => simp [pathText] at h
  | cons step steps ih =>
    cases steps' with
    | nil => simp [pathText] at h
    | cons step' steps' =>
      simp only [pathText, List.flatMap_cons, List.cons_append, List.append_assoc, List.cons.injEq, true_and,
        List.nil_append] at h
      obtain ⟨hname, hrest⟩ := eq_of_delimited (hs step List.mem_cons_self) (hs' step' List.mem_cons_self) h
      obtain ⟨hindex, hrest⟩ := eq_of_delimited (bracket_notMem_digits _) (bracket_notMem_digits _) hrest
      have hstep : step = step' := by
        refine Prod.ext (String.toList_injective ?_) ?_
        · rwa [Py.chars_eq, Py.chars_eq] at hname
        · rw [← JsonText.natOf_digits step.2, hindex, JsonText.natOf_digits]
      have hrest : pathText steps = pathText steps' := by simpa [pathText] using hrest
      rw [hstep, ih (fun s hmem => hs s (List.mem_cons_of_mem _ hmem)) (fun s hmem => hs' s (List.mem_cons_of_mem _ hmem))
        hrest]

/-- steps that lead somewhere are named after elements -/
theorem named_of_follows {steps : List Step} {e : XmlNode} {position : List Nat} (hnamed : Named e)
    (h : Follows steps e position) : ∀ step ∈ steps, '[' ∉ Py.chars step.1 := by
  induction steps generalizing e position with
  | nil => exact fun _ hmem => absurd hmem List.not_mem_nil
  | cons step steps ih =>
    obtain ⟨i, rest, child, rfl, hchild, hname, -, hrest⟩ := h
    have hnamed' : Named child := by
      cases e with
      | node tag text tail children => exact (namedAll_iff _).1 hnamed.2 child (List.mem_of_getElem? hchild)
    intro step' hmem
    rcases List.mem_cons.1 hmem with rfl | hmem
    · rw [← hname]
      cases child with
      | node tag text tail children => exact hnamed'.1
    · exact ih hnamed' hrest step' hmem

/-- a later child of the name has a greater index -/
theorem indexOfName_lt {name : String} {i j : Nat} {children : List XmlNode} {child : XmlNode}
    (hchild : children[i]? = some child) (hname : localName child.tag = name) (hij : i < j) :
    indexOfName name i children < indexOfName name j children := by
  have hlt : children.take (i + 1) <+: children.take j := List.take_prefix_take_left hij
  have hcount := (hlt.sublist.map fun c => localName c.tag).count_le name
  rw [List.take_add_one, hchild, Option.toList_some, List.map_append, List.count_append, List.map_singleton, hname,
    List.count_singleton_self] at hcount
  rw [indexOfName, indexOfName]
  omega

theorem follows_unique {steps : List Step} {e : XmlNode} {position position' : List Nat} (h : Follows steps e position)
    (h' : Follows steps e position') : position = position' := by
  induction steps generalizing e position position' with
  | nil => exact h.trans h'.symm
  | cons step steps ih =>
    obtain ⟨i, rest, child, rfl, hchild, hname, hindex, hrest⟩ := h
    obtain ⟨j, rest', child', rfl, hchild', hname', hindex', hrest'⟩ := h'
    have hij : i = j := by
      rcases Nat.lt_trichotomy i j with hlt | heq | hlt
      · have := indexOfName_lt hchild hname hlt
        omega
      · exact heq
      · have := indexOfName_lt hchild' hname' hlt
        omega
    subst hij
    obtain rfl := Option.some.inj (hchild.symm.trans hchild')
    rw [ih hrest hrest']

/-- a path leads to one position -/
theorem resolves_unique {root : XmlNode} {path : String} {position position' : List Nat} (hnamed : Named root)
    (h : Resolves root path position) (h' : Resolves root path position') : position = position' := by
  obtain ⟨steps, htext, hsteps⟩ := h
  obtain ⟨steps', htext', hsteps'⟩ := h'
  have hroot : '[' ∉ Py.chars (localName root.tag) := by
    cases root with
    | node tag text tail children => exact hnamed.1
  have hclean : ∀ {ss position}, Follows ss root position →
      ∀ step ∈ (localName root.tag, 1) :: ss, '[' ∉ Py.chars step.1 := by
    intro ss position hss step hmem
    rcases List.mem_cons.1 hmem with rfl | hmem
    · exact hroot
    · exact named_of_follows hnamed hss step hmem
  have heq := pathText_injective (hclean hsteps) (hclean hsteps') (htext.symm.trans htext')
  obtain ⟨-, rfl⟩ := List.cons.inj heq
  exact follows_unique hsteps hsteps'

/-! ## The elements of a tree -/

theorem pathText_cons (step : Step) (steps : List Step) :
    pathText (step :: steps) = '/' :: Py.chars step.1 ++ '[' :: digits step.2 ++ [']'] ++ pathText steps := by
  rw [pathText, List.flatMap_cons]
  rfl

mutual

/-- an element is listed under the path that leads to its position -/
theorem mem_elements : ∀ (e : XmlNode) (path : List Char) (p : List Char × XmlNode), p ∈ e.elements path →
    ∃ steps position, p.1 = path ++ pathText steps ∧ Follows steps e position ∧ nodeAt position e = some p.2
  | .node tag text tail children, path, p => by
    intro h
    rw [XmlNode.elements, List.mem_cons] at h
    rcases h with rfl | h
    · exact ⟨[], [], (List.append_nil _).symm, rfl, rfl⟩
    · obtain ⟨i, child, steps, rest, hchild, hpath, hfollows, hnode⟩ := mem_elementsOf children [] path p h
      refine ⟨(localName child.tag, indexOfName (localName child.tag) i children) :: steps, i :: rest, ?_, ?_, ?_⟩
      · rw [pathText_cons]
        simpa using hpath
      · exact ⟨i, rest, child, rfl, hchild, rfl, rfl, hfollows⟩
      · rw [nodeAt, XmlNode.children, show children[i]? = some child from hchild]
        exact hnode

theorem mem_elementsOf : ∀ (children before : List XmlNode) (path : List Char) (p : List Char × XmlNode),
    p ∈ XmlNode.elementsOf path (before.map fun c => localName c.tag) children →
    ∃ i child steps rest, (before ++ children)[i]? = some child ∧
      p.1 = path ++ ('/' :: Py.chars (localName child.tag) ++
        '[' :: digits (indexOfName (localName child.tag) i (before ++ children)) ++ [']'] ++ pathText steps) ∧
      Follows steps child rest ∧ nodeAt rest child = some p.2
  | [], _, _, _ => fun h => absurd h List.not_mem_nil
  | child :: children, before, path, p => by
    intro h
    rw [XmlNode.elementsOf, List.mem_append] at h
    rcases h with h | h
    · obtain ⟨steps, rest, hpath, hfollows, hnode⟩ := mem_elements child _ p h
      refine ⟨before.length, child, steps, rest, by simp, ?_, hfollows, hnode⟩
      rw [hpath, indexOfName, List.take_left]
      simp
    · have hbefore : (before ++ [child]).map (fun c => localName c.tag) =
          before.map (fun c => localName c.tag) ++ [localName child.tag] := by
        rw [List.map_append]
        rfl
      rw [← hbefore] at h
      have ih := mem_elementsOf children (before ++ [child]) path p h
      rwa [List.append_assoc] at ih

end

theorem elementsOf_of_mem {child x : XmlNode} (hx : ∀ path, ∃ path', (path', x) ∈ child.elements path)
    {children : List XmlNode} (hchild : child ∈ children) (earlier : List String) (path : List Char) :
    ∃ path', (path', x) ∈ XmlNode.elementsOf path earlier children := by
  induction children generalizing earlier with
  | nil => exact absurd hchild List.not_mem_nil
  | cons c children ih =>
    rw [XmlNode.elementsOf]
    rcases List.mem_cons.1 hchild with rfl | hchild
    · obtain ⟨path', hmem⟩ := hx _
      exact ⟨path', List.mem_append_left _ hmem⟩
    · obtain ⟨path', hmem⟩ := ih hchild _
      exact ⟨path', List.mem_append_right _ hmem⟩

/-- every element is listed -/
theorem elements_of_nodeAt {position : List Nat} {e x : XmlNode} (h : nodeAt position e = some x) (path : List Char) :
    ∃ path', (path', x) ∈ e.elements path := by
  induction position generalizing e path with
  | nil =>
    obtain rfl := Option.some.inj h
    cases e with
    | node tag text tail children => exact ⟨path, List.mem_cons_self⟩
  | cons i position ih =>
    obtain ⟨child, hchild, hx⟩ := Option.bind_eq_some_iff.1 h
    cases e with
    | node tag text tail children =>
      obtain ⟨path', hmem⟩ := elementsOf_of_mem (fun path => ih hx path) (List.mem_of_getElem? hchild) [] path
      exact ⟨path', List.mem_cons_of_mem _ hmem⟩

/-! ## Segments -/

/-- the tree that `parse_xml_bounded` returns -/
def xmlTree (r : ReRules) (limits : ExtractionLimits) (doc : XmlDocument) : Option XmlNode :=
  (parseXmlBounded r limits doc).toOption.map fun p => readNode p.1 (p.1.length + 1) p.2

/-- elements of this name are extracted -/
def interesting (format : XmlFormat) (e : XmlNode) : Prop := (interestingTags format).all (localName e.tag ∈ ·) = true

/-- the path of each segment leads to one element, and the text is made of what is inside that element -/
def Attributed (root : XmlNode) (segments : List Segment) : Prop :=
  ∀ s ∈ segments, ∀ path, s.locator = .xmlPath path → ∃ position e, nodeAt position root = some e ∧
    MadeOf s.text e.charData ∧ ∀ position', Resolves root path position' ↔ position' = position

def rootPath (root : XmlNode) : List Char := '/' :: Py.chars (localName root.tag) ++ ['[', '1', ']']

theorem mem_xmlPieces {format : XmlFormat} {root : XmlNode} {piece : (Nat → Locator) × String} :
    piece ∈ xmlPieces format root ↔ ∃ path e, (path, e) ∈ root.elements (rootPath root) ∧ interesting format e ∧
      e.collectElementText ≠ "" ∧ piece = (fun _ => .xmlPath (String.ofList path), e.collectElementText) := by
  rw [xmlPieces, List.mem_filterMap]
  constructor
  · rintro ⟨⟨path, e⟩, hmem, hpiece⟩
    dsimp only at hpiece
    by_cases hinteresting : (interestingTags format).all (localName e.tag ∈ ·) = true
    · rw [if_pos hinteresting, strip_collectElementText] at hpiece
      by_cases hempty : e.collectElementText = ""
      · rw [if_pos hempty] at hpiece
        cases hpiece
      · rw [if_neg hempty] at hpiece
        exact ⟨path, e, hmem, hinteresting, hempty, (Option.some.inj hpiece).symm⟩
    · rw [if_neg hinteresting] at hpiece
      cases hpiece
  · rintro ⟨path, e, hmem, hinteresting, hempty, rfl⟩
    refine ⟨(path, e), hmem, ?_⟩
    dsimp only
    rw [if_pos (show (interestingTags format).all (localName e.tag ∈ ·) = true from hinteresting),
      strip_collectElementText, if_neg hempty]

/-- the path of a listed element leads to it, and to no other -/
theorem resolves_of_mem {root : XmlNode} (hnamed : Named root) {path : List Char} {e : XmlNode}
    (h : (path, e) ∈ root.elements (rootPath root)) :
    ∃ position, nodeAt position root = some e ∧
      ∀ position', Resolves root (String.ofList path) position' ↔ position' = position := by
  obtain ⟨steps, position, hpath, hfollows, hnode⟩ := mem_elements root (rootPath root) (path, e) h
  have hresolves : Resolves root (String.ofList path) position := by
    refine ⟨steps, ?_, hfollows⟩
    have hone : digits 1 = ['1'] := by decide
    rw [Py.chars_eq, String.toList_ofList, pathText_cons, hone]
    simpa [rootPath] using hpath
  refine ⟨position, hnode, fun position' => ⟨fun h' => resolves_unique hnamed h' hresolves, ?_⟩⟩
  rintro rfl
  exact hresolves

/-- each piece becomes a segment -/
theorem numberFrom_of_mem {pieces : List ((Nat → Locator) × String)} {piece : (Nat → Locator) × String}
    (h : piece ∈ pieces) (index : Nat) :
    ∃ s ∈ numberFrom index pieces, s.locator = piece.1 s.segmentIndex ∧ s.text = piece.2 := by
  induction pieces generalizing index with
  | nil => exact absurd h List.not_mem_nil
  | cons piece' pieces ih =>
    rcases List.mem_cons.1 h with rfl | h
    · exact ⟨_, List.mem_cons_self, rfl, rfl⟩
    · obtain ⟨s, hs, hpiece⟩ := ih h (index + 1)
      exact ⟨s, List.mem_cons_of_mem _ hs, hpiece⟩

/-- the segments of the elements belong to them exactly if the tails are blank -/
theorem attributed_xmlPieces {format : XmlFormat} {root : XmlNode} (hnamed : Named root) :
    Attributed root (numberFrom 1 (xmlPieces format root)) ↔
      ∀ position e, nodeAt position root = some e → interesting format e → BlankTail e := by
  constructor
  · intro hattributed position e hnode hinteresting
    by_contra htail
    obtain ⟨path, hmem⟩ := elements_of_nodeAt hnode (rootPath root)
    obtain ⟨s, hs, hlocator, htext⟩ :=
      numberFrom_of_mem (mem_xmlPieces.2 ⟨path, e, hmem, hinteresting, collectElementText_ne htail, rfl⟩) 1
    obtain ⟨position₁, e₁, hnode₁, hmade, hresolves⟩ := hattributed s hs _ hlocator
    obtain ⟨position₂, hnode₂, hresolves₂⟩ := resolves_of_mem hnamed hmem
    -- the path of the segment leads to the element that the text was collected from
    have hposition : position₂ = position₁ := (hresolves position₂).1 ((hresolves₂ position₂).2 rfl)
    rw [hposition, hnode₁] at hnode₂
    obtain rfl := Option.some.inj hnode₂
    rw [htext] at hmade
    exact htail ((madeOf_iff e₁).1 hmade)
  · intro htails s hs path hpath
    obtain ⟨-, piece, hpiece, hlocator, htext⟩ := mem_numberFrom hs
    obtain ⟨path', e, hmem, hinteresting, -, rfl⟩ := mem_xmlPieces.1 hpiece
    obtain ⟨position, hnode, hresolves⟩ := resolves_of_mem hnamed hmem
    obtain rfl := Locator.xmlPath.inj (hpath.symm.trans hlocator)
    refine ⟨position, e, hnode, ?_, hresolves⟩
    rw [htext]
    exact (madeOf_iff e).2 (htails position e hnode hinteresting)

/-- a text that is extracted whole has no path -/
theorem attributed_plainText {root : XmlNode} {maxCharacters : Nat} {content : Option (List Char)}
    {segments : List Segment} (h : extractPlainText maxCharacters content = some segments) :
    Attributed root segments := by
  obtain ⟨text, -, h⟩ := Option.bind_eq_some_iff.1 h
  split at h
  · cases h
  · obtain rfl := Option.some.inj h
    intro s hs path hpath
    rw [List.mem_singleton.1 hs] at hpath
    cases hpath

/-- **A segment belongs to the element of its path**, and its text is made of the character data inside it, for all
segments exactly if the elements that the format extracts have blank tails. -/
theorem attributed_iff (r : ReRules) (limits : ExtractionLimits) (maxCharacters : Nat) (format : XmlFormat)
    (doc : XmlDocument) (root : XmlNode) (segments : List Segment) (hroot : xmlTree r limits doc = some root)
    (hnamed : Named root) (h : extractXmlStructured r limits maxCharacters format doc = some segments) :
    Attributed root segments ↔
      ∀ position e, nodeAt position root = some e → interesting format e → BlankTail e := by
  obtain ⟨⟨heap, i⟩, hparse, rfl⟩ := Option.map_eq_some_iff.1 hroot
  rw [← attributed_xmlPieces hnamed]
  rw [extractXmlStructured, hparse] at h
  dsimp only [Option.bind_eq_bind, Option.bind_some] at h
  generalize readNode heap (heap.length + 1) i = root at h ⊢
  split at h
  · cases h
  · cases hpieces : xmlPieces format root with
    | nil =>
      rw [hpieces] at h
      dsimp only at h
      split at h
      · exact iff_of_true (attributed_plainText h) fun s hs => absurd hs List.not_mem_nil
      · cases h
    | cons piece pieces =>
      rw [hpieces] at h
      obtain rfl := Option.some.inj h
      exact Iff.rfl

namespace Samples

/-- `<a><b>x</b></a>`, or `<a><b>x</b>y</a>` -/
def nested (trailing : Bool) : XmlDocument :=
  ⟨some (if trailing then "<a><b>x</b>y</a>" else "<a><b>x</b></a>").toList,
    [.start "a" [], .start "b" [], .data "x", .close "b"] ++ (if trailing then [.data "y"] else []) ++
      [.close "a", .block]⟩

def nestedTree (trailing : Bool) : XmlNode :=
  .node "a" none none [.node "b" (some "x") (if trailing then some "y" else none) []]

def nestedSegments (text : String) : List Segment := [⟨1, text, .xmlPath "/a[1]"⟩, ⟨2, text, .xmlPath "/a[1]/b[1]"⟩]

theorem xmlTree_nested (trailing : Bool) :
    xmlTree Xml.Samples.ascii Xml.Samples.smallLimits (nested trailing) = some (nestedTree trailing) := by
  have hparse : parseXmlBounded Xml.Samples.ascii Xml.Samples.smallLimits (nested trailing) =
      .ok ([⟨"a", [], none, none, [1]⟩, ⟨"b", [], some "x", if trailing then some "y" else none, []⟩], 0) := by
    cases trailing <;> decide
  rw [xmlTree, hparse]
  rfl

theorem extract_nested (trailing : Bool) :
    extractXmlStructured Xml.Samples.ascii Xml.Samples.smallLimits 10 .xml (nested trailing) =
      some (nestedSegments (if trailing then "x y" else "x")) := by
  cases trailing <;> decide +kernel

theorem named_nested (trailing : Bool) : Named (nestedTree trailing) := by
  simp only [nestedTree, Named, NamedAll]
  decide

end Samples

open Samples in
theorem attributed_nested : Attributed (nestedTree false) (nestedSegments "x") :=
  (attributed_iff Xml.Samples.ascii Xml.Samples.smallLimits 10 .xml (nested false) (nestedTree false)
    (nestedSegments "x") (xmlTree_nested false) (named_nested false) (extract_nested false)).2 (by
      intro position e hnode _ t ht
      have htail : e.tail = none := by
        rcases position with _ | ⟨i, rest⟩
        · obtain rfl := Option.some.inj hnode
          rfl
        · obtain ⟨child, hchild, hrest⟩ := Option.bind_eq_some_iff.1 hnode
          obtain rfl := List.mem_singleton.1 (List.mem_of_getElem? hchild)
          rcases rest with _ | ⟨j, rest⟩
          · obtain rfl := Option.some.inj hrest
            rfl
          · cases hrest
      rw [htail] at ht
      cases ht)

open Samples in
/-- `b` gets the text after its end tag -/
theorem tail_attributed : ¬∀ (r : ReRules) (limits : ExtractionLimits) (maxCharacters : Nat) (format : XmlFormat)
    (doc : XmlDocument) (root : XmlNode) (segments : List Segment), xmlTree r limits doc = some root → Named root →
      extractXmlStructured r limits maxCharacters format doc = some segments → Attributed root segments := by
  intro h
  have hattributed := h Xml.Samples.ascii Xml.Samples.smallLimits 10 .xml (nested true) (nestedTree true)
    (nestedSegments "x y") (xmlTree_nested true) (named_nested true) (extract_nested true)
  have hpieces : nestedSegments "x y" = numberFrom 1 (xmlPieces .xml (nestedTree true)) := by decide
  rw [hpieces] at hattributed
  have hblank := (attributed_xmlPieces (named_nested true)).1 hattributed [0] (.node "b" (some "x") (some "y") []) rfl rfl
  exact absurd (hblank "y" rfl) (by decide)

end AtoService.Extraction.Outcomes
