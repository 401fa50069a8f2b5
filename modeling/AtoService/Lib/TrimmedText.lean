/-
Texts without the blank space around them, on lists of characters: `str.rstrip`, `str.strip`, and what they leave of two
texts joined.

- `infix_rstripChars`: whether a text that ends with ink occurs in another one does not depend on the blank space at the
  end of the latter.
- `infix_stripChars`: the same for a text with ink at both ends, and blank space on both sides.
- `rstripChars_append`: what stands before ink is kept.
- `rstripChars_map`: a rewriting of characters that keeps blank space blank commutes with stripping.
-/
import AtoService.Lib.PyText

namespace AtoService.Py

variable {p : Char → Bool} {s t u : List Char}

theorem rstripChars_eq_nil : rstripChars p t = [] ↔ ∀ c ∈ t, p c = true := by
  rw [rstripChars, List.reverse_eq_nil_iff, dropWhile_eq_nil]
  simp

theorem prefix_rstripChars : rstripChars p t <+: t := by
  have h := List.dropWhile_suffix p (l := t.reverse)
  rw [← List.reverse_prefix, List.reverse_reverse] at h
  exact h

/-- blank space at the end does not count -/
theorem rstripChars_append_blank (h : ∀ c ∈ t, p c = true) : rstripChars p (s ++ t) = rstripChars p s := by
  rw [rstripChars, List.reverse_append, List.dropWhile_append_of_pos (by simpa using h), rstripChars]

/-- the text before ink is kept -/
theorem rstripChars_append (h : ∀ c ∈ u.getLast?, p c = false) (hu : u ≠ []) :
    rstripChars p (s ++ u ++ t) = s ++ u ++ rstripChars p t := by
  have hkeep : ((s ++ u).reverse).dropWhile p = (s ++ u).reverse := by
    refine dropWhile_eq_self fun c hc => h c ?_
    rw [List.head?_reverse, List.getLast?_append_of_ne_nil _ hu] at hc
    exact hc
  rw [rstripChars, List.reverse_append, List.dropWhile_append]
  cases hd : (t.reverse.dropWhile p).isEmpty with
  | true =>
    have hnil : rstripChars p t = [] := by
      rw [rstripChars, List.isEmpty_iff.1 hd, List.reverse_nil]
    rw [if_pos rfl, hkeep, List.reverse_reverse, hnil, List.append_nil]
  | false => rw [if_neg (by simp), List.reverse_append, List.reverse_reverse, rstripChars]

/-- what is left of a text after stripping ends with ink -/
theorem infix_rstripChars (h : ∀ c ∈ s.getLast?, p c = false) : s <:+: rstripChars p t ↔ s <:+: t := by
  refine ⟨fun hs => hs.trans prefix_rstripChars.isInfix, ?_⟩
  rintro ⟨a, b, rfl⟩
  by_cases hs : s = []
  · exact hs ▸ List.nil_infix
  · rw [rstripChars_append h hs]
    exact ⟨a, _, rfl⟩

theorem stripChars_infix : stripChars p t <:+: t :=
  prefix_rstripChars.isInfix.trans (List.dropWhile_suffix p).isInfix

/-- what is left of a text after stripping it on the left begins with ink -/
theorem infix_dropWhile (h : ∀ c ∈ s.head?, p c = false) : s <:+: t.dropWhile p ↔ s <:+: t := by
  have hlast : ∀ c ∈ s.reverse.getLast?, p c = false := by
    rw [List.getLast?_reverse]
    exact h
  have hreverse := infix_rstripChars (t := t.reverse) hlast
  rwa [rstripChars, List.reverse_reverse, List.reverse_infix, List.reverse_infix] at hreverse

/-- whether a text that begins and ends with ink occurs does not depend on the blank space around -/
theorem infix_stripChars (hhead : ∀ c ∈ s.head?, p c = false) (hlast : ∀ c ∈ s.getLast?, p c = false) :
    s <:+: stripChars p t ↔ s <:+: t := by
  rw [stripChars, infix_rstripChars hlast, infix_dropWhile hhead]

theorem head?_stripChars (c : Char) (h : c ∈ (stripChars p t).head?) : p c = false := by
  rw [stripChars, head?_rstripChars fun c hc => head?_dropWhile c hc] at h
  exact head?_dropWhile c h

/-- a text that begins and ends with ink is left as it is -/
theorem stripChars_eq_self (hhead : ∀ c ∈ t.head?, p c = false) (hlast : ∀ c ∈ t.getLast?, p c = false) :
    stripChars p t = t := by
  rw [stripChars, dropWhile_eq_self hhead, rstripChars, dropWhile_eq_self, List.reverse_reverse]
  intro c hc
  rw [List.head?_reverse] at hc
  exact hlast c hc

/-- each of the joined texts occurs -/
theorem infix_intercalate {sep : List Char} {parts : List (List Char)} (h : t ∈ parts) : t <:+: sep.intercalate parts := by
  induction parts with
  | nil => cases h
  | cons part parts ih =>
    cases parts with
    | nil =>
      rw [List.mem_singleton.1 h, List.intercalate_singleton]
    | cons part' parts =>
      rw [List.intercalate_cons_cons]
      rcases List.mem_cons.1 h with rfl | h
      · exact ⟨[], _, by rw [List.nil_append, List.append_assoc]⟩
      · exact (ih h).trans (List.suffix_append _ _).isInfix

/-- nothing but the empty text is left of a text that occurs in a blank one -/
theorem stripChars_of_infix_blank (h : stripChars p s <:+: t) (ht : ∀ c ∈ t, p c = true) : stripChars p s = [] := by
  rw [← stripChars_stripChars, stripChars_eq_nil]
  exact fun c hc => ht c (h.subset hc)

section Map

variable {f : Char → Char}

theorem rstripChars_map (hf : ∀ c, p (f c) = p c) : rstripChars p (t.map f) = (rstripChars p t).map f := by
  have hp : p ∘ f = p := funext hf
  rw [rstripChars, rstripChars, ← List.map_reverse, List.dropWhile_map, hp, List.map_reverse]

end Map

end AtoService.Py
