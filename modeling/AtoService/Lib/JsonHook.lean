/-
Reading JSON text with an `object_pairs_hook`, and how long the strings are that a text holds.

`readValueWith hook` is the reader of `JsonLoads` with the members of each object given to `hook`, in the order in which they
were written; a hook that raises ends the reading. `readWith_dictOf`: with the hook that builds a dict it is `readValue`.

`strings v` are the strings that stand as values in `v`. `length_lt_of_loads`: a text is longer than any of the strings that
are read from it, so no text is one of the strings it writes.
-/
import AtoService.Lib.JsonRoundTrip

namespace AtoService

namespace JsonText

/-! ## Reading with a hook -/

section Hook

variable (hook : List (String × Json) → Option Json)

mutual

/-- `readValue`, with each object built by `hook` -/
def readValueWith : Nat → List Char → Option (Json × List Char)
  | 0, _ => none
  | _, [] => none
  | k + 1, c :: cs =>
    if c = '"' then (readString (cs.length + 1) cs).map fun p => (.str (String.ofList p.1), p.2)
    else if c = '[' then
      match skipWs cs with
      | ']' :: rest => some (.arr [], rest)
      | cs => (readItemsWith k cs).map fun p => (.arr p.1, p.2)
    else if c = '{' then
      match skipWs cs with
      | '}' :: rest => (hook []).map fun v => (v, rest)
      | cs => (readMembersWith k cs).bind fun p => (hook p.1).map fun v => (v, p.2)
    else if c = '-' then
      (keyword ['I', 'n', 'f', 'i', 'n', 'i', 't', 'y'] (.float (.inf true)) cs).or (readNumber true cs)
    else
      ((keyword ['n', 'u', 'l', 'l'] .null (c :: cs)).or <|
        (keyword ['t', 'r', 'u', 'e'] (.bool true) (c :: cs)).or <|
        (keyword ['f', 'a', 'l', 's', 'e'] (.bool false) (c :: cs)).or <|
        (keyword ['N', 'a', 'N'] (.float .nan) (c :: cs)).or <|
        (keyword ['I', 'n', 'f', 'i', 'n', 'i', 't', 'y'] (.float (.inf false)) (c :: cs)).or
          (readNumber false (c :: cs)))

def readItemsWith : Nat → List Char → Option (List Json × List Char)
  | 0, _ => none
  | k + 1, cs =>
    match readValueWith k cs with
    | some (v, rest) =>
      match skipWs rest with
      | ']' :: rest => some ([v], rest)
      | ',' :: rest => (readItemsWith k (skipWs rest)).map fun p => (v :: p.1, p.2)
      | _ => none
    | none => none

def readMembersWith : Nat → List Char → Option (List (String × Json) × List Char)
  | 0, _ => none
  | k + 1, cs =>
    match cs with
    | '"' :: cs =>
      match readString (cs.length + 1) cs with
      | some (key, rest) =>
        match skipWs rest with
        | ':' :: rest =>
          match readValueWith k (skipWs rest) with
          | some (v, rest) =>
            match skipWs rest with
            | '}' :: rest => some ([(String.ofList key, v)], rest)
            | ',' :: rest => (readMembersWith k (skipWs rest)).map fun p => ((String.ofList key, v) :: p.1, p.2)
            | _ => none
          | none => none
        | _ => none
      | none => none
    | _ => none

end

/-- `json.loads(text, object_pairs_hook=hook)`; nothing where it or the hook raises -/
def loadsWith (cs : List Char) : Option Json :=
  match readValueWith hook (2 * cs.length + 2) (skipWs cs) with
  | some (v, rest) => if (skipWs rest).isEmpty then some v else none
  | none => none

end Hook

/-- the hook of plain `json.loads` -/
def dictOf (pairs : List (String × Json)) : Option Json := some (.obj (KeyedList.ofList Prod.fst pairs))

end JsonText

/-! ## The strings of a value -/

namespace Json

mutual

/-- the strings that stand as values -/
def strings : Json → List String
  | .str s => [s]
  | .arr xs => stringsItems xs
  | .obj fs => stringsFields fs
  | _ => []

def stringsItems : List Json → List String
  | [] => []
  | x :: xs => strings x ++ stringsItems xs

def stringsFields : List (String × Json) → List String
  | [] => []
  | (_, v) :: fs => strings v ++ stringsFields fs

end

theorem mem_stringsItems {s : String} {xs : List Json} : s ∈ stringsItems xs ↔ ∃ x ∈ xs, s ∈ x.strings := by
  induction xs with
  | nil => simp [stringsItems]
  | cons x xs ih => simp [stringsItems, ih]

theorem mem_stringsFields {s : String} {fs : List (String × Json)} : s ∈ stringsFields fs ↔ ∃ p ∈ fs, s ∈ p.2.strings := by
  induction fs with
  | nil => simp [stringsFields]
  | cons p fs ih => simp [stringsFields, ih]

mutual

/-- the order of members changes no string -/
theorem mem_strings_canon {s : String} : ∀ v : Json, s ∈ v.canon.strings ↔ s ∈ v.strings
  | .null | .bool _ | .int _ | .float _ | .str _ => Iff.rfl
  | .arr xs => by
    rw [canon, strings, strings]
    exact mem_strings_canonItems xs
  | .obj fs => by
    rw [canon, strings, strings, mem_stringsFields, ← mem_strings_canonFields fs, mem_stringsFields]
    simp only [KeyedList.mem_sorted]

theorem mem_strings_canonItems {s : String} : ∀ xs : List Json, s ∈ stringsItems (canonItems xs) ↔ s ∈ stringsItems xs
  | [] => Iff.rfl
  | x :: xs => by
    rw [canonItems, stringsItems, stringsItems, List.mem_append, List.mem_append, mem_strings_canon x,
      mem_strings_canonItems xs]

theorem mem_strings_canonFields {s : String} :
    ∀ fs : List (String × Json), s ∈ stringsFields (canonFields fs) ↔ s ∈ stringsFields fs
  | [] => Iff.rfl
  | (k, v) :: fs => by
    rw [canonFields, stringsFields, stringsFields, List.mem_append, List.mem_append, mem_strings_canon v,
      mem_strings_canonFields fs]

end

end Json

/-! ## The length of a text -/

namespace JsonText

theorem skipWs_length (cs : List Char) : (skipWs cs).length ≤ cs.length := (List.dropWhile_sublist _).length_le

theorem hex4_length {cs rest : List Char} {n : Nat} (h : hex4 cs = some (n, rest)) : rest.length + 4 = cs.length := by
  unfold hex4 at h
  split at h
  · simp only [Option.bind_eq_bind, Option.bind_eq_some_iff, Option.pure_def, Option.some.injEq, Prod.mk.injEq] at h
    obtain ⟨_, _, _, _, _, _, _, _, _, rfl⟩ := h
    rfl
  · cases h

theorem readUnicode_length {cs rest : List Char} {c : Char} (h : readUnicode cs = some (c, rest)) :
    rest.length + 4 ≤ cs.length := by
  unfold readUnicode at h
  simp only [Option.bind_eq_bind, Option.bind_eq_some_iff] at h
  obtain ⟨⟨n, cs₁⟩, hhex, h⟩ := h
  have h₁ := hex4_length hhex
  dsimp only at h
  split_ifs at h
  · split at h
    · simp only [Option.bind_eq_some_iff] at h
      obtain ⟨⟨m, cs₂⟩, hhex₂, h⟩ := h
      have h₂ := hex4_length hhex₂
      simp only [List.length_cons] at h₁ h₂
      dsimp only at h
      split_ifs at h
      obtain ⟨-, rfl⟩ := Prod.mk.inj (Option.some.inj h)
      omega
    · cases h
  · obtain ⟨-, rfl⟩ := Prod.mk.inj (Option.some.inj h)
    omega

theorem unescape_length {es cs : List Char} {c : Char} (h : unescape es = some (c, cs)) : cs.length + 1 ≤ es.length := by
  unfold unescape at h
  split at h
  case h_9 =>
    have := readUnicode_length h
    rw [List.length_cons]
    omega
  case h_10 => cases h
  all_goals
    cases h
    rw [List.length_cons]

theorem readString_backslash_none (k : Nat) {es : List Char} (h : unescape es = none) :
    readString (k + 1) ('\\' :: es) = none := by
  rw [readString, if_neg (by decide), if_pos rfl]
  dsimp only
  split
  case h_9 cs =>
    rw [show readUnicode cs = none from h]
    rfl
  case h_10 => rfl
  all_goals cases h

theorem readString_length {k : Nat} {cs ds rest : List Char} (h : readString k cs = some (ds, rest)) :
    ds.length + 1 + rest.length ≤ cs.length := by
  induction k generalizing cs ds with
  | zero => rw [readString] at h; cases h
  | succ k ih =>
    cases cs with
    | nil => simp [readString] at h
    | cons c cs =>
      rw [List.length_cons]
      by_cases hescape : c = '\\'
      · subst hescape
        -- an escape takes at least one character after the backslash
        cases hread : unescape cs with
        | none => rw [readString_backslash_none k hread] at h; cases h
        | some p =>
          rw [readString_backslash k hread] at h
          obtain ⟨⟨ds', rest'⟩, htail, heq⟩ := Option.map_eq_some_iff.1 h
          cases heq
          have h₁ : ds'.length + 1 + rest'.length ≤ p.2.length := ih htail
          have h₂ := unescape_length hread
          dsimp only
          rw [List.length_cons]
          omega
      · rw [readString] at h
        split_ifs at h
        · cases h
          rw [List.length_nil]
          omega
        · rw [Option.bind_eq_bind, bind_consChar] at h
          obtain ⟨⟨ds', rest'⟩, htail, heq⟩ := Option.map_eq_some_iff.1 h
          cases heq
          have h₁ : ds'.length + 1 + rest'.length ≤ cs.length := ih htail
          dsimp only
          rw [List.length_cons]
          omega

theorem spanDigits_length (cs : List Char) : (spanDigits cs).2.length ≤ cs.length := by
  rw [spanDigits, List.span_eq_takeWhile_dropWhile]
  exact (List.dropWhile_sublist _).length_le

theorem readFraction_length (cs : List Char) : (readFraction cs).2.length ≤ cs.length := by
  unfold readFraction
  split
  · rename_i cs
    have := spanDigits_length cs
    split
    · rfl
    · simp only [List.length_cons]
      omega
  · rfl

theorem readExponent_length (cs : List Char) : (readExponent cs).2.length ≤ cs.length := by
  unfold readExponent
  split
  · rename_i c cs
    split_ifs
    · split
      next neg ds heq =>
        have hsign : ds.length ≤ cs.length := by
          split at heq <;> cases heq <;> simp
        have hspan := spanDigits_length ds
        split
        · exact le_rfl
        · rename_i heq'
          rw [heq'] at hspan
          exact hspan.trans (hsign.trans (Nat.le_succ _))
    · exact le_rfl
  · exact le_rfl

theorem readAfterWhole_length {neg : Bool} {whole cs rest : List Char} {v : Json}
    (h : readAfterWhole neg whole cs = some (v, rest)) : rest.length ≤ cs.length ∧ v.strings = [] := by
  have h₁ := readFraction_length cs
  have h₂ := readExponent_length (readFraction cs).2
  rw [readAfterWhole] at h
  dsimp only at h
  split at h
  · cases h
    exact ⟨h₂.trans h₁, rfl⟩
  · cases h
    exact ⟨h₂.trans h₁, rfl⟩

theorem readNumber_length {neg : Bool} {cs rest : List Char} {v : Json} (h : readNumber neg cs = some (v, rest)) :
    rest.length ≤ cs.length ∧ v.strings = [] := by
  unfold readNumber at h
  split at h
  next whole mid heq =>
    have hlen : mid.length ≤ cs.length := by
      split at heq
      · cases heq
        simp
      · have := spanDigits_length cs
        rw [heq] at this
        exact this
    by_cases hwhole : whole.isEmpty = true
    · rw [if_pos hwhole] at h
      cases h
    · rw [if_neg hwhole] at h
      obtain ⟨hrest, hnone⟩ : rest.length ≤ mid.length ∧ v.strings = [] := readAfterWhole_length h
      exact ⟨hrest.trans hlen, hnone⟩

theorem keyword_length {word cs rest : List Char} {v w : Json} (h : keyword word w cs = some (v, rest)) :
    rest.length ≤ cs.length ∧ v = w := by
  unfold keyword at h
  split_ifs at h
  cases h
  exact ⟨by rw [List.length_drop]; omega, rfl⟩

/-- a text that was read down to `rest`, and the strings in what was read -/
def Covers (ss : List String) (rest cs : List Char) : Prop :=
  rest.length ≤ cs.length ∧ ∀ s ∈ ss, (Py.chars s).length + 2 + rest.length ≤ cs.length

theorem covers_nil {rest cs : List Char} (h : rest.length ≤ cs.length) : Covers [] rest cs := ⟨h, by simp⟩

theorem Covers.mono {ss : List String} {rest rest' cs cs' : List Char} (h : Covers ss rest cs)
    (hrest : rest'.length ≤ rest.length) (hcs : cs.length ≤ cs'.length) : Covers ss rest' cs' :=
  ⟨hrest.trans (h.1.trans hcs), fun s hs => by
    have := h.2 s hs
    omega⟩

theorem Covers.append {ss ts : List String} {rest mid cs : List Char} (h : Covers ss mid cs) (h' : Covers ts rest mid) :
    Covers (ss ++ ts) rest cs := by
  refine ⟨h'.1.trans h.1, fun s hs => ?_⟩
  rcases List.mem_append.1 hs with hs | hs
  · have := h.2 s hs
    have := h'.1
    omega
  · have := h'.2 s hs
    have := h.1
    omega

theorem covers_number {neg : Bool} {cs rest : List Char} {v : Json} (h : readNumber neg cs = some (v, rest)) :
    Covers v.strings rest cs := by
  obtain ⟨hlen, hnone⟩ := readNumber_length h
  rw [hnone]
  exact covers_nil hlen

theorem covers_keyword {word cs rest : List Char} {v w : Json} (hw : w.strings = []) (h : keyword word w cs = some (v, rest)) :
    Covers v.strings rest cs := by
  obtain ⟨hlen, rfl⟩ := keyword_length h
  rw [hw]
  exact covers_nil hlen

/-- the strings of a dict are among those of the pairs it is built of -/
theorem stringsFields_ofList {s : String} {fs : List (String × Json)}
    (h : s ∈ Json.stringsFields (KeyedList.ofList Prod.fst fs)) : s ∈ Json.stringsFields fs := by
  rw [Json.mem_stringsFields] at h ⊢
  obtain ⟨p, hp, hs⟩ := h
  exact ⟨p, KeyedList.mem_ofList hp, hs⟩

/-- by induction on the fuel, for values, items and members together -/
theorem read_covers (k : Nat) :
    (∀ {cs rest : List Char} {v : Json}, readValue k cs = some (v, rest) → Covers v.strings rest cs) ∧
      (∀ {cs rest : List Char} {xs : List Json}, readItems k cs = some (xs, rest) →
        Covers (Json.stringsItems xs) rest cs) ∧
      ∀ {cs rest : List Char} {fs : List (String × Json)}, readMembers k cs = some (fs, rest) →
        Covers (Json.stringsFields fs) rest cs := by
  induction k with
  | zero =>
    refine ⟨fun h => ?_, fun h => ?_, fun h => ?_⟩
    · rw [readValue] at h; cases h
    · rw [readItems] at h; cases h
    · rw [readMembers] at h; cases h
  | succ k ih =>
    obtain ⟨hvalue, hitems, hmembers⟩ := ih
    refine ⟨fun {cs rest v} h => ?_, fun {cs rest xs} h => ?_, fun {cs rest fs} h => ?_⟩
    · cases cs with
      | nil => simp [readValue] at h
      | cons c cs =>
        have hcons : cs.length ≤ (c :: cs).length := by simp
        rw [readValue] at h
        split_ifs at h
        · obtain ⟨⟨ds, rest'⟩, hread, heq⟩ := Option.map_eq_some_iff.1 h
          cases heq
          have := readString_length hread
          dsimp only at hread this ⊢
          refine ⟨by rw [List.length_cons]; omega, fun s hs => ?_⟩
          obtain rfl := List.mem_singleton.1 hs
          rw [Py.chars_eq, String.toList_ofList, List.length_cons]
          omega
        · have hskip := skipWs_length cs
          split at h
          · rename_i rest' heq
            cases h
            rw [heq, List.length_cons] at hskip
            exact covers_nil (by simp only [List.length_cons]; omega)
          · obtain ⟨⟨xs, rest'⟩, hread, heq⟩ := Option.map_eq_some_iff.1 h
            cases heq
            exact (hitems hread).mono le_rfl (hskip.trans hcons)
        · have hskip := skipWs_length cs
          split at h
          · rename_i rest' heq
            cases h
            rw [heq, List.length_cons] at hskip
            exact covers_nil (by simp only [List.length_cons]; omega)
          · obtain ⟨⟨fs, rest'⟩, hread, heq⟩ := Option.map_eq_some_iff.1 h
            cases heq
            have hcovers := (hmembers hread).mono le_rfl (hskip.trans hcons)
            exact ⟨hcovers.1, fun s hs => hcovers.2 s (stringsFields_ofList hs)⟩
        · rcases Option.or_eq_some_iff.1 h with h | ⟨-, h⟩
          · exact (covers_keyword rfl h).mono le_rfl hcons
          · exact (covers_number h).mono le_rfl hcons
        · rcases Option.or_eq_some_iff.1 h with h | ⟨-, h⟩
          · exact covers_keyword rfl h
          rcases Option.or_eq_some_iff.1 h with h | ⟨-, h⟩
          · exact covers_keyword rfl h
          rcases Option.or_eq_some_iff.1 h with h | ⟨-, h⟩
          · exact covers_keyword rfl h
          rcases Option.or_eq_some_iff.1 h with h | ⟨-, h⟩
          · exact covers_keyword rfl h
          rcases Option.or_eq_some_iff.1 h with h | ⟨-, h⟩
          · exact covers_keyword rfl h
          · exact covers_number h
    · rw [readItems] at h
      split at h
      · rename_i v mid hread
        have hfirst := hvalue hread
        have hskip := skipWs_length mid
        split at h
        · rename_i rest' heq
          cases h
          rw [heq, List.length_cons] at hskip
          rw [Json.stringsItems, Json.stringsItems, List.append_nil]
          exact hfirst.mono (by omega) le_rfl
        · rename_i rest' heq
          rw [heq, List.length_cons] at hskip
          obtain ⟨⟨xs', rest''⟩, hrest, heq'⟩ := Option.map_eq_some_iff.1 h
          cases heq'
          have hws := skipWs_length rest'
          exact (hfirst.append ((hitems hrest).mono le_rfl (by omega)))
        · cases h
      · cases h
    · unfold readMembers at h
      split at h
      · rename_i cs'
        split at h
        · rename_i key mid hkey
          have hlen := readString_length hkey
          have hskip := skipWs_length mid
          split at h
          · rename_i mid' heq
            rw [heq, List.length_cons] at hskip
            have hws := skipWs_length mid'
            split at h
            · rename_i v rest₁ hread
              have hfirst : Covers v.strings rest₁ ('"' :: cs') :=
                (hvalue hread).mono le_rfl (by simp only [List.length_cons]; omega)
              have hskip₁ := skipWs_length rest₁
              split at h
              · rename_i rest' heq'
                cases h
                rw [heq', List.length_cons] at hskip₁
                rw [Json.stringsFields, Json.stringsFields, List.append_nil]
                exact hfirst.mono (by omega) le_rfl
              · rename_i rest' heq'
                rw [heq', List.length_cons] at hskip₁
                obtain ⟨⟨fs', rest''⟩, hrest, heq''⟩ := Option.map_eq_some_iff.1 h
                cases heq''
                have hws' := skipWs_length rest'
                exact hfirst.append ((hmembers hrest).mono le_rfl (by omega))
              · cases h
            · cases h
          · cases h
        · cases h
      · cases h

/-- **A text is longer** than each string that is read from it. -/
theorem length_lt_of_loads {cs : List Char} {v : Json} (h : loads cs = some v) {s : String} (hs : s ∈ v.strings) :
    (Py.chars s).length < cs.length := by
  unfold loads at h
  split at h
  · rename_i w rest hread
    split_ifs at h
    cases h
    have := ((read_covers _).1 hread).2 s hs
    have := skipWs_length cs
    omega
  · cases h

end JsonText

end AtoService
