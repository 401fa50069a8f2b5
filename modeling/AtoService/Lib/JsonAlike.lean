/-
JSON values that differ in the order of members only: what is written and what is read back from it.

`alike_of_loads`: a value and what `json.loads` makes of its text are alike. The other lemmas take two alike values apart
along their structure: a leaf is the same value (`Alike.str`, `Alike.nat`, `Alike.null`), arrays are alike entry by entry
(`Alike.arr`), and objects have the same keys and alike members (`Alike.obj`).
-/
import AtoService.Lib.JsonRoundTrip
import AtoService.Lib.KeyedMerge

namespace AtoService.Json

mutual

theorem canon_canon : ∀ v : Json, v.canon.canon = v.canon
  | .null | .bool _ | .int _ | .float _ | .str _ => rfl
  | .arr xs => by rw [canon, canon, canonItems_canonItems xs]
  | .obj fs => by
    have hsorted : ∀ ps : List (String × Json), KeyedList.sorted Prod.fst (ps.map fun p => (p.1, p.2.canon)) =
        (KeyedList.sorted Prod.fst ps).map fun p => (p.1, p.2.canon) := fun ps =>
      KeyedList.sorted_map _ (fun _ => rfl) ps
    have ih := canonFields_canonFields fs
    rw [canonFields_eq (canonFields fs)] at ih
    rw [canon, canon, canonFields_eq (KeyedList.sorted _ _), ← hsorted, ih, KeyedList.sorted_sorted]

theorem canonItems_canonItems : ∀ xs : List Json, canonItems (canonItems xs) = canonItems xs
  | [] => rfl
  | x :: xs => by rw [canonItems, canonItems, canon_canon x, canonItems_canonItems xs]

theorem canonFields_canonFields : ∀ fs : List (String × Json), canonFields (canonFields fs) = canonFields fs
  | [] => rfl
  | (k, v) :: fs => by rw [canonFields, canonFields, canon_canon v, canonFields_canonFields fs]

end

/-- one value, but for the order of members -/
structure Alike (v w : Json) : Prop where
  left : v.WellFormed
  right : w.WellFormed
  canon : v.canon = w.canon

theorem Alike.refl {v : Json} (h : v.WellFormed) : Alike v v := ⟨h, h, rfl⟩

/-- what is read back from the text of a value -/
theorem alike_of_loads {f : Separators} (hf : JsonText.Blanks f) {v : Json} (hv : v.WellFormed) :
    ∃ v', JsonText.loads (dumps f v) = some v' ∧ Alike v' v := by
  have hread := JsonText.loads_dumps hf hv
  exact ⟨v.canon, hread, JsonText.loads_wellFormed hread, hv, canon_canon v⟩

section

variable {v : Json}

theorem Alike.str {s : String} (h : Alike v (.str s)) : v = .str s := by
  have hcanon := h.canon
  cases v <;> simp_all [Json.canon]

theorem Alike.int {n : Int} (h : Alike v (.int n)) : v = .int n := by
  have hcanon := h.canon
  cases v <;> simp_all [Json.canon]

theorem Alike.null (h : Alike v .null) : v = .null := by
  have hcanon := h.canon
  cases v <;> simp_all [Json.canon]

theorem Alike.arr {xs : List Json} (h : Alike v (.arr xs)) : ∃ ys, v = .arr ys ∧ List.Forall₂ Alike ys xs := by
  obtain ⟨hleft, hright, hcanon⟩ := h
  cases v with
  | arr ys =>
    simp only [Json.canon, Json.arr.injEq, canonItems_eq] at hcanon
    have hleft' := (wellFormedItems_iff ys).1 hleft
    have hright' := (wellFormedItems_iff xs).1 hright
    refine ⟨ys, rfl, ?_⟩
    rw [List.forall₂_iff_get]
    have hlength : ys.length = xs.length := by simpa using congrArg List.length hcanon
    refine ⟨hlength, fun i hi hj => ⟨hleft' _ (List.get_mem _ _), hright' _ (List.get_mem _ _), ?_⟩⟩
    have hentry := congrArg (fun zs => zs[i]?) hcanon
    simpa [List.getElem?_eq_getElem hi, List.getElem?_eq_getElem hj] using hentry
  | _ => simp [Json.canon] at hcanon

/-- the same keys, and under each key alike values -/
structure AlikeMembers (fs gs : List (String × Json)) : Prop where
  keys : ∀ k, k ∈ fs.map Prod.fst ↔ k ∈ gs.map Prod.fst
  member : ∀ k w, Json.member k gs = some w → ∃ v, Json.member k fs = some v ∧ Alike v w

theorem wellFormed_of_member {fs : List (String × Json)} {k : String} {v : Json} (h : (Json.obj fs).WellFormed)
    (hv : Json.member k fs = some v) : v.WellFormed := by
  obtain ⟨p, hp, rfl⟩ := Option.map_eq_some_iff.1 hv
  exact (wellFormedFields_iff fs).1 h.2 p (KeyedList.mem_of_get? hp)

theorem Alike.obj {gs : List (String × Json)} (h : Alike v (.obj gs)) : ∃ fs, v = .obj fs ∧ AlikeMembers fs gs := by
  obtain ⟨hleft, hright, hcanon⟩ := h
  cases v with
  | obj fs =>
    have hmember := JsonText.member_canon_of_canon_eq hleft hright hcanon
    have hsome : ∀ (k : String) (hs : List (String × Json)), k ∈ hs.map Prod.fst ↔ (Json.member k hs).isSome := by
      intro k hs
      rw [Json.member, Option.isSome_map, KeyedList.get?_isSome]
    refine ⟨fs, rfl, fun k => ?_, fun k w hw => ?_⟩
    · have hsame := congrArg Option.isSome (hmember k)
      rw [Option.isSome_map, Option.isSome_map] at hsame
      rw [hsome, hsome, hsame]
    · have hsame := hmember k
      rw [hw, Option.map_some, Option.map_eq_some_iff] at hsame
      obtain ⟨v, hv, hcanon⟩ := hsame
      exact ⟨v, hv, wellFormed_of_member hleft hv, wellFormed_of_member hright hw, hcanon⟩
  | _ => simp [Json.canon] at hcanon

end

end AtoService.Json
