import Mathlib.Order.MinMax
import StoreMigration.Proofs.Json.CompactText

/-! Values that are nested too deeply for a reader. Their compact text is refused, at the
bracket or brace that opens one container too many, so among values without floating-point
numbers it is the nesting alone that decides which ones a reader takes. -/

namespace StoreMigration.Json

def TooDeep (reading : Reading α) : Prop :=
  ∃ stop, reading = .error stop ∧ stop.fault = .nestedTooDeep

theorem TooDeep.map {reading : Reading α} (tooDeep : TooDeep reading)
    (change : α × List Char → β × List Char) : TooDeep (reading.map change) := by
  rcases tooDeep with ⟨stop, rfl, fault⟩
  exact ⟨stop, rfl, fault⟩

/-! ## One step of each reader -/

theorem tooDeep_readItems {policy : ReadingPolicy} {fuel room : Nat} {characters : List Char}
    (tooDeep : TooDeep (readValue policy fuel room characters)) :
    TooDeep (readItems policy (fuel + 1) room characters) := by
  rcases tooDeep with ⟨stop, stopped, fault⟩
  refine ⟨stop, ?_, fault⟩
  simp only [readItems, stopped]

theorem tooDeep_readFields {policy : ReadingPolicy} (name : String) {fuel room : Nat}
    (known : Fields) {inside : List Char}
    (tooDeep : TooDeep (readValue policy fuel room inside)) :
    TooDeep (readFields policy (fuel + 1) room known
      (stringCharacters name ++ ':' :: inside)) := by
  rcases tooDeep with ⟨stop, stopped, fault⟩
  refine ⟨stop, ?_, fault⟩
  rw [stringCharacters_append, readFields, skipLayout_cons _ rfl]
  simp only [readString_escaped, skipLayout_cons inside (show isLayout ':' = false from rfl),
    stopped]

/-! ## Whole values -/

/- The reader gets as far as the first item or field that is too deep: those before it read
back, and those after it are never reached. -/
mutual
theorem tooDeep_readValue (policy : ReadingPolicy) :
    ∀ (value : Json) {fuel room : Nat} (rest : List Char), value.FloatFree → value.WellFormed →
      value.characters.length < fuel → room < value.depth →
      TooDeep (readValue policy fuel room (value.characters ++ rest))
  | .null, _, room, _, _, _, _, deep => absurd deep (Nat.not_lt_zero room)
  | .bool _, _, room, _, _, _, _, deep => absurd deep (Nat.not_lt_zero room)
  | .number _, _, room, _, _, _, _, deep => absurd deep (Nat.not_lt_zero room)
  | .string _, _, room, _, _, _, _, deep => absurd deep (Nat.not_lt_zero room)
  -- Without room the bracket itself is refused; with room, something inside is too deep.
  | .array _, fuel + 1, 0, _, _, _, _, _ => ⟨_, rfl, rfl⟩
  | .object _, fuel + 1, 0, _, _, _, _, _ => ⟨_, rfl, rfl⟩
  | .array [], fuel + 1, room + 1, _, _, _, _, deep =>
      absurd (Nat.lt_of_succ_lt_succ deep) (Nat.not_lt_zero room)
  | .object [], fuel + 1, room + 1, _, _, _, _, deep =>
      absurd (Nat.lt_of_succ_lt_succ deep) (Nat.not_lt_zero room)
  | .array (item :: more), fuel + 1, room + 1, rest, floatFree, wellFormed, enough, deep => by
      rcases exists_charactersOfItems_eq_cons floatFree.1 more with ⟨first, others, same, begins⟩
      have text : (array (item :: more)).characters ++ rest =
          '[' :: (charactersOfItems (item :: more) ++ ']' :: rest) := by simp [characters]
      have fuelled : (charactersOfItems (item :: more)).length + 1 < fuel := by
        simp only [characters, List.length_cons, List.length_append, List.length_nil] at enough
        omega
      have inside := tooDeep_items policy item more rest floatFree wellFormed fuelled
        (Nat.lt_of_succ_lt_succ deep)
      rw [text]
      rw [same, List.cons_append] at inside ⊢
      rw [readValue_array policy fuel room _ begins]
      exact inside.map _
  | .object (field :: more), fuel + 1, room + 1, rest, floatFree, wellFormed, enough, deep => by
      rcases exists_charactersOfFields_eq_cons field more with ⟨others, same⟩
      have text : (object (field :: more)).characters ++ rest =
          '\x7b' :: (charactersOfFields (field :: more) ++ '\x7d' :: rest) := by simp [characters]
      have fuelled : (charactersOfFields (field :: more)).length + 1 < fuel := by
        simp only [characters, List.length_cons, List.length_append, List.length_nil] at enough
        omega
      have inside := tooDeep_fields policy field more [] rest floatFree wellFormed.2 fuelled
        (Nat.lt_of_succ_lt_succ deep)
      rw [text]
      rw [same, List.cons_append] at inside ⊢
      rw [readValue_object]
      exact inside.map _

theorem tooDeep_items (policy : ReadingPolicy) :
    ∀ (item : Json) (more : List Json) {fuel room : Nat} (rest : List Char),
      FloatFreeItems (item :: more) → WellFormedItems (item :: more) →
      (charactersOfItems (item :: more)).length + 1 < fuel → room < depthOfItems (item :: more) →
      TooDeep (readItems policy fuel room (charactersOfItems (item :: more) ++ ']' :: rest))
  | item, [], fuel + 1, room, rest, floatFree, wellFormed, enough, deep => by
      have deepHere : room < item.depth := by
        rw [depthOfItems, depthOfItems, Nat.max_zero] at deep
        exact deep
      exact tooDeep_readItems (tooDeep_readValue policy item (']' :: rest) floatFree.1 wellFormed.1
        (Nat.lt_of_succ_lt_succ enough) deepHere)
  | item, next :: more, fuel + 1, room, rest, floatFree, wellFormed, enough, deep => by
      have text : charactersOfItems (item :: next :: more) ++ ']' :: rest =
          item.characters ++ ',' :: (charactersOfItems (next :: more) ++ ']' :: rest) := by
        simp [charactersOfItems]
      have some := length_characters_pos floatFree.1
      simp only [charactersOfItems, List.length_append, List.length_cons] at enough
      rw [text]
      by_cases deepHere : room < item.depth
      · exact tooDeep_readItems (tooDeep_readValue policy item _ floatFree.1 wellFormed.1
          (by omega) deepHere)
      · have shallow : item.depth ≤ room := Nat.le_of_not_lt deepHere
        have deepLater : room < depthOfItems (next :: more) :=
          (lt_max_iff.mp deep).resolve_left deepHere
        have here : readValue policy fuel room
            (item.characters ++ ',' :: (charactersOfItems (next :: more) ++ ']' :: rest)) =
              .ok (item, ',' :: (charactersOfItems (next :: more) ++ ']' :: rest)) :=
          readValue_characters policy item floatFree.1 wellFormed.1 (by omega) shallow
            (endsNumber_cons _ rfl)
        have fuelled : (charactersOfItems (next :: more)).length + 1 < fuel := by omega
        have later := tooDeep_items policy next more rest floatFree.2 wellFormed.2 fuelled deepLater
        rw [readItems_more here]
        exact later.map _

theorem tooDeep_fields (policy : ReadingPolicy) :
    ∀ (field : String × Json) (more known : Fields) {fuel room : Nat} (rest : List Char),
      FloatFreeFields (field :: more) → WellFormedFields (field :: more) →
      (charactersOfFields (field :: more)).length + 1 < fuel →
      room < depthOfFields (field :: more) →
      TooDeep (readFields policy fuel room known
        (charactersOfFields (field :: more) ++ '\x7d' :: rest))
  | (name, value), [], known, fuel + 1, room, rest, floatFree, wellFormed, enough, deep => by
      have text : charactersOfFields [(name, value)] ++ '\x7d' :: rest =
          stringCharacters name ++ ':' :: (value.characters ++ '\x7d' :: rest) := by
        simp [charactersOfFields]
      have deepHere : room < value.depth := by
        rw [depthOfFields, depthOfFields, Nat.max_zero] at deep
        exact deep
      simp only [charactersOfFields, List.length_append, List.length_cons] at enough
      rw [text]
      exact tooDeep_readFields name known (tooDeep_readValue policy value _ floatFree.1 wellFormed.1
        (by omega) deepHere)
  | (name, value), next :: more, known, fuel + 1, room, rest, floatFree, wellFormed, enough,
      deep => by
      have text : charactersOfFields ((name, value) :: next :: more) ++ '\x7d' :: rest =
          stringCharacters name ++ ':' :: (value.characters ++
            ',' :: (charactersOfFields (next :: more) ++ '\x7d' :: rest)) := by
        simp [charactersOfFields]
      simp only [charactersOfFields, List.length_append, List.length_cons] at enough
      rw [text]
      by_cases deepHere : room < value.depth
      · exact tooDeep_readFields name known (tooDeep_readValue policy value _ floatFree.1
          wellFormed.1 (by omega) deepHere)
      · have shallow : value.depth ≤ room := Nat.le_of_not_lt deepHere
        have deepLater : room < depthOfFields (next :: more) :=
          (lt_max_iff.mp deep).resolve_left deepHere
        have here : readValue policy fuel room (value.characters ++
            ',' :: (charactersOfFields (next :: more) ++ '\x7d' :: rest)) =
              .ok (value, ',' :: (charactersOfFields (next :: more) ++ '\x7d' :: rest)) :=
          readValue_characters policy value floatFree.1 wellFormed.1 (by omega) shallow
            (endsNumber_cons _ rfl)
        rw [readFields_more name known here]
        exact tooDeep_fields policy next more (Fields.put name value known) rest floatFree.2
          wellFormed.2 (by omega) deepLater
end

theorem read_compact_of_deep (policy : ReadingPolicy) {value : Json} (floatFree : value.FloatFree)
    (wellFormed : value.WellFormed) (deep : policy.nesting < value.depth) :
    ∃ error, read policy value.compact = .error error ∧ error.fault = .nestedTooDeep := by
  rcases tooDeep_readValue policy value [] floatFree wellFormed
    (Nat.lt_succ_self value.characters.length) deep with ⟨stop, stopped, fault⟩
  rw [List.append_nil] at stopped
  refine ⟨stop.locate value.characters, ?_, fault⟩
  rw [read, compact, String.toList_ofList, readCharacters, stopped]

theorem isText_compact_iff {value : Json} (floatFree : value.FloatFree)
    (wellFormed : value.WellFormed) :
    isText value.compact = true ↔ value.depth ≤ textPolicy.nesting := by
  constructor
  · intro accepted
    by_contra deep
    rcases read_compact_of_deep textPolicy floatFree wellFormed (Nat.lt_of_not_le deep) with
      ⟨error, refused, _⟩
    rw [read] at refused
    rw [isText, takeWhile_compact floatFree, refused] at accepted
    cases accepted
  · exact isText_compact floatFree wellFormed

end StoreMigration.Json
