import Mathlib.Data.List.TakeWhile
import StoreMigration.Proofs.Json.RoundTrip

/-! The compact text of a value is JSON text. A reader that takes a character of zeros for
the end of a text reads all of it, because such characters are escaped. -/

namespace StoreMigration.Json

open Text

theorem zero_not_mem_escapeCharacter (character : Char) : '\x00' ∉ escapeCharacter character := by
  have noDigit : ∀ value : Nat, hexDigit value ≠ '\x00' := by
    intro value
    have every : ∀ digit < 16, Nat.digitChar digit ≠ '\x00' := by decide
    exact every (value % 16) (Nat.mod_lt value (by decide))
  rw [escapeCharacter]
  repeat' split
  all_goals try decide
  · simp [Ne.symm (noDigit _)]
  · next visible =>
      rw [List.mem_singleton]
      rintro rfl
      exact visible (by decide)

theorem zero_not_mem_stringCharacters (text : String) : '\x00' ∉ stringCharacters text := by
  simp only [stringCharacters, List.mem_cons, List.mem_append, List.mem_flatMap, List.not_mem_nil,
    or_false, not_or, not_exists, not_and]
  refine ⟨by decide, ?_, by decide⟩
  intro character _
  exact zero_not_mem_escapeCharacter character

theorem zero_not_mem_integerCharacters (value : Int) :
    '\x00' ∉ Decimal.integerCharacters value := by
  have noDigit : ∀ magnitude : Nat, '\x00' ∉ Decimal.toDigits magnitude := by
    intro magnitude member
    exact Decimal.ne_of_isDigit (Decimal.isDigit_of_mem_toDigits member) (by decide) rfl
  rw [Decimal.integerCharacters]
  split
  · rw [List.mem_cons, not_or]
    exact ⟨by decide, noDigit _⟩
  · exact noDigit _

mutual
theorem zero_not_mem_characters : ∀ value : Json, value.FloatFree → '\x00' ∉ value.characters
  | .null, _ => by simp [characters]
  | .bool true, _ => by simp [characters]
  | .bool false, _ => by simp [characters]
  | .number (.float _), floatFree => absurd floatFree (by simp [FloatFree])
  | .number (.integer value), _ => zero_not_mem_integerCharacters value
  | .string text, _ => zero_not_mem_stringCharacters text
  | .array items, floatFree => by
      have inside := zero_not_mem_charactersOfItems items floatFree
      simp [characters, inside]
  | .object fields, floatFree => by
      have inside := zero_not_mem_charactersOfFields fields floatFree
      simp [characters, inside]

theorem zero_not_mem_charactersOfItems :
    ∀ items : List Json, FloatFreeItems items → '\x00' ∉ charactersOfItems items
  | [], _ => List.not_mem_nil
  | [item], floatFree => zero_not_mem_characters item floatFree.1
  | item :: next :: more, floatFree => by
      have here := zero_not_mem_characters item floatFree.1
      have later := zero_not_mem_charactersOfItems (next :: more) floatFree.2
      simp [charactersOfItems, here, later]

theorem zero_not_mem_charactersOfFields :
    ∀ fields : Fields, FloatFreeFields fields → '\x00' ∉ charactersOfFields fields
  | [], _ => List.not_mem_nil
  | [(name, value)], floatFree => by
      have named := zero_not_mem_stringCharacters name
      have here := zero_not_mem_characters value floatFree.1
      simp [charactersOfFields, named, here]
  | (name, value) :: next :: more, floatFree => by
      have named := zero_not_mem_stringCharacters name
      have here := zero_not_mem_characters value floatFree.1
      have later := zero_not_mem_charactersOfFields (next :: more) floatFree.2
      simp [charactersOfFields, named, here, later]
end

theorem takeWhile_compact {value : Json} (floatFree : value.FloatFree) :
    value.compact.toList.takeWhile (· ≠ '\x00') = value.compact.toList := by
  rw [List.takeWhile_eq_self_iff, compact, String.toList_ofList]
  intro character member
  simp only [decide_eq_true_eq]
  rintro rfl
  exact zero_not_mem_characters value floatFree member

theorem isText_compact {value : Json} (floatFree : value.FloatFree) (wellFormed : value.WellFormed)
    (shallow : value.depth ≤ textPolicy.nesting) : isText value.compact = true := by
  have readable := read_compact textPolicy floatFree wellFormed shallow
  rw [read] at readable
  rw [isText, takeWhile_compact floatFree, readable]

end StoreMigration.Json
