import StoreMigration.Json.Printer
import StoreMigration.Json.Reader
import StoreMigration.Proofs.Json.Fields
import StoreMigration.Proofs.Text.Scanning

/-! JSON values that are written read back. The main statement is `read_compact`: a value
without floating-point numbers that is not nested too deeply for the reader is what its
compact text reads as. -/

namespace StoreMigration

namespace Json

open Text

/-! ## Strings -/

theorem hexUnit_hexDigit {value : Nat} (small : value < 0x20) :
    hexUnit '0' '0' (hexDigit (value / 16)) (hexDigit value) = some value := by
  have every : ∀ value < 0x20,
      hexUnit '0' '0' (hexDigit (value / 16)) (hexDigit value) = some value := by decide
  exact every value small

theorem joinPieces_unit {value : Nat} (notHigh : isHighSurrogate value = false)
    (notLow : isLowSurrogate value = false) (policy : ReadingPolicy) (ahead : List Char)
    (more : List Piece) :
    joinPieces policy (.unit value ahead :: more) =
      (joinPieces policy more).map (Char.ofNat value :: ·) := by
  rw [joinPieces.eq_def]
  simp only [notHigh, notLow, Bool.false_eq_true, if_false]

theorem pieces_plain {character : Char} (notQuote : character ≠ '\x22')
    (notBackslash : character ≠ '\\') (notControl : ¬ character.toNat < 0x20)
    (rest : List Char) :
    pieces (character :: rest) =
      (pieces rest).map fun found => (.plain character :: found.1, found.2) := by
  have plain : (decide (character = '\\') || decide (character.toNat < 0x20)) = false := by
    simp [notBackslash, notControl]
  rw [pieces.eq_def]
  split
  · next nothing => cases nothing
  · next same => exact absurd (List.cons.inj same).1 notQuote
  · next same => exact absurd (List.cons.inj same).1 notBackslash
  · next same => exact absurd (List.cons.inj same).1 notBackslash
  · next same =>
      cases same
      rw [plain]
      rfl

theorem pieces_escapeCharacter (character : Char) (rest : List Char) :
    ∃ piece, pieces (escapeCharacter character ++ rest) =
        (pieces rest).map (fun found => (piece :: found.1, found.2)) ∧
      ∀ (policy : ReadingPolicy) (more : List Piece),
        joinPieces policy (piece :: more) = (joinPieces policy more).map (character :: ·) := by
  rw [escapeCharacter]
  split
  · next same => exact ⟨.escaped character, by subst same; rfl, fun _ _ => rfl⟩
  split
  · next same => exact ⟨.escaped character, by subst same; rfl, fun _ _ => rfl⟩
  split
  · next same => exact ⟨.escaped character, by subst same; rfl, fun _ _ => rfl⟩
  split
  · next same => exact ⟨.escaped character, by subst same; rfl, fun _ _ => rfl⟩
  split
  · next same => exact ⟨.escaped character, by subst same; rfl, fun _ _ => rfl⟩
  split
  · next same => exact ⟨.escaped character, by subst same; rfl, fun _ _ => rfl⟩
  split
  · next same => exact ⟨.escaped character, by subst same; rfl, fun _ _ => rfl⟩
  split
  · next small =>
      refine ⟨.unit character.toNat rest, ?_, ?_⟩
      · simp only [List.cons_append, List.nil_append, pieces, hexUnit_hexDigit small]
      · intro policy more
        have notHigh : isHighSurrogate character.toNat = false := by
          simp only [isHighSurrogate, Bool.and_eq_false_iff, decide_eq_false_iff_not]
          omega
        have notLow : isLowSurrogate character.toNat = false := by
          simp only [isLowSurrogate, Bool.and_eq_false_iff, decide_eq_false_iff_not]
          omega
        rw [joinPieces_unit notHigh notLow, Char.ofNat_toNat]
  · next notQuote notBackslash _ _ _ _ _ notControl =>
      exact ⟨.plain character, pieces_plain notQuote notBackslash notControl rest, fun _ _ => rfl⟩

theorem pieces_escaped (policy : ReadingPolicy) (characters rest : List Char) :
    ∃ found, pieces (characters.flatMap escapeCharacter ++ '\x22' :: rest) = .ok (found, rest) ∧
      joinPieces policy found = .ok characters := by
  induction characters with
  | nil => exact ⟨[], rfl, rfl⟩
  | cons character others induction =>
      rcases induction with ⟨found, read, joined⟩
      rcases pieces_escapeCharacter character
        (others.flatMap escapeCharacter ++ '\x22' :: rest) with ⟨piece, cut, join⟩
      refine ⟨piece :: found, ?_, ?_⟩
      · rw [List.flatMap_cons, List.append_assoc, cut, read]
        rfl
      · rw [join, joined]
        rfl

theorem readString_escaped (policy : ReadingPolicy) (text : String) (rest : List Char) :
    readString policy (text.toList.flatMap escapeCharacter ++ '\x22' :: rest) = .ok (text, rest) := by
  rcases pieces_escaped policy text.toList rest with ⟨found, read, joined⟩
  simp only [readString, read, joined, Except.map, String.ofList_toList]

/-! ## Integers -/

theorem le_foldl_digits (value : Nat) (digits : List Char) :
    value ≤ digits.foldl (fun value digit => value * 10 + Decimal.digitValue digit) value := by
  induction digits generalizing value with
  | nil => exact Nat.le_refl value
  | cons digit rest induction =>
      have next := induction (value * 10 + Decimal.digitValue digit)
      rw [List.foldl_cons]
      omega

theorem accumulate_of_fits {value : Nat} {digits : List Char}
    (fits : digits.foldl (fun value digit => value * 10 + Decimal.digitValue digit) value <
      UInt64.size) :
    accumulate value digits =
      (digits.foldl (fun value digit => value * 10 + Decimal.digitValue digit) value, 0) := by
  induction digits generalizing value with
  | nil => rfl
  | cons digit rest induction =>
      have next := le_foldl_digits (value * 10 + Decimal.digitValue digit) rest
      rw [List.foldl_cons] at fits ⊢
      rw [accumulate, if_pos (Nat.lt_of_le_of_lt next fits)]
      exact induction fits

theorem accumulate_toDigits {value : Nat} (fits : value < UInt64.size) :
    accumulate 0 (Decimal.toDigits value) = (value, 0) := by
  have back := Decimal.ofDigits_toDigits value
  rw [Decimal.ofDigits] at back
  have taken : accumulate 0 (Decimal.toDigits value) = _ :=
    accumulate_of_fits (by rw [back]; exact fits)
  rw [taken, back]

/-- What can follow a number: nothing that would go on with it. -/
def EndsNumber (rest : List Char) : Prop :=
  EndsRun (fun character => Decimal.isDigit character || character = '.' || character = 'e' ||
    character = 'E') rest

theorem spanDigits_toDigits (value : Nat) {rest : List Char} (ends : EndsNumber rest) :
    spanDigits (Decimal.toDigits value ++ rest) = (Decimal.toDigits value, rest) := by
  have digits : ∀ character ∈ Decimal.toDigits value, Decimal.isDigit character = true :=
    fun _ member => Decimal.isDigit_of_mem_toDigits member
  have noDigit : EndsRun Decimal.isDigit rest := by
    intro first here
    have other := ends first here
    simp only [Bool.or_eq_false_iff] at other
    exact other.1.1.1
  rw [spanDigits, takeWhile_append_of_endsRun digits noDigit,
    dropWhile_append_of_endsRun digits noDigit]

theorem readMagnitude_toDigits (policy : ReadingPolicy) (negative : Bool) {value : Nat}
    (fits : value < UInt64.size) {rest : List Char} (ends : EndsNumber rest) :
    readMagnitude policy negative (Decimal.toDigits value ++ rest) =
      wholeNumber policy negative value 0 rest := by
  have canonical : ((Decimal.toDigits value).isEmpty ||
      ((Decimal.toDigits value).head? == some '0' &&
        decide ((Decimal.toDigits value).length > 1))) = false := by
    have nonempty := Decimal.toDigits_ne_nil value
    have short := @Decimal.length_toDigits_of_head value
    simp only [Bool.or_eq_false_iff, List.isEmpty_eq_false_iff, Bool.and_eq_false_iff,
      beq_eq_false_iff_ne, decide_eq_false_iff_not]
    refine ⟨nonempty, ?_⟩
    by_cases zero : (Decimal.toDigits value).head? = some '0'
    · exact .inr (by rw [short zero]; omega)
    · exact .inl zero
  simp only [readMagnitude, spanDigits_toDigits value ends, canonical, accumulate_toDigits fits,
    Bool.false_eq_true, if_false]
  cases rest with
  | nil => rfl
  | cons first others =>
      have other := ends first rfl
      simp only [Bool.or_eq_false_iff, decide_eq_false_iff_not] at other
      split
      · next same => exact absurd (List.cons.inj same).1 other.1.1.2
      · next same => exact absurd (List.cons.inj same).1 other.1.2
      · next same => exact absurd (List.cons.inj same).1 other.2
      · rfl

theorem readNumber_integerCharacters (policy : ReadingPolicy) {value : Int}
    (fits : JsonNumberFits (.integer value)) {rest : List Char} (ends : EndsNumber rest) :
    readNumber policy (Decimal.integerCharacters value ++ rest) = .ok (.integer value, rest) := by
  rcases fits with ⟨low, high⟩
  have size : UInt64.size = 0x10000000000000000 := rfl
  rw [Decimal.integerCharacters]
  by_cases negative : value < 0
  · rw [if_pos negative, List.cons_append, readNumber,
      readMagnitude_toDigits policy true (by omega) ends]
    have positive : (decide (0 < value.natAbs) && decide (value.natAbs ≤ 0x8000000000000000)) =
        true := by
      simp only [Bool.and_eq_true, decide_eq_true_eq]
      omega
    have back : -(value.natAbs : Int) = value := by omega
    simp only [wholeNumber, positive, back]
    rfl
  · rw [if_neg negative]
    have unsigned : readNumber policy (Decimal.toDigits value.natAbs ++ rest) =
        readMagnitude policy false (Decimal.toDigits value.natAbs ++ rest) := by
      rcases Decimal.exists_toDigits_eq_cons value.natAbs with ⟨first, others, digits, digit⟩
      rw [digits, List.cons_append, readNumber]
      intro rest same
      exact Decimal.ne_of_isDigit digit rfl (List.cons.inj same).1
    have back : (value.natAbs : Int) = value := by omega
    rw [unsigned, readMagnitude_toDigits policy false (by omega) ends]
    simp only [wholeNumber, back]
    rfl

/-! ## Where a value begins -/

theorem skipLayout_cons {first : Char} (rest : List Char) (visible : isLayout first = false) :
    skipLayout (first :: rest) = first :: rest := by
  rw [skipLayout, List.dropWhile_cons_of_neg]
  simp [visible]

/-- What the text of a value begins with: neither white space nor the end of an array. -/
def Begins (first : Char) : Prop :=
  isLayout first = false ∧ first ≠ ']'

instance (first : Char) : Decidable (Begins first) :=
  inferInstanceAs (Decidable (_ ∧ _))

theorem begins_of_isDigit {first : Char} (digit : Decimal.isDigit first = true) : Begins first := by
  refine ⟨?_, ?_⟩
  · simp only [isLayout, Bool.or_eq_false_iff, decide_eq_false_iff_not]
    refine ⟨⟨⟨?_, ?_⟩, ?_⟩, ?_⟩ <;> exact Decimal.ne_of_isDigit digit rfl
  · exact Decimal.ne_of_isDigit digit rfl

theorem exists_integerCharacters_eq_cons (value : Int) :
    ∃ first others, Decimal.integerCharacters value = first :: others ∧
      (first = '-' ∨ Decimal.isDigit first = true) := by
  rw [Decimal.integerCharacters]
  split
  · exact ⟨'-', Decimal.toDigits value.natAbs, rfl, .inl rfl⟩
  · rcases Decimal.exists_toDigits_eq_cons value.natAbs with ⟨first, others, digits, digit⟩
    exact ⟨first, others, digits, .inr digit⟩

theorem exists_characters_eq_cons {value : Json} (floatFree : value.FloatFree) :
    ∃ first others, value.characters = first :: others ∧ Begins first := by
  cases value with
  | null => exact ⟨_, _, rfl, by decide⟩
  | bool value => cases value <;> exact ⟨_, _, rfl, by decide⟩
  | string text => exact ⟨_, _, rfl, by decide⟩
  | array items => exact ⟨_, _, rfl, by decide⟩
  | object fields => exact ⟨_, _, rfl, by decide⟩
  | number value =>
      cases value with
      | float value => exact absurd floatFree (by simp [FloatFree])
      | integer value =>
          rcases exists_integerCharacters_eq_cons value with ⟨first, others, same, sign | digit⟩
          · exact ⟨first, others, same, by rw [sign]; decide⟩
          · exact ⟨first, others, same, begins_of_isDigit digit⟩

theorem readValue_integer (policy : ReadingPolicy) {value : Int}
    (fits : JsonNumberFits (.integer value)) (fuel room : Nat) {rest : List Char}
    (ends : EndsNumber rest) :
    readValue policy (fuel + 1) room (Decimal.integerCharacters value ++ rest) =
      .ok (.number (.integer value), rest) := by
  have number := readNumber_integerCharacters policy fits ends
  rcases exists_integerCharacters_eq_cons value with ⟨first, others, same, kind⟩
  have apart : ∀ other, Decimal.isDigit other = false → other ≠ '-' → first ≠ other := by
    intro other noDigit noSign
    rcases kind with rfl | digit
    · exact noSign.symm
    · exact Decimal.ne_of_isDigit digit noDigit
  have visible : isLayout first = false := by
    rcases kind with rfl | digit
    · rfl
    · exact (begins_of_isDigit digit).1
  rw [same, List.cons_append] at number ⊢
  rw [readValue, skipLayout_cons _ visible]
  split
  · next here => exact absurd (List.cons.inj here).1 (apart 'n' rfl (by decide))
  · next here => exact absurd (List.cons.inj here).1 (apart 't' rfl (by decide))
  · next here => exact absurd (List.cons.inj here).1 (apart 'f' rfl (by decide))
  · next here => exact absurd (List.cons.inj here).1 (apart '\x22' rfl (by decide))
  · next here => exact absurd (List.cons.inj here).1 (apart '[' rfl (by decide))
  · next here => exact absurd (List.cons.inj here).1 (apart '\x7b' rfl (by decide))
  · rw [number]
    rfl

/-! ## One step of each reader -/

theorem readValue_array (policy : ReadingPolicy) (fuel room : Nat) {first : Char}
    (inside : List Char) (begins : Begins first) :
    readValue policy (fuel + 1) (room + 1) ('[' :: first :: inside) =
      (readItems policy fuel room (first :: inside)).map fun found =>
        (.array found.1, found.2) := by
  rw [readValue, skipLayout_cons _ rfl]
  simp only [skipLayout_cons _ begins.1]
  split
  · next here => exact absurd (List.cons.inj here).1 begins.2
  · rfl

theorem readItems_last {policy : ReadingPolicy} {item : Json} {fuel room : Nat}
    {characters rest : List Char}
    (read : readValue policy fuel room characters = .ok (item, ']' :: rest)) :
    readItems policy (fuel + 1) room characters = .ok ([item], rest) := by
  simp only [readItems, read, skipLayout_cons rest (show isLayout ']' = false from rfl)]

theorem readItems_more {policy : ReadingPolicy} {item : Json} {fuel room : Nat}
    {characters more : List Char}
    (read : readValue policy fuel room characters = .ok (item, ',' :: more)) :
    readItems policy (fuel + 1) room characters =
      (readItems policy fuel room more).map fun found => (item :: found.1, found.2) := by
  simp only [readItems, read, skipLayout_cons more (show isLayout ',' = false from rfl)]

theorem readValue_object (policy : ReadingPolicy) (fuel room : Nat) (inside : List Char) :
    readValue policy (fuel + 1) (room + 1) ('\x7b' :: '\x22' :: inside) =
      (readFields policy fuel room [] ('\x22' :: inside)).map fun found =>
        (.object found.1, found.2) := by
  rw [readValue, skipLayout_cons _ rfl]
  simp only [skipLayout_cons inside (show isLayout '\x22' = false from rfl)]
  split
  · next here => exact absurd (List.cons.inj here).1 (by decide)
  · rfl

theorem stringCharacters_append (text : String) (rest : List Char) :
    stringCharacters text ++ rest =
      '\x22' :: (text.toList.flatMap escapeCharacter ++ '\x22' :: rest) := by
  simp [stringCharacters]

theorem readFields_last {policy : ReadingPolicy} (name : String) {value : Json} {fuel room : Nat}
    (known : Fields) {inside rest : List Char}
    (read : readValue policy fuel room inside = .ok (value, '\x7d' :: rest)) :
    readFields policy (fuel + 1) room known (stringCharacters name ++ ':' :: inside) =
      .ok (Fields.put name value known, rest) := by
  rw [stringCharacters_append, readFields, skipLayout_cons _ rfl]
  simp only [readString_escaped, skipLayout_cons inside (show isLayout ':' = false from rfl), read,
    skipLayout_cons rest (show isLayout '\x7d' = false from rfl)]

theorem readFields_more {policy : ReadingPolicy} (name : String) {value : Json}
    {fuel room : Nat} (known : Fields) {inside more : List Char}
    (read : readValue policy fuel room inside = .ok (value, ',' :: more)) :
    readFields policy (fuel + 1) room known (stringCharacters name ++ ':' :: inside) =
      readFields policy fuel room (Fields.put name value known) more := by
  rw [stringCharacters_append, readFields, skipLayout_cons _ rfl]
  simp only [readString_escaped, skipLayout_cons inside (show isLayout ':' = false from rfl), read,
    skipLayout_cons more (show isLayout ',' = false from rfl)]

theorem endsNumber_cons {first : Char} (rest : List Char)
    (other : (Decimal.isDigit first || first = '.' || first = 'e' || first = 'E') = false) :
    EndsNumber (first :: rest) := by
  intro head here
  cases here
  exact other

/-! ## Whole values -/

theorem length_characters_pos {value : Json} (floatFree : value.FloatFree) :
    0 < value.characters.length := by
  rcases exists_characters_eq_cons floatFree with ⟨first, others, same, _⟩
  rw [same]
  exact Nat.succ_pos others.length

theorem exists_charactersOfItems_eq_cons {item : Json} (floatFree : item.FloatFree)
    (more : List Json) :
    ∃ first others, charactersOfItems (item :: more) = first :: others ∧ Begins first := by
  rcases exists_characters_eq_cons floatFree with ⟨first, others, same, begins⟩
  cases more with
  | nil => exact ⟨first, others, same, begins⟩
  | cons next rest =>
      refine ⟨first, others ++ ',' :: charactersOfItems (next :: rest), ?_, begins⟩
      rw [charactersOfItems, same, List.cons_append]

theorem exists_charactersOfFields_eq_cons (field : String × Json) (more : Fields) :
    ∃ others, charactersOfFields (field :: more) = '\x22' :: others := by
  rcases field with ⟨name, value⟩
  cases more with
  | nil => exact ⟨_, rfl⟩
  | cons next rest => exact ⟨_, rfl⟩

/- A value reads back wherever its text stands, whatever follows that does not go on with a
number. One unit of fuel is used for each value and each separator, and both have a
character of their own. -/
mutual
theorem readValue_characters (policy : ReadingPolicy) :
    ∀ (value : Json) {fuel room : Nat} {rest : List Char}, value.FloatFree → value.WellFormed →
      value.characters.length < fuel → value.depth ≤ room → EndsNumber rest →
      readValue policy fuel room (value.characters ++ rest) = .ok (value, rest)
  | .null, fuel + 1, _, _, _, _, _, _, _ => rfl
  | .bool true, fuel + 1, _, _, _, _, _, _, _ => rfl
  | .bool false, fuel + 1, _, _, _, _, _, _, _ => rfl
  | .number (.float _), _, _, _, floatFree, _, _, _, _ => absurd floatFree (by simp [FloatFree])
  | .number (.integer value), fuel + 1, room, _, _, fits, _, _, ends =>
      readValue_integer policy fits fuel room ends
  | .string text, fuel + 1, _, rest, _, _, _, _, _ => by
      rw [characters, stringCharacters_append, readValue, skipLayout_cons _ rfl]
      simp only [readString_escaped]
      rfl
  | .array [], fuel + 1, room + 1, _, _, _, _, _, _ => rfl
  -- The bracket takes one of the fuel and one of the room; the items share what is left.
  | .array (item :: more), fuel + 1, room + 1, rest, floatFree, wellFormed, enough, shallow, _ => by
      rcases exists_charactersOfItems_eq_cons floatFree.1 more with ⟨first, others, same, begins⟩
      have text : (array (item :: more)).characters ++ rest =
          '[' :: (charactersOfItems (item :: more) ++ ']' :: rest) := by simp [characters]
      have fuelled : (charactersOfItems (item :: more)).length + 1 < fuel := by
        simp only [characters, List.length_cons, List.length_append, List.length_nil] at enough
        omega
      have inside := readItems_characters policy item more rest floatFree wellFormed fuelled
        (Nat.le_of_succ_le_succ shallow)
      rw [text]
      rw [same] at inside ⊢
      rw [List.cons_append] at inside ⊢
      rw [readValue_array policy fuel room _ begins, inside]
      rfl
  | .object [], fuel + 1, room + 1, _, _, _, _, _, _ => rfl
  | .object (field :: more), fuel + 1, room + 1, rest, floatFree, wellFormed, enough, shallow, _ => by
      rcases exists_charactersOfFields_eq_cons field more with ⟨others, same⟩
      have text : (object (field :: more)).characters ++ rest =
          '\x7b' :: (charactersOfFields (field :: more) ++ '\x7d' :: rest) := by simp [characters]
      have fuelled : (charactersOfFields (field :: more)).length + 1 < fuel := by
        simp only [characters, List.length_cons, List.length_append, List.length_nil] at enough
        omega
      have inside := readFields_characters policy field more [] rest floatFree wellFormed.2
        wellFormed.1 fuelled (Nat.le_of_succ_le_succ shallow)
      rw [text]
      rw [same] at inside ⊢
      rw [List.cons_append] at inside ⊢
      rw [readValue_object, inside]
      rfl

theorem readItems_characters (policy : ReadingPolicy) :
    ∀ (item : Json) (more : List Json) {fuel room : Nat} (rest : List Char),
      FloatFreeItems (item :: more) → WellFormedItems (item :: more) →
      (charactersOfItems (item :: more)).length + 1 < fuel → depthOfItems (item :: more) ≤ room →
      readItems policy fuel room (charactersOfItems (item :: more) ++ ']' :: rest) =
        .ok (item :: more, rest)
  | item, [], fuel + 1, room, rest, floatFree, wellFormed, enough, shallow => by
      refine readItems_last ?_
      exact readValue_characters policy item floatFree.1 wellFormed.1 (Nat.lt_of_succ_lt_succ enough)
        (Nat.le_trans (Nat.le_max_left _ _) shallow) (endsNumber_cons rest rfl)
  | item, next :: more, fuel + 1, room, rest, floatFree, wellFormed, enough, shallow => by
      have text : charactersOfItems (item :: next :: more) ++ ']' :: rest =
          item.characters ++ ',' :: (charactersOfItems (next :: more) ++ ']' :: rest) := by
        simp [charactersOfItems]
      have depths := Nat.max_le.mp shallow
      have some := length_characters_pos floatFree.1
      simp only [charactersOfItems, List.length_append, List.length_cons] at enough
      have here : readValue policy fuel room
          (item.characters ++ ',' :: (charactersOfItems (next :: more) ++ ']' :: rest)) =
            .ok (item, ',' :: (charactersOfItems (next :: more) ++ ']' :: rest)) :=
        readValue_characters policy item floatFree.1 wellFormed.1 (by omega) depths.1
          (endsNumber_cons _ rfl)
      have later : readItems policy fuel room (charactersOfItems (next :: more) ++ ']' :: rest) =
          .ok (next :: more, rest) :=
        readItems_characters policy next more rest floatFree.2 wellFormed.2 (by omega) depths.2
      rw [text, readItems_more here, later]
      rfl

theorem readFields_characters (policy : ReadingPolicy) :
    ∀ (field : String × Json) (more known : Fields) {fuel room : Nat} (rest : List Char),
      FloatFreeFields (field :: more) → WellFormedFields (field :: more) →
      ((known ++ field :: more).map Prod.fst).Nodup →
      (charactersOfFields (field :: more)).length + 1 < fuel →
      depthOfFields (field :: more) ≤ room →
      readFields policy fuel room known (charactersOfFields (field :: more) ++ '\x7d' :: rest) =
        .ok (known ++ field :: more, rest)
  | (name, value), [], known, fuel + 1, room, rest, floatFree, wellFormed, distinct, enough,
      shallow => by
      have text : charactersOfFields [(name, value)] ++ '\x7d' :: rest =
          stringCharacters name ++ ':' :: (value.characters ++ '\x7d' :: rest) := by
        simp [charactersOfFields]
      simp only [charactersOfFields, List.length_append, List.length_cons] at enough
      have here : readValue policy fuel room (value.characters ++ '\x7d' :: rest) =
          .ok (value, '\x7d' :: rest) :=
        readValue_characters policy value floatFree.1 wellFormed.1 (by omega)
          (Nat.max_le.mp shallow).1 (endsNumber_cons _ rfl)
      rw [text, readFields_last name known here, Fields.put_of_distinct distinct]
  | (name, value), next :: more, known, fuel + 1, room, rest, floatFree, wellFormed, distinct,
      enough, shallow => by
      have text : charactersOfFields ((name, value) :: next :: more) ++ '\x7d' :: rest =
          stringCharacters name ++ ':' :: (value.characters ++
            ',' :: (charactersOfFields (next :: more) ++ '\x7d' :: rest)) := by
        simp [charactersOfFields]
      have put := Fields.put_of_distinct distinct
      have gathered : known ++ (name, value) :: next :: more =
          known ++ [(name, value)] ++ next :: more := by simp
      have depths := Nat.max_le.mp shallow
      simp only [charactersOfFields, List.length_append, List.length_cons] at enough
      have here : readValue policy fuel room (value.characters ++
          ',' :: (charactersOfFields (next :: more) ++ '\x7d' :: rest)) =
            .ok (value, ',' :: (charactersOfFields (next :: more) ++ '\x7d' :: rest)) :=
        readValue_characters policy value floatFree.1 wellFormed.1 (by omega) depths.1
          (endsNumber_cons _ rfl)
      -- The field that was read joins the known ones, and the names are distinct as before.
      rw [gathered] at distinct ⊢
      have later : readFields policy fuel room (Fields.put name value known)
          (charactersOfFields (next :: more) ++ '\x7d' :: rest) =
            .ok (known ++ [(name, value)] ++ next :: more, rest) := by
        rw [put]
        exact readFields_characters policy next more (known ++ [(name, value)]) rest floatFree.2
          wellFormed.2 distinct (by omega) depths.2
      rw [text, readFields_more name known here]
      exact later
end

theorem read_compact (policy : ReadingPolicy) {value : Json} (floatFree : value.FloatFree)
    (wellFormed : value.WellFormed) (shallow : value.depth ≤ policy.nesting) :
    read policy value.compact = .ok value := by
  have nothing : EndsNumber [] := fun first here => nomatch here
  have whole : readValue policy (value.characters.length + 1) policy.nesting value.characters =
      .ok (value, []) := by
    have readable := readValue_characters policy value floatFree wellFormed
      (Nat.lt_succ_self value.characters.length) shallow nothing
    rwa [List.append_nil] at readable
  rw [read, compact, String.toList_ofList, readCharacters, whole]
  rfl

end Json

end StoreMigration
