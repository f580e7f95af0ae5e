import StoreMigration.Text.Blank
import StoreMigration.Text.Decimal
import StoreMigration.Text.Split

/-! Scanning texts that were put together. A run of characters ends where the next text
begins, parts that are joined by a separator are split apart again, and a numeral is
digits without a zero in front. -/

namespace StoreMigration.Text

theorem of_bind_eq_ok {reader : Except ε α} {rest : α → Except ε β} {result : β}
    (accepted : reader >>= rest = .ok result) :
    ∃ value, reader = .ok value ∧ rest value = .ok result := by
  cases reader with
  | error cause => cases accepted
  | ok value => exact ⟨value, rfl, accepted⟩

section Runs

variable {holds : Char → Bool} {front rest : List Char}

def EndsRun (holds : Char → Bool) (rest : List Char) : Prop :=
  ∀ first, rest.head? = some first → holds first = false

theorem takeWhile_append_of_endsRun (all : ∀ character ∈ front, holds character = true)
    (ends : EndsRun holds rest) : (front ++ rest).takeWhile holds = front := by
  rw [List.takeWhile_append_of_pos all]
  cases rest with
  | nil => simp
  | cons first others => simp [ends first rfl]

theorem dropWhile_append_of_endsRun (all : ∀ character ∈ front, holds character = true)
    (ends : EndsRun holds rest) : (front ++ rest).dropWhile holds = rest := by
  rw [List.dropWhile_append_of_pos all]
  cases rest with
  | nil => simp
  | cons first others => simp [ends first rfl]

/-- Two runs that are followed by the same kind of end are the same, and so is what
comes after them. -/
theorem append_inj_of_endsRun {other after : List Char}
    (all : ∀ character ∈ front, holds character = true) (ends : EndsRun holds rest)
    (allOther : ∀ character ∈ other, holds character = true) (endsOther : EndsRun holds after)
    (same : front ++ rest = other ++ after) : front = other ∧ rest = after := by
  have runs := congrArg (List.takeWhile holds) same
  have rests := congrArg (List.dropWhile holds) same
  rw [takeWhile_append_of_endsRun all ends, takeWhile_append_of_endsRun allOther endsOther] at runs
  rw [dropWhile_append_of_endsRun all ends, dropWhile_append_of_endsRun allOther endsOther] at rests
  exact ⟨runs, rests⟩

theorem endsRun_dropWhile (characters : List Char) :
    EndsRun holds (characters.dropWhile holds) := by
  intro first here
  have stopped := List.head?_dropWhile_not holds characters
  rw [here] at stopped
  simpa using stopped

end Runs

/-! ## White space around a text -/

theorem exists_eq_trimCharacters (characters : List Char) :
    ∃ front back, (∀ character ∈ front, isBlank character = true) ∧
      (∀ character ∈ back, isBlank character = true) ∧
      characters = front ++ (trimCharacters characters ++ back) := by
  have blank : ∀ text : List Char, ∀ character ∈ text.takeWhile isBlank,
      isBlank character = true :=
    fun text => List.all_eq_true.mp List.all_takeWhile
  refine ⟨characters.takeWhile isBlank,
    ((trimStart characters).reverse.takeWhile isBlank).reverse, blank characters, ?_, ?_⟩
  · intro character member
    exact blank _ character (List.mem_reverse.mp member)
  · have ends : trimCharacters characters ++
        ((trimStart characters).reverse.takeWhile isBlank).reverse = trimStart characters := by
      rw [trimCharacters, trimEnd, ← List.reverse_append, List.takeWhile_append_dropWhile,
        List.reverse_reverse]
    rw [ends, trimStart, List.takeWhile_append_dropWhile]

theorem trimCharacters_append {front body back : List Char}
    (blankFront : ∀ character ∈ front, isBlank character = true)
    (blankBack : ∀ character ∈ back, isBlank character = true)
    (nonempty : body ≠ []) (solid : ∀ character ∈ body, isBlank character = false) :
    trimCharacters (front ++ (body ++ back)) = body := by
  have starts : EndsRun isBlank (body ++ back) := by
    intro first here
    cases body with
    | nil => exact absurd rfl nonempty
    | cons start others =>
        cases here
        exact solid first List.mem_cons_self
  have stops : EndsRun isBlank body.reverse := by
    intro last here
    exact solid last (List.mem_reverse.mp (List.mem_of_head? here))
  have blankReverse : ∀ character ∈ back.reverse, isBlank character = true := by
    intro character member
    exact blankBack character (List.mem_reverse.mp member)
  rw [trimCharacters, trimStart, dropWhile_append_of_endsRun blankFront starts, trimEnd,
    List.reverse_append, dropWhile_append_of_endsRun blankReverse stops, List.reverse_reverse]

/-! ## Parts between separators -/

theorem splitAt_of_not_mem {separator : Char} {part : List Char} (absent : separator ∉ part) :
    splitAt separator part = [part] := by
  induction part with
  | nil => rfl
  | cons character rest induction =>
      have different : character ≠ separator := by
        rintro rfl
        exact absent List.mem_cons_self
      have absentLater : separator ∉ rest := fun member =>
        absent (List.mem_cons_of_mem character member)
      rw [splitAt, if_neg different, induction absentLater]

theorem splitAt_append {separator : Char} {part : List Char} (absent : separator ∉ part)
    (rest : List Char) :
    splitAt separator (part ++ separator :: rest) = part :: splitAt separator rest := by
  induction part with
  | nil => rw [List.nil_append, splitAt, if_pos rfl]
  | cons character others induction =>
      have different : character ≠ separator := by
        rintro rfl
        exact absent List.mem_cons_self
      have absentLater : separator ∉ others := fun member =>
        absent (List.mem_cons_of_mem character member)
      rw [List.cons_append, splitAt, if_neg different, induction absentLater]

theorem splitAt_joinWith {separator : Char} {parts : List (List Char)} (some : parts ≠ [])
    (absent : ∀ part ∈ parts, separator ∉ part) :
    splitAt separator (joinWith separator parts) = parts := by
  induction parts with
  | nil => exact absurd rfl some
  | cons part rest induction =>
      have absentHere : separator ∉ part := absent part List.mem_cons_self
      cases rest with
      | nil => exact splitAt_of_not_mem absentHere
      | cons next others =>
          have later := induction (List.cons_ne_nil next others) fun other member =>
            absent other (List.mem_cons_of_mem part member)
          rw [joinWith, splitAt_append absentHere, later]

theorem mem_joinWith {separator character : Char} {parts : List (List Char)}
    (member : character ∈ joinWith separator parts) :
    character = separator ∨ ∃ part ∈ parts, character ∈ part := by
  induction parts with
  | nil => cases member
  | cons part rest induction =>
      cases rest with
      | nil => exact .inr ⟨part, List.mem_cons_self, member⟩
      | cons next others =>
          rw [joinWith] at member
          rcases List.mem_append.mp member with here | later
          · exact .inr ⟨part, List.mem_cons_self, here⟩
          · rcases List.mem_cons.mp later with same | later
            · exact .inl same
            · rcases induction later with same | ⟨other, inRest, inPart⟩
              · exact .inl same
              · exact .inr ⟨other, List.mem_cons_of_mem part inRest, inPart⟩

/-! ## Numerals -/

namespace Decimal

theorem isDigit_of_mem_toDigits {value : Nat} {character : Char}
    (member : character ∈ toDigits value) : isDigit character = true := by
  have digit := Nat.isDigit_of_mem_toDigits (by decide) (by decide) member
  simp only [Char.isDigit, ge_iff_le, Bool.and_eq_true, decide_eq_true_eq] at digit
  simp only [isDigit, Bool.and_eq_true, decide_eq_true_eq]
  exact digit

theorem toDigits_ne_nil (value : Nat) : toDigits value ≠ [] := Nat.toDigits_ne_nil

theorem ne_of_isDigit {character other : Char} (digit : isDigit character = true)
    (noDigit : isDigit other = false) : character ≠ other := by
  rintro rfl
  exact Bool.noConfusion (digit.symm.trans noDigit)

theorem exists_toDigits_eq_cons (value : Nat) :
    ∃ first others, toDigits value = first :: others ∧ isDigit first = true := by
  cases digits : toDigits value with
  | nil => exact absurd digits (toDigits_ne_nil value)
  | cons first others =>
      have member : first ∈ toDigits value := by
        rw [digits]
        exact List.mem_cons_self
      exact ⟨first, others, rfl, isDigit_of_mem_toDigits member⟩

theorem head_toDigits {value : Nat} (positive : 0 < value) :
    (toDigits value).head? ≠ some '0' := by
  induction value using Nat.strongRecOn with
  | ind value induction =>
      by_cases small : value < 10
      · rw [toDigits, Nat.toDigits_of_lt_base small]
        intro zero
        have digit : value.digitChar = '0' := Option.some.inj zero
        have back := digitValue_digitChar small
        rw [digit] at back
        simp only [digitValue] at back
        omega
      · have front := induction (value / 10) (by omega) (by omega)
        rw [toDigits, Nat.toDigits_of_base_le (by decide) (by omega)]
        cases digits : Nat.toDigits 10 (value / 10) with
        | nil => exact absurd digits (toDigits_ne_nil (value / 10))
        | cons first others =>
            rw [toDigits, digits] at front
            exact front

theorem length_toDigits_of_head {value : Nat} (zero : (toDigits value).head? = some '0') :
    (toDigits value).length = 1 := by
  have nothing : value = 0 := by
    refine Nat.eq_zero_of_not_pos fun positive => ?_
    exact head_toDigits positive zero
  rw [nothing]
  rfl

theorem digitChar_digitValue {digit : Char} (isOne : isDigit digit = true) :
    Nat.digitChar (digitValue digit) = digit ∧ digitValue digit < 10 := by
  have bounds : '0'.toNat ≤ digit.toNat ∧ digit.toNat ≤ '9'.toNat := by
    simp only [isDigit, Bool.and_eq_true, decide_eq_true_eq] at isOne
    exact isOne
  have range : 48 ≤ digit.toNat ∧ digit.toNat ≤ 57 := bounds
  have small : digitValue digit < 10 := by
    show digit.toNat - 48 < 10
    omega
  refine ⟨Char.toNat_inj.mp ?_, small⟩
  rw [Nat.toNat_digitChar_of_lt_ten small]
  show 48 + (digit.toNat - 48) = digit.toNat
  omega

theorem toDigits_step {value : Nat} (positive : 0 < value) {digit : Char}
    (isOne : isDigit digit = true) :
    toDigits (value * 10 + digitValue digit) = toDigits value ++ [digit] := by
  obtain ⟨back, small⟩ := digitChar_digitValue isOne
  have front : (value * 10 + digitValue digit) / 10 = value := by omega
  have last : (value * 10 + digitValue digit) % 10 = digitValue digit := by omega
  rw [toDigits, Nat.toDigits_of_base_le (by decide) (by omega), front, last, back, toDigits]

theorem toDigits_foldl {start : Nat} (positive : 0 < start) {digits : List Char}
    (all : ∀ digit ∈ digits, isDigit digit = true) :
    toDigits (digits.foldl (fun value digit => value * 10 + digitValue digit) start) =
      toDigits start ++ digits := by
  induction digits generalizing start with
  | nil => simp
  | cons digit rest induction =>
      have isOne : isDigit digit = true := all digit List.mem_cons_self
      have grown : 0 < start * 10 + digitValue digit := by omega
      have later := induction grown fun other member =>
        all other (List.mem_cons_of_mem digit member)
      rw [List.foldl_cons, later, toDigits_step positive isOne, List.append_assoc,
        List.singleton_append]

theorem toDigits_ofDigits {digits : List Char} (nonempty : digits ≠ [])
    (all : ∀ digit ∈ digits, isDigit digit = true)
    (front : digits.head? = some '0' → digits.length = 1) :
    toDigits (ofDigits digits) = digits := by
  cases digits with
  | nil => exact absurd rfl nonempty
  | cons first rest =>
      have isOne : isDigit first = true := all first List.mem_cons_self
      have allRest : ∀ digit ∈ rest, isDigit digit = true := fun digit member =>
        all digit (List.mem_cons_of_mem first member)
      obtain ⟨back, small⟩ := digitChar_digitValue isOne
      have single : toDigits (digitValue first) = [first] := by
        rw [toDigits, Nat.toDigits_of_lt_base small, back]
      have whole : ofDigits (first :: rest) =
          rest.foldl (fun value digit => value * 10 + digitValue digit) (digitValue first) := by
        simp [ofDigits]
      rw [whole]
      by_cases zero : digitValue first = 0
      · -- A zero in front stands alone, by the condition on the front.
        have same : first = '0' := by
          rw [zero] at back
          exact back.symm
        have alone : (first :: rest).length = 1 := front (by rw [same]; rfl)
        have nothing : rest = [] := by simpa using alone
        rw [nothing, List.foldl_nil, single]
      · rw [toDigits_foldl (by omega) allRest, single, List.singleton_append]

end Decimal

end StoreMigration.Text
