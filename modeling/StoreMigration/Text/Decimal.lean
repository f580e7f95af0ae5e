/-! Decimal numerals: the digits of a natural number, and the reading of digit
texts as numbers of a fixed width. The main statement is `ofDigits_toDigits`:
the digits of a number read back as that number. -/

namespace StoreMigration.Text.Decimal

/-! ## Digits -/

def isDigit (character : Char) : Bool :=
  '0' ≤ character && character ≤ '9'

def digitValue (digit : Char) : Nat :=
  digit.toNat - '0'.toNat

/-- The digits of a number without superfluous zeros in front; zero is `0`. -/
def toDigits (value : Nat) : List Char :=
  Nat.toDigits 10 value

def ofDigits (digits : List Char) : Nat :=
  digits.foldl (fun value digit => value * 10 + digitValue digit) 0

example : toDigits 1024 = ['1', '0', '2', '4'] := by decide

example : ofDigits ['0', '0', '7'] = 7 := by decide

theorem ofDigits_append (digits : List Char) (last : Char) :
    ofDigits (digits ++ [last]) = ofDigits digits * 10 + digitValue last := by
  simp [ofDigits]

theorem digitValue_digitChar {value : Nat} (small : value < 10) :
    digitValue (Nat.digitChar value) = value := by
  rw [digitValue, Nat.toNat_digitChar_of_lt_ten small]
  show 48 + value - 48 = value
  omega

theorem ofDigits_toDigits (value : Nat) : ofDigits (toDigits value) = value := by
  induction value using Nat.strongRecOn with
  | ind value induction =>
      by_cases small : value < 10
      · simp [toDigits, Nat.toDigits_of_lt_base small, ofDigits, digitValue_digitChar small]
      · have split := Nat.toDigits_append_toDigits (b := 10) (n := value / 10)
          (d := value % 10) (by decide) (by omega) (by omega)
        rw [Nat.toDigits_of_lt_base (Nat.mod_lt value (by decide)),
          Nat.div_add_mod] at split
        have front := induction (value / 10) (by omega)
        rw [toDigits] at front
        rw [toDigits, ← split, ofDigits_append, front,
          digitValue_digitChar (Nat.mod_lt value (by decide))]
        omega

def text (value : Nat) : String :=
  String.ofList (toDigits value)

def integerCharacters (value : Int) : List Char :=
  if value < 0 then '-' :: toDigits value.natAbs else toDigits value.natAbs

def integerText (value : Int) : String :=
  String.ofList (integerCharacters value)

example : integerCharacters (-7) = ['-', '7'] := by decide

/-! ## Reading numbers of a fixed width -/

def readNat (characters : List Char) : Option Nat :=
  if characters.isEmpty || !characters.all isDigit then none else some (ofDigits characters)

/-- An optional single sign and digits as a 64-bit number, if it is in range. -/
def readInt64 (characters : List Char) : Option Int64 :=
  match characters with
  | '-' :: digits => (readNat digits).bind fun value =>
      if value ≤ 0x8000000000000000 then some (Int64.ofInt (-value)) else none
  | '+' :: digits => (readNat digits).bind positive
  | digits => (readNat digits).bind positive
where
  positive (value : Nat) : Option Int64 :=
    if value < 0x8000000000000000 then some (Int64.ofNat value) else none

example : readInt64 ['+', '0', '7'] = some 7 ∧ readInt64 ['-', '-', '7'] = none := by decide

end StoreMigration.Text.Decimal
