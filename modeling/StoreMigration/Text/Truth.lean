import StoreMigration.Text.Decimal
import StoreMigration.Text.Hexadecimal

/-! Truth values in texts: a few words, in letters of either case, or a number at the
start of the text, of which only the last byte counts. Any other text is false. -/

namespace StoreMigration.Text.Truth

/-! ## Numbers -/

def leadingHex : Nat → List Char → Nat
  | value, [] => value
  | value, character :: rest =>
      match hexValue character with
      | none => value
      | some digit => leadingHex (value * 16 + digit) rest

def leadingDecimal (text : List Char) : Nat :=
  Decimal.ofDigits (text.takeWhile Decimal.isDigit)

/-- The number at the start of a text. After a zero and the letter `x` it is
hexadecimal, if a digit follows. -/
def leadingNumber : List Char → Nat
  | '0' :: mark :: digit :: rest =>
      if (mark = 'x' ∨ mark = 'X') ∧ (hexValue digit).isSome then leadingHex 0 (digit :: rest)
      else leadingDecimal ('0' :: mark :: digit :: rest)
  | text => leadingDecimal text

def limit : Nat := 0x80000000

def ofNumber (value : Nat) : Bool :=
  value < limit && value % 256 ≠ 0

/-! ## Words -/

def words : List String := ["on", "yes", "true"]

def ofWord (text : List Char) : Bool :=
  words.any fun word => text.map Char.toLower = word.toList

def read (text : String) : Bool :=
  match text.toList with
  | [] => false
  | first :: rest =>
      if Decimal.isDigit first then ofNumber (leadingNumber (first :: rest))
      else ofWord (first :: rest)

example : ofNumber (leadingNumber ['0', 'x', '1', '0', 'g']) = true := by decide

example : ofNumber (leadingNumber ['2', '5', '6']) = false := by decide

example : ofWord ['Y', 'e', 's'] = true := by decide

end StoreMigration.Text.Truth
