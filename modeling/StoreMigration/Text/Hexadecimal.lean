/-! Hexadecimal digits, and texts in which any byte can be written as a percent sign
and two of them. -/

namespace StoreMigration.Text

def hexValue (character : Char) : Option Nat :=
  let code := character.toNat
  if 48 ≤ code ∧ code ≤ 57 then some (code - 48)
  else if 97 ≤ code ∧ code ≤ 102 then some (code - 87)
  else if 65 ≤ code ∧ code ≤ 70 then some (code - 55)
  else none

/-- The bytes of a text with escaped bytes. What looks like an escape but is none
stands for itself. -/
def percentDecode : List Char → List UInt8
  | [] => []
  | '%' :: high :: low :: rest =>
      match hexValue high, hexValue low with
      | some high, some low => UInt8.ofNat (high * 16 + low) :: percentDecode rest
      | _, _ => 0x25 :: percentDecode (high :: low :: rest)
  | character :: rest => String.utf8EncodeChar character ++ percentDecode rest

example : percentDecode ['%', '4', '1', '%', 'g', '1'] = [0x41, 0x25, 0x67, 0x31] := by decide

end StoreMigration.Text
