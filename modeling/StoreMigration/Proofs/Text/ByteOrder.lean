import StoreMigration.Text.Utf8
import Mathlib.Tactic.SplitIfs

/-! Texts are ordered alike by their characters and by their bytes. The first byte of a
character tells how many bytes it has, and a longer one starts with a greater byte, so two
characters are told apart by the first byte in which they differ. -/

namespace StoreMigration.Text.Utf8

theorem ofNat_cons_lt_iff {left right : Nat} (leftSmall : left < 256) (rightSmall : right < 256)
    (rest others : List UInt8) :
    UInt8.ofNat left :: rest < UInt8.ofNat right :: others ↔
      left < right ∨ left = right ∧ rest < others := by
  rw [List.cons_lt_cons_iff, UInt8.lt_iff_toNat_lt, ← UInt8.toNat_inj,
    UInt8.toNat_ofNat_of_lt' leftSmall, UInt8.toNat_ofNat_of_lt' rightSmall]

theorem number_lt (character : Char) : character.val.toNat < 0x110000 := by
  rcases character.valid with low | high
  · exact Nat.lt_trans low (by decide)
  · exact high.2

/-- The bytes of two characters differ before either of them ends, so what follows them does
not matter. -/
theorem utf8EncodeChar_append_lt {left right : Char} (less : left < right)
    (rest others : List UInt8) :
    String.utf8EncodeChar left ++ rest < String.utf8EncodeChar right ++ others := by
  have numbers : left.val.toNat < right.val.toNat := less
  have bounded := number_lt right
  rw [String.utf8EncodeChar, String.utf8EncodeChar]
  generalize left.val.toNat = low at numbers
  generalize right.val.toNat = high at numbers bounded
  have twice (number : Nat) : number / 4096 = number / 64 / 64 := by omega
  have thrice (number : Nat) : number / 262144 = number / 64 / 64 / 64 := by omega
  split_ifs
  all_goals
    simp only [List.cons_append, twice, thrice]
    repeat rw [ofNat_cons_lt_iff (by omega) (by omega)]
    omega

theorem encode_cons (character : Char) (rest : List Char) :
    encode (character :: rest) = String.utf8EncodeChar character ++ encode rest := rfl

theorem encode_lt_of_lt {left right : List Char} (less : left < right) :
    encode left < encode right := by
  induction less with
  | nil =>
      rw [encode_cons]
      cases bytes : String.utf8EncodeChar _ with
      | nil => cases String.utf8EncodeChar_ne_nil bytes
      | cons first rest => exact .nil
  | rel first => exact utf8EncodeChar_append_lt first _ _
  | cons _ induction => exact List.append_left_lt induction

end StoreMigration.Text.Utf8
