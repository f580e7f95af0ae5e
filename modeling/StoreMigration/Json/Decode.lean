import StoreMigration.Json.Printer
import StoreMigration.Text.Quoted

/-! Taking a JSON value for a value of a known type, and saying why it is not one.
Numbers of a fixed width accept integers in their range and no floating-point
number, not even `1.0`. -/

namespace StoreMigration

inductive DecodeError where
  | unexpected (found : Json) (expected : String)
  | outOfRange (value : Int) (expected : String)
  | missingField (name : String)
  /-- An array without all the elements of a record; the length is that at which
  the first one was missed. -/
  | tooFewElements (length : Nat) (expected : String)
  | tooManyElements (length : Nat)
  deriving Repr

namespace DecodeError

def describe : Json → String
  | .null => "null"
  | .bool value => "boolean \x60" ++ (if value then "true" else "false") ++ "\x60"
  | .number (.integer value) => "integer \x60" ++ Text.Decimal.integerText value ++ "\x60"
  | .number (.float value) =>
      "floating point \x60" ++ String.ofList (value.characters Double.jsonStyle) ++ "\x60"
  | .string text => "string " ++ Text.quoted text
  | .array _ => "sequence"
  | .object _ => "map"

def message : DecodeError → String
  | unexpected found expected => "invalid type: " ++ describe found ++ ", expected " ++ expected
  | outOfRange value expected =>
      "invalid value: integer \x60" ++ Text.Decimal.integerText value ++ "\x60, expected " ++ expected
  | missingField name => "missing field \x60" ++ name ++ "\x60"
  | tooFewElements length expected =>
      "invalid length " ++ Text.Decimal.text length ++ ", expected " ++ expected
  | tooManyElements length =>
      "invalid length " ++ Text.Decimal.text length ++ ", expected fewer elements in array"

end DecodeError

namespace Json

abbrev Decoded (α : Type) := Except DecodeError α

def decodeBool : Json → Decoded Bool
  | .bool value => .ok value
  | other => .error (.unexpected other "a boolean")

def decodeString : Json → Decoded String
  | .string text => .ok text
  | other => .error (.unexpected other "a string")

def fitInt64 : Int → Option Int64
  | .ofNat value => if value < 0x8000000000000000 then some (Int64.ofNat value) else none
  | .negSucc value => if value < 0x8000000000000000 then some (Int64.ofInt (.negSucc value)) else none

def fitUInt32 : Int → Option UInt32
  | .ofNat value => if value < UInt32.size then some (UInt32.ofNat value) else none
  | .negSucc _ => none

def decodeInt64 : Json → Decoded Int64
  | .number (.integer value) =>
      match fitInt64 value with
      | some fitting => .ok fitting
      | none => .error (.outOfRange value "i64")
  | other => .error (.unexpected other "i64")

def decodeUInt32 : Json → Decoded UInt32
  | .number (.integer value) =>
      match fitUInt32 value with
      | some fitting => .ok fitting
      | none => .error (.outOfRange value "u32")
  | other => .error (.unexpected other "u32")

def ofInt64 (value : Int64) : Json := .integer value.toInt

def ofUInt32 (value : UInt32) : Json := .integer value.toNat

theorem fitInt64_toInt (value : Int64) : fitInt64 value.toInt = some value := by
  have low := Int64.le_toInt value
  have high := Int64.toInt_lt value
  have back : Int64.ofInt value.toInt = value := Int64.ofInt_toInt value
  cases sign : value.toInt with
  | ofNat magnitude =>
      rw [sign] at high back
      rw [fitInt64, if_pos (by simp only [Int.ofNat_eq_natCast] at high; omega)]
      exact congrArg some back
  | negSucc magnitude =>
      rw [sign] at low back
      rw [fitInt64, if_pos (by omega), back]

theorem fitUInt32_toNat (value : UInt32) : fitUInt32 (value.toNat : Int) = some value := by
  have high := value.toNat_lt
  show (if value.toNat < UInt32.size then some (UInt32.ofNat value.toNat) else none) = _
  rw [if_pos high, UInt32.ofNat_toNat]

theorem decodeInt64_ofInt64 (value : Int64) : decodeInt64 (ofInt64 value) = .ok value := by
  simp only [ofInt64, integer, decodeInt64, fitInt64_toInt]

theorem decodeUInt32_ofUInt32 (value : UInt32) : decodeUInt32 (ofUInt32 value) = .ok value := by
  simp only [ofUInt32, integer, decodeUInt32, fitUInt32_toNat]

end Json

end StoreMigration
