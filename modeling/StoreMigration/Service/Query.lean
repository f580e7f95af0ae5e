import StoreMigration.Text.Hexadecimal
import StoreMigration.Text.Split
import StoreMigration.Text.Utf8

/-! The query of a request: fields in the form in which web pages send them, where a
space is a plus sign and any byte can be written as a percent sign and two
hexadecimal digits. -/

namespace StoreMigration.Service

def unplus (character : Char) : Char :=
  if character = '+' then ' ' else character

def decodeText (characters : List Char) : String :=
  String.ofList (Text.Utf8.decode (Text.percentDecode (characters.map unplus)))

/-- A name and a value around the first equals sign; without one the value is
empty. -/
def decodeField (characters : List Char) : String × String :=
  (decodeText (characters.takeWhile (· ≠ '=')),
    decodeText ((characters.dropWhile (· ≠ '=')).drop 1))

def decodeFields (query : List Char) : List (String × String) :=
  ((Text.splitAt '&' query).filter fun part => !part.isEmpty).map decodeField

structure RepeatedField where
  name : String
  deriving DecidableEq, Repr

def RepeatedField.message (error : RepeatedField) : String :=
  "Failed to deserialize query string: duplicate field \x60" ++ error.name ++ "\x60"

def singleField (name : String) (fields : List (String × String)) :
    Except RepeatedField (Option String) :=
  match fields.filter fun field => field.1 = name with
  | [] => .ok none
  | [field] => .ok (some field.2)
  | _ => .error ⟨name⟩

end StoreMigration.Service
