import StoreMigration.Json.Basic
import StoreMigration.Text.Decimal

/-! The two written forms of a JSON value: compact, without any white space, and
laid out over lines with an indentation of two spaces. -/

namespace StoreMigration.Json

/-! ## Strings and numbers -/

def hexDigit (value : Nat) : Char := Nat.digitChar (value % 16)

/-- A character inside a JSON string. Only the quotation mark, the backslash and
the control characters below the space are escaped. -/
def escapeCharacter (character : Char) : List Char :=
  if character = '\x22' then ['\\', '\x22']
  else if character = '\\' then ['\\', '\\']
  else if character = '\x08' then ['\\', 'b']
  else if character = '\x09' then ['\\', 't']
  else if character = '\x0a' then ['\\', 'n']
  else if character = '\x0c' then ['\\', 'f']
  else if character = '\x0d' then ['\\', 'r']
  else if character.toNat < 0x20 then
    ['\\', 'u', '0', '0', hexDigit (character.toNat / 16), hexDigit character.toNat]
  else [character]

def stringCharacters (text : String) : List Char :=
  '\x22' :: (text.toList.flatMap escapeCharacter ++ ['\x22'])

example : escapeCharacter '\x1f' = ['\\', 'u', '0', '0', '1', 'f'] := by decide

def numberCharacters : JsonNumber → List Char
  | .integer value => Text.Decimal.integerCharacters value
  | .float value => value.characters Double.jsonStyle

/-! ## Compact form -/

mutual
def characters : Json → List Char
  | null => ['n', 'u', 'l', 'l']
  | bool true => ['t', 'r', 'u', 'e']
  | bool false => ['f', 'a', 'l', 's', 'e']
  | number value => numberCharacters value
  | string text => stringCharacters text
  | array items => '[' :: (charactersOfItems items ++ [']'])
  | object fields => '\x7b' :: (charactersOfFields fields ++ ['\x7d'])

def charactersOfItems : List Json → List Char
  | [] => []
  | [item] => item.characters
  | item :: next :: rest => item.characters ++ ',' :: charactersOfItems (next :: rest)

def charactersOfFields : Fields → List Char
  | [] => []
  | [(name, value)] => stringCharacters name ++ ':' :: value.characters
  | (name, value) :: next :: rest =>
      stringCharacters name ++ ':' :: (value.characters ++ ',' :: charactersOfFields (next :: rest))
end

def compact (value : Json) : String :=
  String.ofList value.characters

/-! ## Laid-out form -/

def lineBreak (level : Nat) : List Char :=
  '\n' :: List.replicate (2 * level) ' '

mutual
def layout (level : Nat) : Json → List Char
  | array [] => ['[', ']']
  | array (item :: rest) =>
      '[' :: (lineBreak (level + 1) ++ item.layout (level + 1) ++
        layoutOfItems (level + 1) rest ++ lineBreak level ++ [']'])
  | object [] => ['\x7b', '\x7d']
  | object ((name, value) :: rest) =>
      '\x7b' :: (lineBreak (level + 1) ++ stringCharacters name ++ ':' :: ' ' ::
        value.layout (level + 1) ++ layoutOfFields (level + 1) rest ++ lineBreak level ++ ['\x7d'])
  | value => value.characters

def layoutOfItems (level : Nat) : List Json → List Char
  | [] => []
  | item :: rest => ',' :: lineBreak level ++ item.layout level ++ layoutOfItems level rest

def layoutOfFields (level : Nat) : Fields → List Char
  | [] => []
  | (name, value) :: rest =>
      ',' :: lineBreak level ++ stringCharacters name ++ ':' :: ' ' :: value.layout level ++
        layoutOfFields level rest
end

def laidOut (value : Json) : String :=
  String.ofList (value.layout 0)

end StoreMigration.Json
