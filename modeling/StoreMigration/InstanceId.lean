/-! Instance ids of new installations: numbers of 128 bits in twenty-six digits of
base 32. The upper 48 bits hold a time and the lower 80 are random, so the order
of ids is that of their times. -/

namespace StoreMigration.InstanceId

/-- The digits of base 32: no letter that is easily taken for another. -/
def digits : List Char :=
  ['0', '1', '2', '3', '4', '5', '6', '7', '8', '9', 'A', 'B', 'C', 'D', 'E', 'F',
    'G', 'H', 'J', 'K', 'M', 'N', 'P', 'Q', 'R', 'S', 'T', 'V', 'W', 'X', 'Y', 'Z']

def length : Nat := 26

def characters (value : Nat) : List Char :=
  (List.range length).map fun place =>
    digits.getD (value % Nat.pow 2 128 / Nat.pow 32 (length - 1 - place) % 32) '0'

def ofParts (time random : Nat) : String :=
  String.ofList (characters (time % Nat.pow 2 48 * Nat.pow 2 80 + random % Nat.pow 2 80))

/-- Whether a text is an id. Its first digit holds only three bits. -/
def isId (text : List Char) : Bool :=
  text.length == length && text.all digits.contains &&
    (text.head?.any fun first => '0' ≤ first && first ≤ '7')

end StoreMigration.InstanceId
