import StoreMigration.Version.Printer
import StoreMigration.Text.Blank
import StoreMigration.Text.Quoted
import StoreMigration.Text.Split

/-! Reading versions. The strict reader takes exactly the canonical texts; the
lenient one also takes white space around the text, a `v` in front, and one or two
numbers in place of three. -/

namespace StoreMigration

/-! ## Why a text is not a version -/

inductive VersionPart where
  | major
  | minor
  | patch
  | preRelease
  | build
  deriving DecidableEq, Repr

inductive VersionError where
  | empty
  | endsBefore (part : VersionPart)
  | noNumber (found : Char) (part : VersionPart)
  | unexpectedAfter (found : Char) (part : VersionPart)
  | leadingZero (part : VersionPart)
  | tooLarge (part : VersionPart)
  | emptySegment (part : VersionPart)
  deriving DecidableEq, Repr

def VersionPart.description : VersionPart → String
  | major => "major version number"
  | minor => "minor version number"
  | patch => "patch version number"
  | preRelease => "pre-release identifier"
  | build => "build metadata"

def VersionError.message : VersionError → String
  | empty => "empty string, expected a semver version"
  | endsBefore part => "unexpected end of input while parsing " ++ part.description
  | noNumber found part =>
      "unexpected character " ++ Text.quotedCharacter found ++ " while parsing " ++
        part.description
  | unexpectedAfter found part =>
      "unexpected character " ++ Text.quotedCharacter found ++ " after " ++ part.description
  | leadingZero part => "invalid leading zero in " ++ part.description
  | tooLarge part => "value of " ++ part.description ++ " exceeds u64::MAX"
  | emptySegment part => "empty identifier segment in " ++ part.description

namespace Version

abbrev Parsed (α : Type) := Except VersionError α

/-! ## Numbers and dots -/

/-- A number of 64 bits without a superfluous zero in front, and the text after
it. -/
def readNumber (part : VersionPart) (characters : List Char) : Parsed (UInt64 × List Char) :=
  let digits := characters.takeWhile Text.Decimal.isDigit
  let rest := characters.dropWhile Text.Decimal.isDigit
  if digits.isEmpty then
    match rest with
    | [] => .error (.endsBefore part)
    | found :: _ => .error (.noNumber found part)
  else if digits.head? = some '0' ∧ digits.length > 1 then .error (.leadingZero part)
  else if Text.Decimal.ofDigits digits < UInt64.size then
    .ok (UInt64.ofNat (Text.Decimal.ofDigits digits), rest)
  else .error (.tooLarge part)

def readDot (part : VersionPart) : List Char → Parsed (List Char)
  | [] => .error (.endsBefore part)
  | '.' :: rest => .ok rest
  | found :: _ => .error (.unexpectedAfter found part)

/-! ## Identifiers between dots -/

def isSuffixCharacter (character : Char) : Bool :=
  isLabelCharacter character || character = '.'

def readLabel (part : VersionPart) (characters : List Char) : Parsed Label :=
  if wellFormed : characters ≠ [] ∧ characters.all isLabelCharacter = true then
    .ok ⟨characters, wellFormed⟩
  else .error (.emptySegment part)

def readIdentifier (characters : List Char) : Parsed Identifier := do
  let label ← readLabel .preRelease characters
  if named : label.isNumeric = false then return .word label named
  else if characters.head? = some '0' ∧ characters.length > 1 then
    throw (.leadingZero .preRelease)
  else return .number label.value

def readSegments (read : List Char → Parsed α) (characters : List Char) :
    Parsed (List α × List Char) := do
  let segments ← (Text.splitAt '.' (characters.takeWhile isSuffixCharacter)).mapM read
  return (segments, characters.dropWhile isSuffixCharacter)

/-! ## The strict reader -/

/-- The end of a version. What stands there otherwise is reported after the last
part that was read. -/
def readEnd (part : VersionPart) : List Char → Parsed Unit
  | [] => .ok ()
  | found :: _ => .error (.unexpectedAfter found part)

def readBuild (before : VersionPart) : List Char → Parsed (List Label)
  | '+' :: rest => do
      let (build, rest) ← readSegments (readLabel .build) rest
      readEnd .build rest
      return build
  | rest => do
      readEnd before rest
      return []

def readSuffix : List Char → Parsed (List Identifier × List Label)
  | '-' :: rest => do
      let (preRelease, rest) ← readSegments readIdentifier rest
      let build ← readBuild .preRelease rest
      return (preRelease, build)
  | rest => do
      let build ← readBuild .patch rest
      return ([], build)

def readStrict (characters : List Char) : Parsed Version :=
  if characters.isEmpty then .error .empty
  else do
    let (major, rest) ← readNumber .major characters
    let rest ← readDot .major rest
    let (minor, rest) ← readNumber .minor rest
    let rest ← readDot .minor rest
    let (patch, rest) ← readNumber .patch rest
    let (preRelease, build) ← readSuffix rest
    return ⟨major, minor, patch, preRelease, build⟩

/-! ## The lenient reader -/

def withoutMark : List Char → List Char
  | 'v' :: rest => rest
  | 'V' :: rest => rest
  | characters => characters

def isCoreCharacter (character : Char) : Bool :=
  character != '-' && character != '+'

/-- What a core of one or two numbers lacks to three. An empty core is not made up
for. -/
def padding (core : List Char) : List Char :=
  match core.count '.', core with
  | 0, [] => []
  | 0, _ => ['.', '0', '.', '0']
  | 1, _ => ['.', '0']
  | _, _ => []

def complete (characters : List Char) : List Char :=
  let core := characters.takeWhile isCoreCharacter
  core ++ padding core ++ characters.dropWhile isCoreCharacter

def readCharacters (characters : List Char) : Parsed Version :=
  readStrict (complete (withoutMark (Text.trimCharacters characters)))

def read (text : String) : Parsed Version :=
  readCharacters text.toList

example : readCharacters [' ', 'v', '2', '.', '9'] = .ok (release 2 9 0) := rfl

example : readCharacters ['-', 'a'] = .error (.noNumber '-' .major) := rfl

end Version

end StoreMigration
