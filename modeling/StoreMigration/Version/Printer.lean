import StoreMigration.Version.Basic

/-! The canonical text of a version: three numbers, a hyphen before a pre-release
and a plus sign before build metadata. -/

namespace StoreMigration

namespace Identifier

def characters : Identifier → List Char
  | number value => Text.Decimal.toDigits value
  | word label _ => label.characters

end Identifier

namespace Version

def dotted : List (List Char) → List Char
  | [] => []
  | [text] => text
  | text :: next :: rest => text ++ '.' :: dotted (next :: rest)

def coreCharacters (version : Version) : List Char :=
  Text.Decimal.toDigits version.major.toNat ++ '.' ::
    (Text.Decimal.toDigits version.minor.toNat ++ '.' ::
      Text.Decimal.toDigits version.patch.toNat)

def preReleaseCharacters (version : Version) : List Char :=
  dotted (version.preRelease.map Identifier.characters)

def buildCharacters (version : Version) : List Char :=
  dotted (version.build.map Label.characters)

def characters (version : Version) : List Char :=
  version.coreCharacters ++
    (if version.preRelease.isEmpty then [] else '-' :: version.preReleaseCharacters) ++
    (if version.build.isEmpty then [] else '+' :: version.buildCharacters)

def text (version : Version) : String :=
  String.ofList version.characters

example : (release 2 16 0).characters = ['2', '.', '1', '6', '.', '0'] := by decide

end Version

end StoreMigration
