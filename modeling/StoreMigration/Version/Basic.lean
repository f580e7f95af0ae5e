import StoreMigration.Text.Decimal

/-! Semantic versions and their order. The order is total and agrees with
equality: it is lexicographic in the three numbers, then in the pre-release, where
a release comes after all its pre-releases, and last in the build metadata. -/

namespace StoreMigration

/-! ## Identifiers -/

def isLabelCharacter (character : Char) : Bool :=
  Text.Decimal.isDigit character || ('a' ≤ character && character ≤ 'z') ||
    ('A' ≤ character && character ≤ 'Z') || character = '-'

structure Label where
  characters : List Char
  wellFormed : characters ≠ [] ∧ characters.all isLabelCharacter = true
  deriving DecidableEq

namespace Label

def isNumeric (label : Label) : Bool :=
  label.characters.all Text.Decimal.isDigit

def value (label : Label) : Nat :=
  Text.Decimal.ofDigits label.characters

/-- Numeric labels come first, by value and then by length, so that zeros in front
make a label greater. Other labels follow in the order of their characters. -/
instance : Ord Label where
  compare :=
    compareLex (compareOn fun label : Label => if label.isNumeric then 0 else 1)
      (compareLex (compareOn fun label : Label => if label.isNumeric then label.value else 0)
        (compareLex
          (compareOn fun label : Label => if label.isNumeric then label.characters.length else 0)
          (compareOn Label.characters)))

instance : Std.TransOrd Label :=
  inferInstanceAs (Std.TransCmp (compareLex _ (compareLex _ (compareLex _ _))))

end Label

/-- An identifier of a pre-release: a number, or a label that is not all digits. -/
inductive Identifier where
  | number (value : Nat)
  | word (label : Label) (named : label.isNumeric = false)
  deriving DecidableEq

namespace Identifier

def rank : Identifier → Nat
  | number _ => 0
  | word _ _ => 1

def numericValue : Identifier → Nat
  | number value => value
  | word _ _ => 0

def letters : Identifier → List Char
  | number _ => []
  | word label _ => label.characters

instance : Ord Identifier where
  compare :=
    compareLex (compareOn rank) (compareLex (compareOn numericValue) (compareOn letters))

instance : Std.TransOrd Identifier :=
  inferInstanceAs (Std.TransCmp (compareLex _ (compareLex _ _)))

end Identifier

/-! ## Versions -/

/-- A semantic version. An empty pre-release makes it a release. -/
structure Version where
  major : UInt64
  minor : UInt64
  patch : UInt64
  preRelease : List Identifier
  build : List Label
  deriving DecidableEq

namespace Version

def release (major minor patch : UInt64) : Version :=
  ⟨major, minor, patch, [], []⟩

def isRelease (version : Version) : Bool :=
  version.preRelease.isEmpty

instance : Ord Version where
  compare :=
    compareLex (compareOn major) (compareLex (compareOn minor) (compareLex (compareOn patch)
      (compareLex (compareOn fun version : Version => if version.isRelease then 1 else 0)
        (compareLex (compareOn preRelease) (compareOn build)))))

instance : Std.TransOrd Version :=
  inferInstanceAs (Std.TransCmp
    (compareLex _ (compareLex _ (compareLex _ (compareLex _ (compareLex _ _))))))

instance : LT Version where
  lt left right := compare left right = .lt

instance (left right : Version) : Decidable (left < right) :=
  inferInstanceAs (Decidable (compare left right = .lt))

example : release 2 9 3 < release 2 10 0 := by decide

example : (⟨1, 0, 0, [.number 1], []⟩ : Version) < release 1 0 0 := by decide

end Version

end StoreMigration
