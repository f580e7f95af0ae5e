import StoreMigration.Text.Decimal

/-! Product editions. An edition is known by its code; three codes have names. -/

namespace StoreMigration

structure Edition where
  code : Int64
  deriving DecidableEq, Repr

namespace Edition

def community : Edition := ⟨1⟩

def business : Edition := ⟨2⟩

def enterprise : Edition := ⟨3⟩

inductive Family where
  | community
  | business
  | enterprise
  | other
  deriving DecidableEq, Repr

def family (edition : Edition) : Family :=
  if edition = Edition.community then .community
  else if edition = Edition.business then .business
  else if edition = Edition.enterprise then .enterprise
  else .other

def name (edition : Edition) : String :=
  match edition.family with
  | .community => "community"
  | .business => "business"
  | .enterprise => "enterprise"
  | .other => "other"

/-- The name, with the code where the name does not tell it. -/
def display (edition : Edition) : String :=
  match edition.family with
  | .other => "other(" ++ Text.Decimal.integerText edition.code.toInt ++ ")"
  | _ => edition.name

/-- An edition by its name, by the two letters that abbreviate it, or by its
code. -/
def read? (text : String) : Option Edition :=
  if text = "community" ∨ text = "ce" then some community
  else if text = "business" ∨ text = "be" then some business
  else if text = "enterprise" ∨ text = "ee" then some enterprise
  else (Text.Decimal.readInt64 text.toList).map Edition.mk

end Edition

end StoreMigration
