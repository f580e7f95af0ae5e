import StoreMigration.Text.Split

/-! Paths of files and directories. A path is the list of the names that lead to it
from the root. A text of a path is a way: it may have dots, empty parts and steps
back, so many ways lead to one place. -/

namespace StoreMigration

abbrev Path := List String

namespace Path

/-- Follow one part of a way. An empty part and a single dot stay where they are,
two dots go back by one name. -/
def follow (path : Path) (part : String) : Path :=
  if part = "" ∨ part = "." then path
  else if part = ".." then path.dropLast
  else path ++ [part]

def text (path : Path) : String :=
  String.ofList (path.flatMap fun name => '/' :: name.toList)

def size (path : Path) : Nat := path.text.utf8ByteSize

def parent (path : Path) : Path := path.dropLast

def name (path : Path) : String := path.getLast?.getD ""

def beside (path : Path) (mark : String) : Path := path.parent ++ [path.name ++ mark]

end Path

/-- A text of a path: whether it starts at the root, and the parts between its
slashes. -/
structure Way where
  isAbsolute : Bool
  parts : List String
  deriving DecidableEq, Repr

namespace Way

def ofText (text : String) : Way :=
  ⟨text.toList.head? = some '/', (Text.splitAt '/' text.toList).map String.ofList⟩

def start (way : Way) (home : Path) : Path :=
  if way.isAbsolute then [] else home

def places (way : Way) (home : Path) : List Path :=
  placesFrom (way.start home) way.parts
where
  placesFrom (place : Path) : List String → List Path
    | [] => [place]
    | part :: parts => place :: placesFrom (place.follow part) parts

def moves (way : Way) : List String :=
  way.parts.filter fun part => part ≠ "" && part ≠ "."

def endsWithDot (way : Way) : Bool :=
  (way.parts.filter fun part => part ≠ "").getLast? = some "."

/-- The moves to the directory in which the last one is made, as far as can be told
from the text alone. -/
def movesToHolder (way : Way) : List String :=
  way.moves.dropLast

example : (ofText "a/b/..").movesToHolder = ["a", "b"] := by decide

example : (ofText "/a//b/.").movesToHolder = ["a"] := by decide

end Way

end StoreMigration
