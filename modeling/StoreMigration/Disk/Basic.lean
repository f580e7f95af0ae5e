import StoreMigration.Disk.Path
import StoreMigration.Store.Database

/-! Files and directories. A disk holds databases, other files and directories, and
knows the directory in which ways start. A way is followed from directory to
directory; the main statement is `follow_eq_foldl`: where it leads anywhere, it leads
to the place that its text spells out. -/

namespace StoreMigration

inductive Node where
  | directory
  | database (content : Database)
  /-- A file that is not a database. -/
  | foreign

structure Disk where
  home : Path
  nodes : List (Path × Node)

namespace Disk

/-- What lies at a path. The root is always a directory. -/
def node? (disk : Disk) (path : Path) : Option Node :=
  if path = [] then some .directory else disk.nodes.lookup path

def put (disk : Disk) (path : Path) (node : Node) : Disk :=
  { disk with nodes := (path, node) :: disk.nodes.filter fun entry => entry.1 != path }

def erase (disk : Disk) (path : Path) : Disk :=
  { disk with nodes := disk.nodes.filter fun entry => entry.1 != path }

def isDirectory (disk : Disk) (path : Path) : Bool :=
  match disk.node? path with
  | some .directory => true
  | _ => false

/-! ## Following ways -/

inductive Obstacle where
  | missing
  | fileThere
  | fileOnTheWay
  | nameTooLong
  | zeroInName
  deriving DecidableEq, Repr

def longestName : Nat := 255

def enter (disk : Disk) (place : Path) (part : String) : Except Obstacle Path :=
  match disk.node? place with
  | none => .error .missing
  | some .directory =>
      if part.toList.contains '\x00' then .error .zeroInName
      else if longestName < part.utf8ByteSize then .error .nameTooLong
      else .ok (place.follow part)
  | some _ => .error .fileOnTheWay

/-- The place to which some parts lead. There may be nothing yet. -/
def follow (disk : Disk) (place : Path) (parts : List String) : Except Obstacle Path :=
  parts.foldlM disk.enter place

theorem enter_eq_follow {disk : Disk} {place next : Path} {part : String}
    (entered : disk.enter place part = .ok next) : next = place.follow part := by
  unfold enter at entered
  split at entered
  · contradiction
  · split at entered
    · contradiction
    · split at entered
      · contradiction
      · exact (Except.ok.inj entered).symm
  · contradiction

theorem follow_eq_foldl {disk : Disk} {parts : List String} {place last : Path}
    (followed : disk.follow place parts = .ok last) : last = parts.foldl Path.follow place := by
  induction parts generalizing place with
  | nil => exact (Except.ok.inj followed).symm
  | cons part parts induction =>
      rw [follow, List.foldlM_cons] at followed
      cases entered : disk.enter place part with
      | error obstacle =>
          rw [entered] at followed
          contradiction
      | ok next =>
          rw [entered] at followed
          rw [induction followed, enter_eq_follow entered, List.foldl_cons]

/-- The place to which a text leads. An empty text leads nowhere. -/
def locate (disk : Disk) (text : String) : Except Obstacle Path :=
  let way := Way.ofText text
  if text = "" then .error .missing else disk.follow (way.start disk.home) way.parts

def lookUp (disk : Disk) (text : String) : Option Node :=
  (disk.locate text).toOption.bind disk.node?

/-! ## Making directories -/

/-- Make one directory. A directory that is there already is left as it is. -/
def makeDirectory (disk : Disk) (start : Path) (moves : List String) :
    Except Obstacle Disk := do
  let place ← disk.follow start moves
  match disk.node? place with
  | none => .ok (disk.put place .directory)
  | some .directory => .ok disk
  | some _ => .error .fileThere

/-- Make a directory and all those on the way to it that are missing, the last move
first. What has been made stays when a later one cannot be made. -/
def makeDirectoriesBack (disk : Disk) (start : Path) :
    List String → Except Obstacle Unit × Disk
  | [] => (.ok (), disk)
  | last :: before =>
      match disk.makeDirectory start (last :: before).reverse with
      | .ok disk => (.ok (), disk)
      | .error .missing =>
          match disk.makeDirectoriesBack start before with
          | (.error obstacle, disk) => (.error obstacle, disk)
          | (.ok (), disk) =>
              match disk.makeDirectory start (last :: before).reverse with
              | .ok disk => (.ok (), disk)
              | .error obstacle => (.error obstacle, disk)
      | .error obstacle => (.error obstacle, disk)

def makeDirectories (disk : Disk) (start : Path) (moves : List String) :
    Except Obstacle Unit × Disk :=
  disk.makeDirectoriesBack start moves.reverse

/-- Make the directory that a text names and those on the way to it. A text that ends
with a dot only names a directory that is there: the one that holds it is made, but
not the directory itself. -/
def makeNamedDirectory (disk : Disk) (text : String) : Except Obstacle Unit × Disk :=
  let way := Way.ofText text
  let start := way.start disk.home
  if way.endsWithDot then
    match disk.makeDirectory start (way.moves ++ ["."]) with
    | .ok disk => (.ok (), disk)
    | .error .missing =>
        match disk.makeDirectories start way.movesToHolder with
        | (.error obstacle, disk) => (.error obstacle, disk)
        | (.ok (), disk) => ((disk.follow start (way.moves ++ ["."])).map fun _ => (), disk)
    | .error obstacle => (.error obstacle, disk)
  else disk.makeDirectories start way.moves

end Disk

end StoreMigration
