import StoreMigration.Disk.Site
import StoreMigration.Disk.Vicinity

/-! Finding the site of a database. The database engine shortens a path before it
looks at the disk: a step back takes away the part before it, whether or not that part
is a directory. So there are paths that lead nowhere and yet open a database. -/

namespace StoreMigration.Disk

/-! ## Shortening -/

/-- The engine keeps paths in this many bytes, the last of which ends the text. -/
def pathRoom : Nat := 512

/-- Shorten a path by one part. Every place on the way is looked at; it may be
missing, but there must be no file before it. -/
def shortenPart (disk : Disk) (place : Path) (part : String) : Option Path :=
  let next := place.follow part
  if part ∈ ["", ".", ".."] then some next
  else if pathRoom ≤ next.size then none
  else
    match disk.enter place part with
    | .ok _ | .error .missing => some next
    | .error _ => none

def shortenParts (disk : Disk) (place : Path) (parts : List String) : Option Path :=
  parts.foldlM disk.shortenPart place

/-- The path at which a database is opened. It leaves room for the mark of a
journal. -/
def shorten (disk : Disk) (text : String) : Option Path := do
  let way := Way.ofText text
  let path ← disk.shortenParts (way.start disk.home) way.parts
  if path = [] ∨ pathRoom < path.size + journalMark.utf8ByteSize then none else some path

/-! ## Places -/

inductive Place where
  /-- In memory. What is opened under one common name at the same time is one
  database. -/
  | transient (isReadOnly : Bool) (commonName : Option String)
  | file (path : Path) (terms : Terms)

namespace Place

def commonName : Place → Option String
  | transient _ name => name
  | file _ _ => none

/-- Whether a database that is open here holds on to the log of the file at a path, so
that others see it in use. -/
def sharesLogOf (place : Place) (path : Path) : Bool :=
  match place with
  | transient _ _ => false
  | file own terms => own = path && terms.hasIndexFile

end Place

def nameRoom : Nat := 1024

/-- Whether others can find a database in memory by its name: it starts with a slash of
either kind and goes on after it. -/
def isCommon (name : String) : Bool :=
  match name.toList with
  | first :: _ :: _ => first = '/' || first = '\\'
  | _ => false

def memoryAt (name : String) (isReadOnly isGuarded : Bool) : Except EngineError Place :=
  if nameRoom < name.utf8ByteSize + journalMark.utf8ByteSize then .error .cannotOpen
  else .ok (.transient isReadOnly (if isGuarded && isCommon name then some name else none))

def fileAt (disk : Disk) (path : Path) (terms : Terms) : Except EngineError Place :=
  match disk.node? path with
  | some .directory =>
      .error (if terms.access = .reading then .diskFailed .opening else .cannotOpen)
  | some _ => .ok (.file path terms)
  | none =>
      if terms.access = .creating && disk.isDirectory path.parent then .ok (.file path terms)
      else .error .cannotOpen

def placeOf (disk : Disk) (text : String) : Except EngineError Place :=
  match Address.read text with
  | .error error => .error (.addressRefused error)
  | .ok (.transient isReadOnly) => .ok (.transient isReadOnly none)
  | .ok (.named name isReadOnly isGuarded) => memoryAt name isReadOnly isGuarded
  | .ok (.file path terms pattern) =>
      match disk.shorten path with
      | none => .error .cannotOpen
      | some path =>
          if pattern.any fun pattern => (disk.lookUp pattern).isNone then
            .error (.diskFailed .opening)
          else disk.fileAt path terms

/-! ## Sites -/

def siteAt (disk : Disk) (text : String) (path : Path) (terms : Terms) : Site :=
  let (configured, near) := (disk.vicinity path).perform (Vicinity.configure terms)
  { isPresent := (disk.lookUp text).isSome
    isReached := (disk.locate text).toOption = some path
    ground :=
      match configured with
      | .error error => .unusable error
      | .ok content => .database content
    refusal := near.refusal terms
    isOpened := false }

def site (disk : Disk) (text : String) : Site :=
  let isPresent := (disk.lookUp text).isSome
  match disk.placeOf text with
  | .error error => { Site.transient with isPresent := isPresent, ground := .closed error }
  | .ok (.transient isReadOnly _) =>
      { Site.transient with
        isPresent := isPresent
        refusal := if isReadOnly then some .writes else none }
  | .ok (.file path terms) => disk.siteAt text path terms

/-! ## Use -/

/-- The disk after a file that was in use is closed. One that was taken away in the
meantime is not made again, and what it had beside it stays. -/
def release (disk : Disk) (path : Path) (terms : Terms) (isLogged isLocked : Bool) : Disk :=
  let near := { disk.vicinity path with
    isLogged := isLogged
    isLocked := isLocked }
  if (disk.node? path).isSome then disk.restore path (near.close terms)
  else disk.restore path { near.leave with content := none }

/-- The disk while the site of a database is in use, and what is done to it when the
database is closed. -/
def occupy (disk : Disk) (text : String) (site : Site) : Disk × (Disk → Disk) :=
  match site.isOpened, disk.placeOf text with
  | true, .ok (.file path terms) =>
      let (_, near) := (disk.vicinity path).perform (Vicinity.configure terms)
      let near := match site.ground with
        | .database content => near.keep content
        | _ => near
      (disk.restore path near, fun after =>
        after.release path terms near.isLogged near.isLocked)
  | _, _ => (disk, id)

def settle (disk : Disk) (text : String) (site : Site) : Disk :=
  let (disk, close) := disk.occupy text site
  close disk

def visit (disk : Disk) (text : String) (use : Site → α × Site) : α × Disk :=
  let (result, site) := use (disk.site text)
  (result, disk.settle text site)

end StoreMigration.Disk
