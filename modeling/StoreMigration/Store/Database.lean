import StoreMigration.Json.Printer
import StoreMigration.Store.Buckets
import StoreMigration.Store.Program

/-! The content of a database file: objects as JSON text in tables, and a record of
the table layouts that were applied. The layout is versioned apart from the data
that the tables hold. Opening a database applies what its layout lacks and refuses
a layout that is newer than the program. -/

namespace StoreMigration

inductive Journal where
  /-- What is about to be overwritten is first copied to a journal. -/
  | rollback
  /-- What is written goes to a log first, which all users of the file read. -/
  | writeAhead
  deriving DecidableEq, Repr

/-- The content of a database file. An empty file has no tables and no recorded
layout. -/
structure Database where
  /-- The recorded layout versions in ascending order. -/
  layouts : List Int
  tables : Option (Buckets String)
  journal : Journal
  deriving DecidableEq

structure LayoutStatus where
  current : Int
  target : Int
  pending : List Int
  deriving DecidableEq, Repr

def LayoutStatus.toJson (status : LayoutStatus) : Json :=
  .object [("current_version", .integer status.current),
    ("target_version", .integer status.target),
    ("pending_versions", .array (status.pending.map .integer))]

namespace Database

def blank : Database := ⟨[], none, .rollback⟩

instance : Inhabited Database := ⟨blank⟩

def isBlank (database : Database) : Bool :=
  database.layouts.isEmpty && database.tables.isNone && database.journal = .rollback

/-! ## Layout -/

def latestLayout : Int := 1

/-- The greatest recorded layout version, zero if there is none. -/
def currentLayout (database : Database) : Int :=
  database.layouts.max?.getD 0

def recordLayout (version : Int) : List Int → List Int
  | [] => [version]
  | recorded :: rest =>
      if version = recorded then recorded :: rest
      else if version < recorded then version :: recorded :: rest
      else recorded :: recordLayout version rest

example : recordLayout 1 [-1] = [-1, 1] ∧ recordLayout 1 [1] = [1] := by decide

def layoutsBetween (current target : Int) : List Int :=
  (List.range (target - current).toNat).map fun (step : Nat) => current + 1 + (step : Int)

def layoutStatus (database : Database) : LayoutStatus :=
  ⟨database.currentLayout, latestLayout, layoutsBetween database.currentLayout latestLayout⟩

def unappliedLayout : LayoutStatus := ⟨0, latestLayout, layoutsBetween 0 latestLayout⟩

structure UnsupportedLayout where
  version : Int
  deriving DecidableEq, Repr

/-- Bring the layout up to date. Tables that exist already keep their objects. -/
def migrateLayout (database : Database) : Except UnsupportedLayout Database :=
  if latestLayout < database.currentLayout then .error ⟨database.currentLayout⟩
  else if database.currentLayout < 1 then
    .ok { database with
      layouts := recordLayout 1 database.layouts
      tables := some (database.tables.getD Buckets.empty) }
  else .ok database

/-! ## Objects -/

def stored (database : Database) : Buckets String :=
  database.tables.getD Buckets.empty

def tablesMissing : EngineError := .tableMissing "kv_objects"

def textRefused : EngineError := .checkFailed "json_valid(value_json)"

/-- Change the tables; where there are none every call is refused. -/
def withTables (database : Database)
    (use : Buckets String → Except StoreError α × Buckets String) :
    Except StoreError α × Database :=
  match database.tables with
  | none => (.error (.backend (.engine tablesMissing)), database)
  | some tables =>
      let (answer, tables) := use tables
      (answer, { database with tables := some tables })

/-- Store a text as it is. The bucket is made before the text is looked at, and
only JSON text is accepted. -/
def writeText (bucket key text : String) (tables : Buckets String) :
    Except StoreError Unit × Buckets String :=
  if Json.isText text then (.ok (), tables.write bucket key text)
  else (.error (.backend (.engine textRefused)), tables.ensure bucket)

def readText (bucket key text : String) : Except StoreError Json :=
  match Json.read Json.valuePolicy text with
  | .ok value => .ok value
  | .error cause => .error (.encoding bucket key (.unreadable cause))

def readObject (bucket key : String) (tables : Buckets String) :
    Except StoreError (Option Json) :=
  match tables.read bucket key with
  | none => .ok none
  | some text => (readText bucket key text).map some

def backend : Backend Database
  | .ensureBucket bucket, database =>
      database.withTables fun tables => (.ok (), tables.ensure bucket)
  | .get bucket key, database =>
      database.withTables fun tables => (readObject bucket key tables, tables)
  | .update bucket key value, database =>
      database.withTables (writeText bucket key value.compact)
  | .delete bucket key, database =>
      database.withTables fun tables => (.ok (), tables.delete bucket key)
  | .listKeys bucket, database =>
      database.withTables fun tables => (.ok (tables.keys bucket), tables)

def toList (database : Database) : List (String × String × String) :=
  database.stored.toList

/-! ## Refused calls -/

/-- Whether a call changes anything. An object that is written anew counts as changed,
as the time of writing is kept with it. -/
def changes (database : Database) : Request → Bool
  | .ensureBucket bucket => (database.stored.get? bucket).isNone
  | .update _ _ _ => true
  | .delete bucket key => (database.stored.read bucket key).isSome
  | .get _ _ => false
  | .listKeys _ => false

inductive Refusal where
  /-- Every call that could change it: it may only be read. -/
  | writes
  /-- Every call that does change it: its journal cannot be made. -/
  | changes
  deriving DecidableEq, Repr

def Refusal.error : Refusal → EngineError
  | writes => .readOnly
  | changes => .cannotOpen

def Refusal.refuses (refusal : Refusal) (database : Database) (request : Request) : Bool :=
  match refusal with
  | .writes => request.isWrite
  | .changes => database.changes request

def guardedBackend (refusal : Refusal) : Backend Database
  | request, database =>
      if refusal.refuses database request then
        (.error (.backend (.engine refusal.error)), database)
      else backend request database

end Database

end StoreMigration
