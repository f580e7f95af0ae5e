import StoreMigration.CommandLine.Grammar
import StoreMigration.Edition
import StoreMigration.Migration.Releases

/-! The commands that can be given on the command line. -/

namespace StoreMigration.CommandLine

inductive Command where
  | status (target : String)
  | migrate (target : String) (dryRun : Bool)
  | backup (out : String)
  | showVersion
  | setInstanceId (id : String)
  deriving DecidableEq, Repr

structure Invocation where
  database : String
  edition : Edition
  command : Command
  deriving DecidableEq, Repr

def defaultDatabase : String := "./kvmigrate.sqlite3"

def databaseRule : OptionRule := .path "db"

def editionRule : OptionRule := .checked "edition" fun value => (Edition.read? value).isSome

def targetRule : OptionRule := .text "target"

namespace Given

/-- The edition that was asked for; the community edition if none was. -/
def edition (given : Given) : Edition :=
  ((given.lookup "edition").bind Edition.read?).getD .community

def database (given : Given) : String := given.value "db" defaultDatabase

def target (given : Given) : String := given.value "target" Releases.appSchemaVersion

end Given

def readStatus (arguments : List String) : Reading Command := do
  let given ← readOnlyOptions [targetRule] arguments
  return .status (Given.target given)

def readMigrate (arguments : List String) : Reading Command := do
  let given ← readOnlyOptions [targetRule, .flag "dry-run"] arguments
  return .migrate (Given.target given) (given.hasFlag "dry-run")

def readBackup (arguments : List String) : Reading Command := do
  let given ← readOnlyOptions [.path "out"] arguments
  return .backup (← given.required "out")

def readShow (arguments : List String) : Reading Command := do
  let _ ← readOnlyOptions [] arguments
  return .showVersion

def readSetInstanceId (arguments : List String) : Reading Command := do
  let given ← readOnlyOptions [.text "id"] arguments
  return .setInstanceId (← given.required "id")

def readNamed (readers : List (String × (List String → Reading α))) (arguments : List String) :
    Reading α := do
  match ← readOptions [] arguments with
  | (_, []) => throw .missingCommand
  | (_, name :: rest) =>
      match readers.lookup name with
      | some reader => reader rest
      | none => throw (.unknownCommand name)

def readDatabaseCommand (arguments : List String) : Reading Command :=
  readNamed [("status", readStatus), ("migrate", readMigrate), ("backup", readBackup)] arguments

def readVersionCommand (arguments : List String) : Reading Command :=
  readNamed [("show", readShow), ("set-instance-id", readSetInstanceId)] arguments

def Invocation.read (arguments : List String) : Reading Invocation := do
  let (given, rest) ← readOptions [databaseRule, editionRule] arguments
  let command ← readNamed [("db", readDatabaseCommand), ("version", readVersionCommand)] rest
  return ⟨Given.database given, Given.edition given, command⟩

end StoreMigration.CommandLine
