import StoreMigration.Disk.Basic
import StoreMigration.Migration.Error

/-! Why an operation on an installation failed: what was being done, from the
outside in, and the reason at the bottom. -/

namespace StoreMigration

inductive Activity where
  | readingRecord
  | readingFlag
  | planning (target : String)
  | migrating (target : String)
  | storingInstanceId
  | starting (database : String)
  deriving DecidableEq, Repr

inductive Reason where
  | databaseMissing (database : String)
  | blankInstanceId
  | databaseNotOpened (database : String) (error : EngineError)
  | databaseNotConfigured (error : EngineError)
  | layoutTableNotMade (error : EngineError)
  | unsupportedLayout (version : Int)
  | layoutNotRecorded (version : Int) (error : EngineError)
  | backupDirectoryNotMade (backup : String) (obstacle : Disk.Obstacle)
  | backupNotOpened (backup : String) (error : EngineError)
  | backupNotCopied (backup : String) (error : EngineError)
  | addressInUse
  | store (cause : StoreError)
  | migration (cause : MigrationError)

structure Failure where
  /-- Outermost first. -/
  activities : List Activity
  reason : Reason

namespace Activity

def message : Activity → String
  | readingRecord => "failed to read version record"
  | readingFlag => "failed to read updating flag"
  | planning target => "failed to plan migration to " ++ target
  | migrating target => "failed to migrate database to " ++ target
  | storingInstanceId => "failed to store instance id"
  | starting database => "startup migration of " ++ database ++ " failed"

end Activity

def Disk.Obstacle.message : Disk.Obstacle → String
  | .missing => "No such file or directory (os error 2)"
  | .fileThere => "File exists (os error 17)"
  | .fileOnTheWay => "Not a directory (os error 20)"
  | .nameTooLong => "File name too long (os error 36)"
  | .zeroInName => "file name contained an unexpected NUL byte"

namespace Reason

def messages : Reason → List String
  | databaseMissing database => ["database " ++ database ++ " does not exist"]
  | blankInstanceId => ["instance id must not be empty"]
  | databaseNotOpened database error =>
      ("failed to open sqlite database at " ++ database) :: error.openingMessages database
  | databaseNotConfigured error =>
      "failed to configure sqlite pragmas" :: error.messages
  | layoutTableNotMade error =>
      "failed to apply schema_migrations table" :: error.messages
  | unsupportedLayout version =>
      ["unsupported layout version " ++ Text.Decimal.integerText version ++
        "; expected at most " ++ Text.Decimal.integerText Database.latestLayout]
  | layoutNotRecorded version error =>
      ("failed to record layout version " ++ Text.Decimal.integerText version) :: error.messages
  | backupDirectoryNotMade backup obstacle =>
      ["failed to create parent directory for backup file " ++ backup, obstacle.message]
  | backupNotOpened backup error =>
      ("failed to create sqlite backup at " ++ backup) :: error.openingMessages backup
  | backupNotCopied backup error =>
      ("failed to create sqlite backup at " ++ backup) :: error.copyingMessages
  | addressInUse => ["Address already in use (os error 98)"]
  | store cause => cause.message :: cause.causes
  | migration cause => cause.message :: cause.causes

def blamesTarget : Reason → Bool
  | migration cause => cause.blamesTarget
  | _ => false

end Reason

namespace Failure

def of (reason : Reason) : Failure := ⟨[], reason⟩

def during (activity : Activity) (failure : Failure) : Failure :=
  ⟨activity :: failure.activities, failure.reason⟩

def ofStore (activity : Activity) (cause : StoreError) : Failure := ⟨[activity], .store cause⟩

def ofMigration (activity : Activity) (cause : MigrationError) : Failure :=
  ⟨[activity], .migration cause⟩

def messages (failure : Failure) : List String :=
  failure.activities.map Activity.message ++ failure.reason.messages

def line (failure : Failure) : String :=
  String.intercalate ": " failure.messages

def blamesTarget (failure : Failure) : Bool :=
  failure.reason.blamesTarget

end Failure

end StoreMigration
