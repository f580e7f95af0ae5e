import StoreMigration.Store.Call
import StoreMigration.Version.Reader

/-! The ways in which a migration can fail, the message of each, and the causes that
lie behind it. -/

namespace StoreMigration

mutual
inductive MigrationError where
  | tooOld
  | corruptVersion (version : String) (cause : VersionError)
  | invalidTarget (version : String) (cause : VersionError)
  | invalidDescriptor (version : String) (cause : VersionError)
  | unknownLegacyVersion (number : Int64)
  | missingLegacyKey (key : String)
  | missingRecord
  | stepFailed (step : String) (cause : StepError)
  | notPersisted (key : String) (cause : StoreError)
  | store (cause : StoreError)

/-- Why a step failed: for a reason of its own, or with an error of the store or of
the migration. -/
inductive StepError where
  | failed (message : String)
  | migration (cause : MigrationError)
  | store (cause : StoreError)
end

def minimumSupportedVersion : Version := .release 1 21 0

mutual
def MigrationError.message : MigrationError → String
  | .tooOld =>
      "migrating from a schema older than " ++ minimumSupportedVersion.text ++
        " is not supported; upgrade through an intermediate release first"
  | .corruptVersion version _ =>
      "stored schema version " ++ Text.quoted version ++ " is not a valid semantic version"
  | .invalidTarget version _ =>
      "target version " ++ Text.quoted version ++ " is not a valid semantic version"
  | .invalidDescriptor version _ =>
      "migration descriptor version " ++ Text.quoted version ++ " is not a valid semantic version"
  | .unknownLegacyVersion number =>
      "unknown legacy schema version " ++ Text.Decimal.integerText number.toInt
  | .missingLegacyKey key => "legacy key " ++ key ++ " is missing"
  | .missingRecord => "version record is missing"
  | .stepFailed step _ => "failed in migration step " ++ step
  | .notPersisted key _ => "failed to persist " ++ key
  | .store cause => cause.message

def StepError.message : StepError → String
  | .failed message => message
  | .migration cause => cause.message
  | .store cause => cause.message
end

/- The messages of what lies behind an error, outermost first. An error of the
store is told as it is, so it adds no layer. -/
mutual
def MigrationError.causes : MigrationError → List String
  | .corruptVersion _ cause => [cause.message]
  | .invalidTarget _ cause => [cause.message]
  | .invalidDescriptor _ cause => [cause.message]
  | .stepFailed _ cause => cause.message :: cause.causes
  | .notPersisted _ cause => cause.message :: cause.causes
  | .store cause => cause.causes
  | _ => []

def StepError.causes : StepError → List String
  | .failed _ => []
  | .migration cause => cause.causes
  | .store cause => cause.causes
end

/- Whether the requested target is at fault, be it inside a failed step. -/
mutual
def MigrationError.blamesTarget : MigrationError → Bool
  | .invalidTarget _ _ => true
  | .stepFailed _ cause => cause.blamesTarget
  | _ => false

def StepError.blamesTarget : StepError → Bool
  | .migration cause => cause.blamesTarget
  | _ => false
end

namespace MigrationError

/-- Whether the schema was too old, told directly or by the step that failed. -/
def isTooOld : MigrationError → Bool
  | tooOld => true
  | stepFailed _ (.migration .tooOld) => true
  | _ => false

def isInvalidTarget : MigrationError → Bool
  | invalidTarget _ _ => true
  | _ => false

def failedStep? : MigrationError → Option String
  | stepFailed step _ => some step
  | _ => none

end MigrationError

end StoreMigration
