import StoreMigration.Migration.Error
import StoreMigration.Store.Program
import StoreMigration.VersionRecord

/-! The bookkeeping of migrations: the version record and the flag that says that a
migration is under way, both in a bucket of their own. -/

namespace StoreMigration.Bookkeeping

def bucket : String := "version"

def recordKey : String := "VERSION"

def updatingKey : String := "DB_UPDATING"

def prepare : Action StoreError Unit :=
  .ensureBucket bucket

def record? : Action StoreError (Option VersionRecord) :=
  .getAs VersionRecord.ofJson bucket recordKey

def record : Action MigrationError VersionRecord := do
  match ← Action.withError .store record? with
  | some record => return record
  | none => throw .missingRecord

/-- Whether a migration is under way or was interrupted. No flag means no. -/
def isUpdating : Action StoreError Bool := do
  return (← Action.getAs Json.decodeBool bucket updatingKey).getD false

def setUpdating (flag : Bool) : Action StoreError Unit :=
  .update bucket updatingKey (.bool flag)

def writeRecord (record : VersionRecord) : Action StoreError Unit :=
  .update bucket recordKey record.toJson

/-- A write whose failure is told by the key that was not written. -/
def persist (key : String) (write : Action StoreError Unit) : Action MigrationError Unit :=
  write.withError (.notPersisted key)

def setInstanceId (instanceId : String) : Action MigrationError VersionRecord := do
  let changed := { ← record with instanceId := instanceId }
  persist recordKey (writeRecord changed)
  return changed

end StoreMigration.Bookkeeping
