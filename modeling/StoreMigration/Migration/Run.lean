import StoreMigration.Migration.Bookkeeping
import StoreMigration.Migration.Plan

/-! Carrying out a plan. The flag is raised before anything is read and lowered
only after the new record is written, so every failure in between leaves it raised
and the next start can tell that the store is half migrated. -/

namespace StoreMigration

structure Report where
  fromVersion : String
  toVersion : Version
  replayCount : UInt32
  executedSteps : List String

namespace Registry

/-- Run some steps in order up to the first that fails; the names of those that
ran. -/
def runSteps : List Step → Action MigrationError (List String)
  | [] => return []
  | step :: rest => do
      step.body.withError (.stepFailed step.name)
      let names ← runSteps rest
      return step.name :: names

def parseTarget (target : String) : Except MigrationError Version :=
  match Version.read target with
  | .ok version => .ok version
  | .error cause => .error (.invalidTarget target cause)

/-- The record after a plan was carried out. Only the version and the count
change. -/
def stamp (record : VersionRecord) (plan : Plan) : VersionRecord :=
  { record with schemaVersion := plan.toVersion.text, replayCount := plan.replayCount }

def run (registry : Registry) (target : String) : Action MigrationError Report := do
  let version ← Action.ofResult (parseTarget target)
  Bookkeeping.persist Bookkeeping.updatingKey (Bookkeeping.setUpdating true)
  let record ← Bookkeeping.record
  let plan ← Action.ofResult (Plan.ofRecord registry record version)
  let executed ← runSteps (Plan.selectSteps registry.descriptors plan.descriptors)
  Bookkeeping.persist Bookkeeping.recordKey (Bookkeeping.writeRecord (stamp record plan))
  Bookkeeping.persist Bookkeeping.updatingKey (Bookkeeping.setUpdating false)
  return ⟨record.schemaVersion, plan.toVersion, plan.replayCount, executed⟩

end Registry

end StoreMigration
