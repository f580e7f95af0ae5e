import StoreMigration.Migration.Migrator
import StoreMigration.Store.Database

/-! What operations on an installation report, and the JSON form of the reports. -/

namespace StoreMigration

def reportContractVersion : String := "api.v1"

/-! ## Status -/

structure StatusReport where
  target : Version
  record : Option VersionRecord
  isUpdating : Bool
  source : RecordSource
  pendingSteps : List String
  isUpToDate : Bool
  layout : LayoutStatus

namespace StatusReport

def fields (report : StatusReport) : Fields :=
  [("target_version", .string report.target.text),
    ("current_version", .optional .string (report.record.map VersionRecord.schemaVersion)),
    ("replay_count", .optional .ofUInt32 (report.record.map VersionRecord.replayCount)),
    ("edition", .optional .ofInt64 (report.record.map fun record => record.edition.code)),
    ("instance_id", .optional .string (report.record.map VersionRecord.instanceId)),
    ("is_updating", .bool report.isUpdating),
    ("record_source", .string report.source.name),
    ("pending_steps", .strings report.pendingSteps),
    ("up_to_date", .bool report.isUpToDate),
    ("layout", report.layout.toJson)]

def toJson (report : StatusReport) : Json :=
  .object report.fields

end StatusReport

/-! ## Migration -/

/-- What a migration did besides planning. -/
structure Completion where
  executedSteps : List String
  replayCount : UInt32

/-- A planned migration; one that was also carried out has a completion. -/
structure MigrationSummary where
  source : RecordSource
  /-- The version before the migration, as it is written in the record. -/
  currentVersion : String
  targetVersion : Version
  pendingSteps : List String
  descriptors : List PlannedDescriptor
  isUpToDate : Bool
  completion : Option Completion

namespace MigrationSummary

def isDryRun (summary : MigrationSummary) : Bool :=
  summary.completion.isNone

def afterVersion (summary : MigrationSummary) : Option Version :=
  summary.completion.map fun _ => summary.targetVersion

def fields (summary : MigrationSummary) : Fields :=
  [("dry_run", .bool summary.isDryRun),
    ("record_source", .string summary.source.name),
    ("current_version", .string summary.currentVersion),
    ("target_version", .string summary.targetVersion.text),
    ("would_apply_steps", .strings summary.pendingSteps),
    ("descriptors", .array (summary.descriptors.map PlannedDescriptor.toJson)),
    ("executed_steps", .optional .strings (summary.completion.map Completion.executedSteps)),
    ("after_version", .optional (fun version => .string version.text) summary.afterVersion),
    ("replay_count", .optional .ofUInt32 (summary.completion.map Completion.replayCount)),
    ("up_to_date", .bool summary.isUpToDate)]

def toJson (summary : MigrationSummary) : Json :=
  .object summary.fields

def ofPlan (outcome : PlanOutcome) : MigrationSummary where
  source := outcome.source
  currentVersion := outcome.plan.fromVersion
  targetVersion := outcome.plan.toVersion
  pendingSteps := outcome.plan.pendingSteps
  descriptors := outcome.plan.descriptors
  isUpToDate := outcome.isUpToDate
  completion := none

/-- A migration that was carried out. What was pending before it is taken from the
plan; where planning failed, what was executed stands for it. -/
def ofRun (planned : Except MigrationError PlanOutcome) (outcome : MigrationOutcome) :
    MigrationSummary :=
  let done : MigrationSummary :=
    { source := outcome.source
      currentVersion := outcome.report.fromVersion
      targetVersion := outcome.report.toVersion
      pendingSteps := outcome.report.executedSteps
      descriptors := []
      isUpToDate := false
      completion := some ⟨outcome.report.executedSteps, outcome.report.replayCount⟩ }
  match planned with
  | .error _ => done
  | .ok planned =>
      { done with
        pendingSteps := planned.plan.pendingSteps
        descriptors := planned.plan.descriptors
        isUpToDate := planned.isUpToDate }

end MigrationSummary

end StoreMigration
