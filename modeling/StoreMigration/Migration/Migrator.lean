import StoreMigration.Migration.Legacy
import StoreMigration.Migration.Run

/-! A migration from start to end: the legacy keys are imported or a new
installation gets its first record, and then the registry is run. -/

namespace StoreMigration

inductive RecordSource where
  | existing
  | legacy
  | freshInstall
  deriving DecidableEq, Repr

def RecordSource.name : RecordSource → String
  | existing => "existing"
  | legacy => "legacy"
  | freshInstall => "fresh_install"

structure Migrator where
  registry : Registry
  edition : Edition
  newInstanceId : String

structure MigrationOutcome where
  source : RecordSource
  report : Report

structure PlanOutcome where
  source : RecordSource
  plan : Plan

def PlanOutcome.isUpToDate (outcome : PlanOutcome) : Bool :=
  outcome.source = .existing && outcome.plan.isUpToDate

namespace Migrator

def prepare : Action MigrationError Unit :=
  Action.withError .store Bookkeeping.prepare

def bootstrap (migrator : Migrator) (target : Version) : Action MigrationError RecordSource := do
  match ← Legacy.bridge with
  | .alreadyVersioned => return .existing
  | .imported _ => return .legacy
  | .noLegacyData =>
      Bookkeeping.persist Bookkeeping.recordKey
        (Bookkeeping.writeRecord (.fresh target migrator.edition migrator.newInstanceId))
      return .freshInstall

/-- Make sure that there is a record and run what is pending up to a target. -/
def run (migrator : Migrator) (target : String) : Action MigrationError MigrationOutcome := do
  let version ← Action.ofResult (Registry.parseTarget target)
  let source ← migrator.bootstrap version
  let report ← migrator.registry.run target
  return ⟨source, report⟩

def startingRecord (migrator : Migrator) (target : Version) :
    Action MigrationError (RecordSource × VersionRecord) := do
  match ← Action.withError .store Bookkeeping.record? with
  | some record => return (.existing, record)
  | none =>
      match ← Legacy.record? with
      | some record => return (.legacy, record)
      | none => return (.freshInstall, .fresh target migrator.edition migrator.newInstanceId)

def plan (migrator : Migrator) (target : String) : Action MigrationError PlanOutcome := do
  let version ← Action.ofResult (Registry.parseTarget target)
  let (source, record) ← migrator.startingRecord version
  let plan ← Action.ofResult (Plan.ofRecord migrator.registry record version)
  return ⟨source, plan⟩

end Migrator

end StoreMigration
