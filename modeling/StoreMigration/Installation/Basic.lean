import StoreMigration.Disk.Site
import StoreMigration.Installation.Failure
import StoreMigration.Installation.Report
import StoreMigration.Migration.Releases
import StoreMigration.Text.Blank

/-! Operations on an installation: a database at some site, which is opened anew for
each operation. Opening creates the database where it can; questions about an
existing installation never do. -/

namespace StoreMigration

structure Installation where
  path : String
  edition : Edition
  newInstanceId : String

namespace Installation

def migrator (installation : Installation) : Migrator :=
  ⟨Releases.registry, installation.edition, installation.newInstanceId⟩

/-! ## Opening -/

/-- Bring the layout of a database up to date or refuse it. Where changes are refused
nothing may be lacking. -/
def openDatabase (refusal : Option Database.Refusal) (content : Database) :
    Except Failure Database :=
  match refusal, content.tables with
  | some refusal, none => .error (.of (.layoutTableNotMade refusal.error))
  | refusal, _ =>
      match content.migrateLayout with
      | .error ⟨version⟩ => .error (.of (.unsupportedLayout version))
      | .ok opened =>
          match refusal with
          | none => .ok opened
          | some refusal =>
              if opened.layouts = content.layouts then .ok content
              else .error (.of (.layoutNotRecorded Database.latestLayout refusal.error))

def openSite (installation : Installation) (site : Site) : Except Failure Database :=
  match site.ground with
  | .closed error => .error (.of (.databaseNotOpened installation.path error))
  | .unusable error => .error (.of (.databaseNotConfigured error))
  | .transient => openDatabase site.refusal Database.blank
  | .database content => openDatabase site.refusal content

/-- Open the database and use it. What is stored stays as it is in a database that
cannot be opened. -/
def visit (installation : Installation) (use : Database → Except Failure α × Database)
    (site : Site) : Except Failure α × Site :=
  match installation.openSite site with
  | .error failure => (.error failure, site.visited)
  | .ok opened =>
      let (result, content) := use opened
      (result, site.leave content)

def perform (installation : Installation) (action : Action Failure α) (site : Site) :
    Except Failure α × Site :=
  installation.visit (action.run site.backend) site

/-- As `perform`, but only on a database that is there already. -/
def ask (installation : Installation) (action : Action Failure α) (site : Site) :
    Except Failure α × Site :=
  if site.isPresent then installation.perform action site
  else (.error (.of (.databaseMissing installation.path)), site)

/-! ## Actions -/

def prepare : Action Failure Unit :=
  Bookkeeping.prepare.withError fun cause => .of (.store cause)

def readRecord : Action Failure VersionRecord := do
  prepare
  Bookkeeping.record.withError (.ofMigration .readingRecord)

def readFlag : Action Failure Bool := do
  prepare
  Bookkeeping.isUpdating.withError (.ofStore .readingFlag)

def survey (installation : Installation) (target : String) :
    Action Failure (Option VersionRecord × PlanOutcome × Bool) := do
  prepare
  let record ← Bookkeeping.record?.withError (.ofStore .readingRecord)
  let planned ← (installation.migrator.plan target).withError (.ofMigration (.planning target))
  let updating ← Bookkeeping.isUpdating.withError (.ofStore .readingFlag)
  return (record, planned, updating)

def statusReport (layout : LayoutStatus) :
    Option VersionRecord × PlanOutcome × Bool → StatusReport
  | (record, planned, updating) =>
      { target := planned.plan.toVersion
        record := record
        isUpdating := updating
        source := planned.source
        pendingSteps := planned.plan.pendingSteps
        isUpToDate := planned.isUpToDate
        layout := layout }

def plannedMigration (installation : Installation) (target : String) :
    Action Failure MigrationSummary := do
  prepare
  let planned ← (installation.migrator.plan target).withError (.ofMigration (.planning target))
  return .ofPlan planned

/-- Plan and migrate. A plan that fails is left for the migration to reject. -/
def completedMigration (installation : Installation) (target : String) :
    Action Failure MigrationSummary := do
  prepare
  let planned ← (installation.migrator.plan target).attempt
  let outcome ← (installation.migrator.run target).withError (.ofMigration (.migrating target))
  return .ofRun planned outcome

/-! ## Operations -/

/-- What is stored and what a migration would do. A database that does not exist is
planned for as an empty one, and stays missing. -/
def status (installation : Installation) (target : String) (site : Site) :
    Except Failure StatusReport × Site :=
  if site.isPresent then
    installation.visit
      (fun opened =>
        let (survey, after) := (installation.survey target).run site.backend opened
        (survey.map (statusReport after.layoutStatus), after))
      site
  else
    let (survey, _) := installation.perform (installation.survey target) Site.transient
    (survey.map (statusReport Database.unappliedLayout), site)

def migrate (installation : Installation) (target : String) (dryRun : Bool) :
    Site → Except Failure MigrationSummary × Site :=
  installation.perform
    (if dryRun then installation.plannedMigration target
      else installation.completedMigration target)

def currentVersion (installation : Installation) : Site → Except Failure VersionRecord × Site :=
  installation.ask readRecord

def currentEdition (installation : Installation) : Site → Except Failure Edition × Site :=
  installation.ask (VersionRecord.edition <$> readRecord)

def instanceId (installation : Installation) : Site → Except Failure String × Site :=
  installation.ask (VersionRecord.instanceId <$> readRecord)

def isUpdating (installation : Installation) : Site → Except Failure Bool × Site :=
  installation.ask readFlag

def storeInstanceId (instanceId : String) : Action Failure VersionRecord := do
  prepare
  (Bookkeeping.setInstanceId instanceId).withError (.ofMigration .storingInstanceId)

/-- Give the installation another id, without the white space around it. -/
def setInstanceId (installation : Installation) (instanceId : String) (site : Site) :
    Except Failure VersionRecord × Site :=
  let trimmed := Text.trim instanceId
  if trimmed = "" then (.error (.of .blankInstanceId), site)
  else installation.perform (storeInstanceId trimmed) site

def start (installation : Installation) (target : String) (site : Site) :
    Except Failure MigrationSummary × Site :=
  let (result, after) := installation.migrate target false site
  (result.mapError (.during (.starting installation.path)), after)

end Installation

end StoreMigration
