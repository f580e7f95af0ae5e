import StoreMigration.CommandLine.Command
import StoreMigration.CommandLine.Outcome
import StoreMigration.Disk.Opening
import StoreMigration.Installation.Backup
import StoreMigration.Json.Printer

/-! Carrying out commands. What a command reports is printed as one JSON document. -/

namespace StoreMigration.CommandLine

def contractVersion : String := "cli.v1"

/-- The report of a command. The two contract versions are its last fields. -/
def document (fields : Fields) : Json :=
  .object (fields ++ [("cli_contract_version", .string contractVersion),
    ("api_contract_version", .string reportContractVersion)])

def versionFields (record : VersionRecord) (updating : Bool) : Fields :=
  [("schema_version", .string record.schemaVersion),
    ("replay_count", .ofUInt32 record.replayCount),
    ("edition", .string record.edition.name),
    ("edition_code", .ofInt64 record.edition.code),
    ("instance_id", .string record.instanceId),
    ("is_updating", .bool updating),
    ("app_schema_version", .string Releases.appSchemaVersion)]

def showVersion (installation : Installation) (site : Site) : Except Failure Fields × Site :=
  match installation.currentVersion site with
  | (.error failure, site) => (.error failure, site)
  | (.ok record, site) =>
      let (updating, site) := installation.isUpdating site
      (updating.map (versionFields record), site)

def report (installation : Installation) (command : Command) (disk : Disk) :
    Except Failure Fields × Disk :=
  match command with
  | .status target =>
      disk.visit installation.path fun site =>
        let (result, site) := installation.status target site
        (result.map StatusReport.fields, site)
  | .migrate target dryRun =>
      disk.visit installation.path fun site =>
        let (result, site) := installation.migrate target dryRun site
        (result.map MigrationSummary.fields, site)
  | .backup out =>
      let (result, disk) := installation.backup out disk
      (result.map fun _ => [("backup_file", .string out)], disk)
  | .showVersion => disk.visit installation.path (showVersion installation)
  | .setInstanceId id =>
      disk.visit installation.path fun site =>
        let (result, site) := installation.setInstanceId id site
        (result.map fun record =>
          [("schema_version", .string record.schemaVersion),
            ("instance_id", .string record.instanceId)], site)

def Invocation.perform (invocation : Invocation) (newInstanceId : String) (disk : Disk) :
    Outcome × Disk :=
  let installation : Installation := ⟨invocation.database, invocation.edition, newInstanceId⟩
  match report installation invocation.command disk with
  | (.ok fields, disk) => (⟨0, (document fields).laidOut ++ "\n", ""⟩, disk)
  | (.error failure, disk) => (.ofFailure failure, disk)

/-- Read some arguments and carry out the command that they stand for. Arguments
that stand for none change nothing. -/
def run (arguments : List String) (newInstanceId : String) (disk : Disk) : Outcome × Disk :=
  match Invocation.read arguments with
  | .error error => (.ofUsageError error, disk)
  | .ok invocation => invocation.perform newInstanceId disk

end StoreMigration.CommandLine
