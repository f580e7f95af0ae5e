import StoreMigration.Disk.Opening
import StoreMigration.Installation.Basic

/-! Backups: the opened database is copied to another place on the disk. -/

namespace StoreMigration

namespace Disk

/-- Copy to a database in memory. One that is in use cannot be written, though it can
be opened. -/
def copyToMemory (isReadOnly isInUse : Bool) : Except EngineError Unit :=
  if isReadOnly then .error .readOnly
  else if isInUse then .error .busy
  else .ok ()

/-- Copy to the file at a path. If another still uses its log the log stays. -/
def copyToFile (disk : Disk) (path : Path) (terms : Terms) (isInUse : Bool) (content : Database) :
    Except EngineError Unit × Disk :=
  let (written, near) := (disk.vicinity path).perform (Vicinity.overwrite terms content)
  (written, disk.restore path (if isInUse then near.leave else near.close terms))

/-- Write a copy of a database, which is in use at some place. A database that is there
already is replaced. -/
def writeBackup (disk : Disk) (backup : String) (inUse : Option Place)
    (content : Database) : Except Failure Unit × Disk :=
  let failed (error : EngineError) : Failure := .of (.backupNotCopied backup error)
  match disk.placeOf backup with
  | .error error => (.error (.of (.backupNotOpened backup error)), disk)
  | .ok (.transient isReadOnly name) =>
      let isInUse := name.isSome && name = inUse.bind Place.commonName
      ((copyToMemory isReadOnly isInUse).mapError failed, disk)
  | .ok (.file path terms) =>
      let isInUse := inUse.any fun place => place.sharesLogOf path
      let (written, disk) := disk.copyToFile path terms isInUse content
      (written.mapError failed, disk)

def makeBackupDirectory (disk : Disk) (backup : String) : Except Failure Unit × Disk :=
  let way := Way.ofText backup
  let (made, disk) := disk.makeDirectories (way.start disk.home) way.movesToHolder
  (made.mapError fun obstacle => .of (.backupDirectoryNotMade backup obstacle), disk)

end Disk

namespace Installation

/-- Open the database and copy it. It stays open until the copy is made. -/
def backup (installation : Installation) (backup : String) (disk : Disk) :
    Except Failure Unit × Disk :=
  let (opened, site) := installation.visit (fun content => (.ok content, content))
    (disk.site installation.path)
  let inUse := (disk.placeOf installation.path).toOption
  let (disk, close) := disk.occupy installation.path site
  match opened with
  | .error failure => (.error failure, close disk)
  | .ok content =>
      match disk.makeBackupDirectory backup with
      | (.error failure, disk) => (.error failure, close disk)
      | (.ok (), disk) =>
          let (written, disk) := disk.writeBackup backup inUse content
          (written, close disk)

end Installation

end StoreMigration
