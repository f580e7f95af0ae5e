import StoreMigration.Disk.Basic

/-! What the engine does beside the file of a database. Under names that start with the
name of the file it keeps a journal while it overwrites something, a log and an index
of the log while the log is in use, and a lock while it has one. Something else may be
there under these names, and names may be too long for a file. -/

namespace StoreMigration

/-! ## Companions -/

inductive Companion where
  | missing
  | empty
  | full
  | directory
  /-- Nothing, and no file can be made there: the name would be too long. -/
  | unnameable
  deriving DecidableEq, Repr

namespace Companion

def ofNode : Option Node → Companion
  | none => missing
  | some .directory => directory
  | some (.database content) => if content.isBlank then empty else full
  | some .foreign => full

def removed : Companion → Companion
  | empty | full => missing
  | other => other

end Companion

structure Vicinity where
  /-- A file that is not a database has no content. -/
  content : Option Database
  journal : Companion
  log : Companion
  index : Companion
  lock : Companion
  isLogged : Bool
  isLocked : Bool

namespace Terms

/-- Whether changes can go to a log: this takes memory that is shared, or no one to
share with. -/
def canLog (terms : Terms) : Bool :=
  terms.sharing = .memory || terms.sharing = .process

/-- Whether the index of a log is in a file. One process alone keeps it to itself, but
has the file for itself only when it may write to it. -/
def hasIndexFile (terms : Terms) : Bool :=
  terms.sharing = .memory || (terms.sharing = .process && terms.isReadOnly)

end Terms

/-- Something that the engine does. It may break off; what was done till then stays
done. -/
abbrev Handling := ExceptT EngineError (StateM Vicinity)

namespace Vicinity

/-! ## Beginning to read -/

def isBlank (near : Vicinity) : Bool := near.content.any Database.isBlank

def takeLock : Handling Unit := do
  match (← get).lock with
  | .missing => modify fun near => { near with lock := .directory, isLocked := true }
  | .unnameable => throw (.diskFailed .locking)
  | .empty | .full | .directory => throw .busy

/-- A journal tells of a change that was broken off. What is found in its place was
never written by the engine, so there is nothing to undo, and it is taken away. -/
def settleJournal (terms : Terms) : Handling Unit := do
  let near ← get
  match near.journal with
  | .missing | .empty | .unnameable => return
  | .directory => if !near.isBlank then throw (.diskFailed .reading)
  | .full =>
      if near.isBlank && terms.isReadOnly && terms.sharing ≠ .unguarded then return
      if !near.isBlank && terms.isReadOnly then throw .recoveryRefused
      modify fun near => { near with journal := .missing }

def logged (near : Vicinity) (terms : Terms) : Vicinity :=
  { near with
    isLogged := true
    log := if near.log = .missing then .empty else near.log
    index := if terms.hasIndexFile && near.index ≠ .directory then .full else near.index }

def openLog (terms : Terms) : Handling Unit := do
  if !terms.canLog then throw .cannotOpen
  match (← get).log with
  | .directory | .unnameable => throw .cannotOpen
  | .missing | .empty | .full => modify fun near => near.logged terms

/-- A log that was left behind is used, whatever the file says, unless there is nothing
in the file yet. -/
def settleLog (terms : Terms) : Handling Unit := do
  let near ← get
  match near.log with
  | .missing | .empty | .unnameable => return
  | .directory => throw (if near.isBlank then .diskFailed .deleting else .cannotOpen)
  | .full =>
      if near.isBlank then modify fun near => { near with log := .missing } else openLog terms

def settle (terms : Terms) : Handling Unit := do
  if terms.sharing = .lock then takeLock else settleJournal terms
  settleLog terms

/-- Begin to read the file. Nothing beside a file that does not change matters. -/
def enter (terms : Terms) : Handling Database := do
  if terms.sharing ≠ .unchanging then settle terms
  match (← get).content with
  | none => throw .notADatabase
  | some content =>
      if content.journal = .writeAhead && terms.sharing ≠ .unchanging && !(← get).isLogged then
        openLog terms
      return content

/-! ## Writing -/

def useJournal : Handling Unit := do
  match (← get).journal with
  | .directory | .unnameable => throw .cannotOpen
  | .missing | .empty | .full => modify fun near => { near with journal := .missing }

/-- Have all changes go to a log, if that is possible on these terms. -/
def configure (terms : Terms) : Handling Database := do
  let content ← enter terms
  if terms.canLog && !(← get).isLogged then
    if terms.isReadOnly then throw .readOnly
    useJournal
    let content : Database := { content with journal := .writeAhead }
    modify fun near => { near with content := some content }
    openLog terms
    return content
  else return content

/-- Whether the index cannot be written, and so neither can the log. -/
def isFrozen (near : Vicinity) (terms : Terms) : Bool :=
  near.isLogged && terms.sharing = .memory && near.index = .directory

def refusal (near : Vicinity) (terms : Terms) : Option Database.Refusal :=
  if terms.isReadOnly || near.isFrozen terms then some .writes
  else if near.isLogged then none
  else
    match near.journal with
    | .directory | .unnameable => some .changes
    | .missing | .empty | .full => none

/-- Put a copy of a database into the file. Where the file has its changes go to a log
they go on to do so. -/
def overwrite (terms : Terms) (copy : Database) : Handling Unit := do
  if terms.isReadOnly then throw .readOnly
  let _ ← enter terms
  let near ← get
  if near.isFrozen terms then throw .readOnly
  if near.isLogged then
    let copy : Database := { copy with journal := .writeAhead }
    modify fun near => { near with content := some copy, log := .full }
  else
    useJournal
    modify fun near => { near with content := some copy }

/-- With an opened database changed. The change is in the log, or else it has used a
journal. -/
def changed (near : Vicinity) (content : Database) : Vicinity :=
  { near with
    content := some content
    journal := if near.isLogged then near.journal else near.journal.removed
    log := if near.isLogged then .full else near.log }

def keep (near : Vicinity) (content : Database) : Vicinity :=
  if near.content = some content then near else near.changed content

/-- Stop using the file, while another goes on to use it. -/
def leave (near : Vicinity) : Vicinity :=
  { near with
    lock := if near.isLocked then .missing else near.lock
    isLogged := false
    isLocked := false }

/-- Stop using the file. The last to use a log takes it away, if it may write. -/
def close (near : Vicinity) (terms : Terms) : Vicinity :=
  let isCleared := near.isLogged && !terms.isReadOnly && !near.isFrozen terms
  { near.leave with
    log := if isCleared then near.log.removed else near.log
    index := if isCleared && terms.sharing = .memory then near.index.removed else near.index }

def perform (near : Vicinity) (handling : Handling α) : Except EngineError α × Vicinity :=
  handling.run.run near

end Vicinity

/-! ## On a disk -/

namespace Disk

def journalMark : String := "-journal"

def logMark : String := "-wal"

def indexMark : String := "-shm"

def lockMark : String := ".lock"

def companion (disk : Disk) (path : Path) (mark : String) : Companion :=
  if longestName < path.name.utf8ByteSize + mark.utf8ByteSize then .unnameable
  else .ofNode (disk.node? (path.beside mark))

/-- The file at a path and what is beside it. If there is no file it is blank. -/
def vicinity (disk : Disk) (path : Path) : Vicinity where
  content :=
    match disk.node? path with
    | some (.database content) => some content
    | none => some Database.blank
    | some .directory | some .foreign => none
  journal := disk.companion path journalMark
  log := disk.companion path logMark
  index := disk.companion path indexMark
  lock := disk.companion path lockMark
  isLogged := false
  isLocked := false

def putCompanion (disk : Disk) (path : Path) (mark : String) (after : Companion) : Disk :=
  if disk.companion path mark = after then disk
  else
    let place := path.beside mark
    match after with
    | .missing | .unnameable => disk.erase place
    | .empty => disk.put place (.database Database.blank)
    | .full => disk.put place .foreign
    | .directory => disk.put place .directory

def restore (disk : Disk) (path : Path) (near : Vicinity) : Disk :=
  let disk := match near.content with
    | none => disk
    | some content => disk.put path (.database content)
  (((disk.putCompanion path journalMark near.journal).putCompanion path logMark near.log
    ).putCompanion path indexMark near.index).putCompanion path lockMark near.lock

end Disk

end StoreMigration
