import StoreMigration.CommandLine.Perform
import StoreMigration.InstanceId
import StoreMigration.Store.Image

/-! The command. It looks at the places on disk that its arguments name, carries the
command out on what it saw, and writes back what has changed. -/

namespace StoreMigration.Main

/-! ## Looking -/

def probe (path : Path) : IO (Option Node) := do
  try
    let bytes ← IO.FS.readBinFile path.text
    match (String.fromUTF8? bytes).bind Database.ofImage? with
    | some content => return some (.database content)
    | none => return some .foreign
  catch
    | .noFileOrDirectory .. => return none
    | _ => return some .directory

def look (disk : Disk) : List Path → IO Disk
  | [] => return disk
  | path :: rest => do
      if (disk.node? path).isSome || !disk.isDirectory path.parent then look disk rest
      else
        match ← probe path with
        | none => look disk rest
        | some node => look (disk.put path node) rest

def besides (path : Path) : List Path :=
  [Disk.journalMark, Disk.logMark, Disk.indexMark, Disk.lockMark].map path.beside

def lookAt (disk : Disk) (text : String) : IO Disk :=
  let places := (Way.ofText text).places disk.home
  look disk (places ++ (places.getLast?.map besides).getD [])

/-- A text may name a database by another path than the text itself, and another file
besides. -/
def pathsIn (text : String) : List String :=
  match Address.read text with
  | .ok (.file path _ pattern) => path :: pattern.toList
  | _ => []

def texts (invocation : CommandLine.Invocation) : List String :=
  let named := match invocation.command with
    | .backup out => [invocation.database, out]
    | _ => [invocation.database]
  named ++ named.flatMap pathsIn

/-! ## Writing back -/

def imageOf : Option Node → Option String
  | some (.database content) => some content.image
  | _ => none

/-- What stands in the file of an index, which only shows that a log is in use. -/
def indexText : String := "index\n"

def save (before : Disk) (path : Path) : Node → IO Unit
  | .directory =>
      if before.isDirectory path then return () else IO.FS.createDirAll path.text
  | .database content =>
      if imageOf (before.node? path) = some content.image then return ()
      else IO.FS.writeFile path.text content.image
  | .foreign =>
      if (before.node? path).isSome then return () else IO.FS.writeFile path.text indexText

/-- Directories come before what they hold. What is gone was a file. -/
def saveAll (before after : Disk) : IO Unit := do
  for (path, node) in after.nodes.mergeSort fun left right => left.1.length ≤ right.1.length do
    save before path node
  for (path, _) in before.nodes do
    if (after.node? path).isNone then IO.FS.removeFile path.text

/-! ## Running -/

def newInstanceId : IO String := do
  let bytes ← IO.getRandomBytes 10
  let random := bytes.toList.foldl (fun value byte => value * 256 + byte.toNat) 0
  return InstanceId.ofParts (← IO.monoMsNow) random

def homeDisk : IO Disk := do
  let text := toString (← IO.currentDir)
  let way := Way.ofText text
  lookAt ⟨way.parts.foldl Path.follow [], []⟩ text

def finish (outcome : CommandLine.Outcome) : IO UInt32 := do
  (← IO.getStdout).putStr outcome.output
  (← IO.getStderr).putStr outcome.errors
  return outcome.exitCode.toUInt32

def perform (invocation : CommandLine.Invocation) : IO UInt32 := do
  let before ← (texts invocation).foldlM lookAt (← homeDisk)
  let (outcome, after) := invocation.perform (← newInstanceId) before
  saveAll before after
  finish outcome

end StoreMigration.Main

def main (arguments : List String) : IO UInt32 :=
  match StoreMigration.CommandLine.Invocation.read arguments with
  | .error error => StoreMigration.Main.finish (.ofUsageError error)
  | .ok invocation => StoreMigration.Main.perform invocation
