import StoreMigration.Store.Address

/-! What the database engine says when it refuses something: words for the case at
hand, and a code with a text of its own. -/

namespace StoreMigration

inductive DiskAction where
  | opening
  | reading
  | deleting
  | locking
  deriving DecidableEq, Repr

inductive EngineError where
  | cannotOpen
  | notADatabase
  | readOnly
  /-- A write was broken off that would have to be undone, but the file may only be
  read. -/
  | recoveryRefused
  | busy
  | diskFailed (action : DiskAction)
  | checkFailed (check : String)
  | tableMissing (table : String)
  | addressRefused (error : AddressError)
  deriving DecidableEq, Repr

def DiskAction.codeText : DiskAction → String
  | opening => "Error code 10: Some kind of disk I/O error occurred"
  | reading => "Error code 266: Error reading from disk"
  | deleting => "Error code 2570: I/O error within xDelete of a VFS object"
  | locking => "Error code 3850: I/O error in the advisory file locking layer"

namespace EngineError

def message : EngineError → String
  | cannotOpen => "unable to open database file"
  | notADatabase => "file is not a database"
  | readOnly | recoveryRefused => "attempt to write a readonly database"
  | busy => "database is locked"
  | diskFailed _ => "disk I/O error"
  | checkFailed check => "CHECK constraint failed: " ++ check
  | tableMissing table => "no such table: " ++ table
  | addressRefused error => error.message

def codeText : EngineError → String
  | cannotOpen => "Error code 14: Unable to open the database file"
  | notADatabase => "Error code 26: File opened that is not a database file"
  | readOnly => "Error code 8: Attempt to write a readonly database"
  | recoveryRefused => "Error code 776: Database has hot journal that must be rolled back"
  | busy => "Error code 5: The database file is locked"
  | diskFailed action => action.codeText
  | checkFailed _ => "Error code 275: A CHECK constraint failed"
  | addressRefused (.accessDenied _) => "Error code 3: Access permission denied"
  | tableMissing _ | addressRefused _ => "Error code 1: SQL error or missing database"

def messages (error : EngineError) : List String := [error.message, error.codeText]

/-- As `messages`, while a file is being opened: a file that cannot be opened is
named. -/
def openingMessages (path : String) : EngineError → List String
  | cannotOpen => [cannotOpen.message ++ ": " ++ path, cannotOpen.codeText]
  | error => error.messages

/-- As `messages`, while a database is copied: the engine then keeps the words to
itself. A lock in the way has nothing but its code. -/
def copyingMessages : EngineError → List String
  | busy => [busy.codeText, busy.codeText]
  | error => ["not an error", error.codeText]

end EngineError

end StoreMigration
