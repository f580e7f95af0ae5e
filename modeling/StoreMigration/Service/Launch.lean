import StoreMigration.CommandLine.Command
import StoreMigration.CommandLine.Outcome
import StoreMigration.Disk.Opening
import StoreMigration.Service.Basic
import StoreMigration.Text.Split

/-! Starting the service: its arguments, and what happens before it listens. -/

namespace StoreMigration.Service

open CommandLine (Reading OptionRule Given Outcome)

/-! ## Addresses -/

/-- A number between dots: up to three digits, none of them superfluous, below
256. -/
def isByteText (digits : List Char) : Bool :=
  digits.length ≤ 3 && (digits.length ≤ 1 || digits.head? != some '0') &&
    (Text.Decimal.readNat digits).any fun value => value < 256

def isWordText (digits : List Char) : Bool :=
  (Text.Decimal.readNat digits).any fun value => value < 65536

def isAddress (text : String) : Bool :=
  match Text.splitAt ':' text.toList with
  | [host, word] =>
      let numbers := Text.splitAt '.' host
      numbers.length = 4 && numbers.all isByteText && isWordText word
  | _ => false

/-! ## Arguments -/

structure Launch where
  database : String
  address : String
  target : String
  edition : Edition
  deriving DecidableEq, Repr

def defaultAddress : String := "127.0.0.1:4010"

def Launch.read (arguments : List String) : Reading Launch := do
  let given ← CommandLine.readOnlyOptions
    [CommandLine.databaseRule, OptionRule.checked "bind" isAddress, CommandLine.targetRule,
      CommandLine.editionRule] arguments
  return ⟨Given.database given, given.value "bind" defaultAddress, Given.target given,
    Given.edition given⟩

def Launch.service (launch : Launch) (newInstanceId : String) : Service :=
  ⟨⟨launch.database, launch.edition, newInstanceId⟩, launch.target⟩

/-! ## Start -/

/-- Start a service on an address that may be in use. A service that cannot start
ends with the reason; `none` means that it goes on to listen. -/
def launch (arguments : List String) (newInstanceId : String) (addressInUse : Bool)
    (disk : Disk) : Option Outcome × Disk :=
  match Launch.read arguments with
  | .error error => (some (.ofUsageError error), disk)
  | .ok launch =>
      let service := launch.service newInstanceId
      match disk.visit service.installation.path service.start with
      | (.error failure, disk) => (some (.ofFailure failure), disk)
      | (.ok _, disk) =>
          (if addressInUse then some (.ofFailure (.of .addressInUse)) else none, disk)

end StoreMigration.Service
