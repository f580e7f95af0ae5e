import StoreMigration.CommandLine.Grammar
import StoreMigration.Installation.Failure

/-! What a finished program leaves: what it printed and its exit code. -/

namespace StoreMigration.CommandLine

structure Outcome where
  exitCode : Nat
  output : String
  errors : String
  deriving DecidableEq, Repr

namespace Outcome

def causeLines (heading : List Char) (cause : String) : List Char :=
  heading ++ cause.toList.flatMap fun character =>
    if character = '\n' then '\n' :: List.replicate heading.length ' ' else [character]

def numberHeading (number : Nat) : List Char :=
  let digits := Text.Decimal.toDigits number
  List.replicate (5 - digits.length) ' ' ++ digits ++ [':', ' ']

/-- Several causes are numbered, a single one is only indented. -/
def causesText : List String → List Char
  | [] => []
  | [cause] => causesHeading ++ causeLines [' ', ' ', ' ', ' '] cause
  | causes =>
      causesHeading ++ List.intercalate ['\n'] (causes.mapIdx fun number cause =>
        causeLines (numberHeading number) cause)
where
  causesHeading : List Char := "\n\nCaused by:\n".toList

def failureText (failure : Failure) : String :=
  match failure.messages with
  | [] => "Error: \n"
  | message :: causes =>
      "Error: " ++ message ++ String.ofList (causesText causes) ++ "\n"

def ofFailure (failure : Failure) : Outcome := ⟨1, "", failureText failure⟩

def ofUsageError (error : UsageError) : Outcome := ⟨2, "", "error: " ++ error.message ++ "\n"⟩

end Outcome

end StoreMigration.CommandLine
