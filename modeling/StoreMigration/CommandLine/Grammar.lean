/-! Arguments of a command: options in front, each known by its full name and given
at most once, and operands after them. An option takes its value from the same
argument after an equals sign, or from the next argument if that does not look like
an option. -/

namespace StoreMigration.CommandLine

/-! ## Faults of usage -/

inductive UsageError where
  | unknownOption (argument : String)
  | repeatedOption (name : String)
  | missingValue (name : String)
  | unwantedValue (name : String)
  | refusedValue (name value : String)
  | missingOption (name : String)
  | unexpectedArgument (argument : String)
  | missingCommand
  | unknownCommand (argument : String)
  deriving DecidableEq, Repr

namespace UsageError

def message : UsageError → String
  | unknownOption argument => "unknown option " ++ argument
  | repeatedOption name => "option --" ++ name ++ " is given more than once"
  | missingValue name => "option --" ++ name ++ " needs a value"
  | unwantedValue name => "option --" ++ name ++ " takes no value"
  | refusedValue name value => "option --" ++ name ++ " does not accept " ++ value
  | missingOption name => "option --" ++ name ++ " is missing"
  | unexpectedArgument argument => "unexpected argument " ++ argument
  | missingCommand => "a command is missing"
  | unknownCommand argument => "unknown command " ++ argument

end UsageError

abbrev Reading (α : Type) := Except UsageError α

/-! ## Options -/

structure OptionRule where
  name : String
  /-- The values that are accepted; `none` for an option that takes no value. -/
  accepts : Option (String → Bool)

namespace OptionRule

def flag (name : String) : OptionRule := ⟨name, none⟩

def text (name : String) : OptionRule := ⟨name, some fun _ => true⟩

def path (name : String) : OptionRule := ⟨name, some fun value => value ≠ ""⟩

def checked (name : String) (accepts : String → Bool) : OptionRule := ⟨name, some accepts⟩

end OptionRule

/-- Options with their values; that of a flag is empty. -/
abbrev Given := List (String × String)

/-- Whether an argument that stands by itself is taken for an option. A single dash
is not. -/
def looksLikeOption (argument : String) : Bool :=
  argument.toList.head? = some '-' && argument ≠ "-"

def splitOption (characters : List Char) : String × Option String :=
  let name := String.ofList (characters.takeWhile (· ≠ '='))
  match characters.dropWhile (· ≠ '=') with
  | [] => (name, none)
  | _ :: value => (name, some (String.ofList value))

def accept (name : String) (accepts : String → Bool) (value : String) : Reading (String × String) :=
  if accepts value then .ok (name, value) else .error (.refusedValue name value)

/-- Read one option from its name and attached value and from the arguments after
it. What is left of those comes back. -/
def readOption (rules : List OptionRule) (argument : String) (characters : List Char)
    (rest : List String) : Reading ((String × String) × List String) := do
  let (name, attached) := splitOption characters
  match rules.find? fun rule => rule.name = name with
  | none => throw (.unknownOption argument)
  | some rule =>
      match rule.accepts, attached with
      | none, none => return ((name, ""), rest)
      | none, some _ => throw (.unwantedValue name)
      | some accepts, some value => return (← accept name accepts value, rest)
      | some accepts, none =>
          match rest with
          | [] => throw (.missingValue name)
          | value :: rest =>
              if looksLikeOption value then throw (.missingValue name)
              else return (← accept name accepts value, rest)

inductive Shape where
  | endOfOptions
  | option (characters : List Char)
  /-- A dash and letters; there are no such options. -/
  | letters
  | operand

def Shape.of (argument : String) : Shape :=
  match argument.toList with
  | ['-', '-'] => .endOfOptions
  | '-' :: '-' :: characters => .option characters
  | '-' :: _ :: _ => .letters
  | _ => .operand

/-- The options at the start of some arguments, and the operands after them. An
argument after two dashes is refused, since nothing here takes operands of that
kind. The fuel bounds the number of options. -/
def readOptionsWith (rules : List OptionRule) : Nat → List String → Reading (Given × List String)
  | 0, arguments => .ok ([], arguments)
  | _, [] => .ok ([], [])
  | fuel + 1, argument :: rest =>
      match Shape.of argument with
      | .operand => .ok ([], argument :: rest)
      | .letters => .error (.unknownOption argument)
      | .endOfOptions =>
          match rest with
          | [] => .ok ([], [])
          | extra :: _ => .error (.unexpectedArgument extra)
      | .option characters => do
          let (option, rest) ← readOption rules argument characters rest
          let (given, rest) ← readOptionsWith rules fuel rest
          if (given.lookup option.1).isSome then throw (.repeatedOption option.1)
          return (option :: given, rest)

def readOptions (rules : List OptionRule) (arguments : List String) :
    Reading (Given × List String) :=
  readOptionsWith rules arguments.length arguments

def readOnlyOptions (rules : List OptionRule) (arguments : List String) : Reading Given := do
  match ← readOptions rules arguments with
  | (given, []) => return given
  | (_, extra :: _) => throw (.unexpectedArgument extra)

namespace Given

def value (given : Given) (name default : String) : String :=
  (given.lookup name).getD default

def required (given : Given) (name : String) : Reading String :=
  match given.lookup name with
  | some value => .ok value
  | none => .error (.missingOption name)

def hasFlag (given : Given) (name : String) : Bool :=
  (given.lookup name).isSome

end Given

end StoreMigration.CommandLine
