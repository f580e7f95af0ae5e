import StoreMigration.Text.Hexadecimal
import StoreMigration.Text.Split
import StoreMigration.Text.Truth
import StoreMigration.Text.Utf8

/-! What a text stands for when a database is opened by it: a file and the terms on
which it is used, or a database that is nowhere on disk and lasts as long as it is
open. A text that starts with `file:` is read in parts: a host, which can only be this
one, a path, options after a question mark, and what follows a number sign, which is
ignored. Any other text is a path as it stands. -/

namespace StoreMigration

inductive Access where
  | reading
  | writing
  | creating
  deriving DecidableEq, Repr

def Access.covers : Access → Access → Bool
  | creating, _ => true
  | writing, wanted => wanted != creating
  | reading, wanted => wanted == reading

inductive Sharing where
  /-- By locks on the file, and by memory that they share through a file beside it. -/
  | memory
  /-- One process has the file for itself, as far as it may write to it. -/
  | process
  /-- By a lock beside the file, which one user has at a time. -/
  | lock
  | unguarded
  /-- They need not: the file is taken not to change. -/
  | unchanging
  deriving DecidableEq, Repr

structure Terms where
  access : Access
  sharing : Sharing
  deriving DecidableEq, Repr

/-- What is taken not to change is only read. -/
def Terms.isReadOnly (terms : Terms) : Bool :=
  terms.access = .reading || terms.sharing = .unchanging

inductive Address where
  | transient (isReadOnly : Bool)
  | named (name : String) (isReadOnly isGuarded : Bool)
  /-- A file. If there is a pattern, the permissions of a new file are those of the file
  that the pattern leads to. -/
  | file (path : String) (terms : Terms) (pattern : Option String)
  deriving DecidableEq, Repr

inductive AddressError where
  | foreignHost (host : String)
  | unknownAccess (mode : String)
  | accessDenied (mode : String)
  | unknownCache (mode : String)
  | unknownSystem (name : String)
  deriving DecidableEq, Repr

def AddressError.message : AddressError → String
  | foreignHost host => "invalid uri authority: " ++ host
  | unknownAccess mode => "no such access mode: " ++ mode
  | accessDenied mode => "access mode not allowed: " ++ mode
  | unknownCache mode => "no such cache mode: " ++ mode
  | unknownSystem name => "no such vfs: " ++ name

namespace Address

/-- A path that names no file is that of a transient database. -/
def namesFile (path : String) : Bool := path ≠ "" && path ≠ ":memory:"

def ofPath (path : String) : Address :=
  if namesFile path then file path ⟨.creating, .memory⟩ none else transient false

/-! ## Parts -/

def scheme : List Char := ['f', 'i', 'l', 'e', ':']

/-- A part with escaped bytes; nothing counts after a byte of zeros. -/
def unescape (part : List Char) : String :=
  String.ofList (Text.Utf8.decode ((Text.percentDecode part).takeWhile (· ≠ 0)))

/-- What follows the host. There is a host where the text goes on with two slashes. -/
def withoutHost (text : List Char) : Except AddressError (List Char) :=
  match text with
  | '/' :: '/' :: rest =>
      let host := rest.takeWhile (· ≠ '/')
      if host = [] ∨ host = "localhost".toList then .ok (rest.dropWhile (· ≠ '/'))
      else .error (.foreignHost (String.ofList host))
  | _ => .ok text

def readOption (part : List Char) : String × String :=
  (unescape (part.takeWhile (· ≠ '=')), unescape ((part.dropWhile (· ≠ '=')).drop 1))

/-- Options without a name do not count. -/
def readOptions (text : List Char) : List (String × String) :=
  ((Text.splitAt '&' text).map readOption).filter fun option => option.1 ≠ ""

/-! ## Options -/

/-- What later options change. Without an access a database is opened in memory. -/
structure Choice where
  access : Option Access
  system : Option String

def defaultChoice : Choice := ⟨some .creating, none⟩

def accessOf : String → Except AddressError (Option Access)
  | "ro" => .ok (some .reading)
  | "rw" => .ok (some .writing)
  | "rwc" => .ok (some .creating)
  | "memory" => .ok none
  | mode => .error (.unknownAccess mode)

/-- Change an access. In memory everything is allowed. -/
def chooseAccess (mode : String) (current : Option Access) :
    Except AddressError (Option Access) := do
  let wanted ← accessOf mode
  match current, wanted with
  | some current, some wanted =>
      if current.covers wanted then return some wanted else throw (.accessDenied mode)
  | _, wanted => return wanted

/-- Options in order; a later one wins. -/
def choose (choice : Choice) : String × String → Except AddressError Choice
  | ("vfs", name) => .ok { choice with system := some name }
  | ("mode", mode) => do
      return { choice with access := ← chooseAccess mode choice.access }
  | ("cache", mode) =>
      if mode = "shared" ∨ mode = "private" then .ok choice else .error (.unknownCache mode)
  | _ => .ok choice

/-- How files are shared in the system of some name. There is one that has no files
but keeps all it is given in memory. -/
def sharingIn : String → Except AddressError (Option Sharing)
  | "unix" => .ok (some .memory)
  | "unix-excl" => .ok (some .process)
  | "unix-dotfile" => .ok (some .lock)
  | "unix-none" => .ok (some .unguarded)
  | "memdb" => .ok none
  | name => .error (.unknownSystem name)

/-- Whether an option is given and true. The first of its name counts. -/
def isSet (name : String) (options : List (String × String)) : Bool :=
  (options.lookup name).any Text.Truth.read

def sharingUnder (options : List (String × String)) (sharing : Sharing) : Sharing :=
  if isSet "immutable" options then .unchanging
  else if isSet "nolock" options then .unguarded
  else sharing

def ofChoice (path : String) (choice : Choice) (options : List (String × String)) :
    Except AddressError Address := do
  let sharing ← sharingIn (choice.system.getD "unix")
  match choice.access with
  | none => return transient false
  | some access =>
      if !namesFile path then return transient (access = .reading)
      match sharing with
      | none =>
          return named path (access = .reading || isSet "immutable" options)
            (!isSet "nolock" options)
      | some sharing =>
          return file path ⟨access, sharingUnder options sharing⟩ (options.lookup "modeof")

/-! ## Reading -/

def readParts (text : List Char) : Except AddressError Address := do
  let rest ← withoutHost text
  let plain := rest.takeWhile (· ≠ '#')
  let path := plain.takeWhile (· ≠ '?')
  let options := readOptions ((plain.dropWhile (· ≠ '?')).drop 1)
  ofChoice (unescape path) (← options.foldlM choose defaultChoice) options

def read (text : String) : Except AddressError Address :=
  if scheme.isPrefixOf text.toList then readParts (text.toList.drop scheme.length)
  else .ok (ofPath text)

end Address

end StoreMigration
