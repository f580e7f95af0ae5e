import StoreMigration.Json.Decode
import StoreMigration.Json.Reader
import StoreMigration.Store.EngineError

/-! What can be asked of a store, and how it can refuse. -/

namespace StoreMigration

/-! ## Refusals -/

inductive BackendFault where
  | reported (message : String)
  | engine (error : EngineError)
  deriving DecidableEq, Repr

inductive CodecFault where
  | undecodable (cause : DecodeError)
  | unreadable (cause : ReadError)
  deriving Repr

inductive StoreError where
  | backend (fault : BackendFault)
  | encoding (bucket key : String) (fault : CodecFault)
  deriving Repr

namespace BackendFault

def causes : BackendFault → List String
  | reported message => [message]
  | engine error => error.messages

end BackendFault

def CodecFault.message : CodecFault → String
  | undecodable cause => cause.message
  | unreadable cause => cause.message

namespace StoreError

def message : StoreError → String
  | backend _ => "store backend error"
  | encoding bucket key _ => "failed to encode or decode object " ++ bucket ++ "/" ++ key

def causes : StoreError → List String
  | backend fault => fault.causes
  | encoding _ _ fault => [fault.message]

end StoreError

/-! ## Requests -/

inductive Request where
  | ensureBucket (bucket : String)
  | get (bucket key : String)
  | update (bucket key : String) (value : Json)
  | delete (bucket key : String)
  | listKeys (bucket : String)
  deriving Repr

namespace Request

abbrev Answer : Request → Type
  | ensureBucket _ => Unit
  | get _ _ => Option Json
  | update _ _ _ => Unit
  | delete _ _ => Unit
  | listKeys _ => List String

def bucket : Request → String
  | ensureBucket bucket => bucket
  | get bucket _ => bucket
  | update bucket _ _ => bucket
  | delete bucket _ => bucket
  | listKeys bucket => bucket

def key? : Request → Option String
  | ensureBucket _ => none
  | get _ key => some key
  | update _ key _ => some key
  | delete _ key => some key
  | listKeys _ => none

def isWrite : Request → Bool
  | ensureBucket _ => true
  | update _ _ _ => true
  | delete _ _ => true
  | get _ _ => false
  | listKeys _ => false

end Request

abbrev Response (request : Request) := Except StoreError request.Answer

/-- A store that is used by calls: each one is answered and leaves the store in
some state. -/
abbrev Backend (σ : Type) := (request : Request) → σ → Response request × σ

end StoreMigration
