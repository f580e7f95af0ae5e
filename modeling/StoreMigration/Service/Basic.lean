import StoreMigration.Installation.Basic
import StoreMigration.Service.Query

/-! The service: what it answers to requests about an installation. -/

namespace StoreMigration

structure Service where
  installation : Installation
  target : String

namespace Service

def contractVersion : String := "service.v1"

/-! ## Routes -/

inductive Route where
  | health
  | ready
  | version
  | databaseStatus
  deriving DecidableEq, Repr

def Route.ofPath? (path : String) : Option Route :=
  if path = "/v1/health" then some .health
  else if path = "/v1/ready" then some .ready
  else if path = "/v1/version" then some .version
  else if path = "/v1/db/status" then some .databaseStatus
  else none

def endsHost (character : Char) : Bool :=
  character = '/' || character = '?' || character = '#'

/-- An address from its path on. One that does not start with a slash names a scheme
and a host in front. -/
def withoutHost (address : List Char) : List Char :=
  match address.dropWhile (· ≠ ':') with
  | ':' :: '/' :: '/' :: rest =>
      if address.head? = some '/' then address else rest.dropWhile fun character => !endsHost character
  | _ => address

/-- The path and the query of an address; a fragment is not part of either. -/
def splitAddress (address : String) : String × List Char :=
  let plain := (withoutHost address.toList).takeWhile (· ≠ '#')
  (String.ofList (plain.takeWhile (· ≠ '?')), (plain.dropWhile (· ≠ '?')).drop 1)

/-! ## Answers -/

structure Answer where
  status : Nat
  body : String
  deriving DecidableEq, Repr

def success (data : Json) : Answer :=
  ⟨200, (Json.object [("service_contract_version", .string contractVersion),
    ("api_contract_version", .string reportContractVersion), ("data", data)]).compact⟩

def refusal (status : Nat) (error : String) : Answer :=
  ⟨status, (Json.object [("service_contract_version", .string contractVersion),
    ("error", .string error)]).compact⟩

def health (state : String) : Json := .object [("status", .string state)]

def versionData (record : VersionRecord) : Json :=
  .object [("schema_version", .string record.schemaVersion),
    ("replay_count", .ofUInt32 record.replayCount),
    ("edition", .ofInt64 record.edition.code),
    ("edition_name", .string record.edition.name),
    ("instance_id", .string record.instanceId),
    ("app_schema_version", .string Releases.appSchemaVersion)]

def answerHealth : Answer := success (health "ok")

def answerReady : Except Failure Bool → Answer
  | .ok false => success (health "ready")
  | .ok true => refusal 503 "database migration is in progress or was interrupted"
  | .error failure => refusal 500 failure.line

def answerVersion : Except Failure VersionRecord → Answer
  | .ok record => success (versionData record)
  | .error failure => refusal 500 failure.line

/-- A target that is no version is the fault of the client; every other failure is
the service's own. -/
def answerStatus : Except Failure StatusReport → Answer
  | .ok report => success report.toJson
  | .error failure => refusal (if failure.blamesTarget then 400 else 500) failure.line

/-! ## Requests -/

/-- Answer a request for the status, which may name a target of its own. -/
def respondStatus (service : Service) (query : List Char) (site : Site) : Answer × Site :=
  match singleField "target" (decodeFields query) with
  | .error repeated => (⟨400, repeated.message⟩, site)
  | .ok target =>
      let (result, site) := service.installation.status (target.getD service.target) site
      (answerStatus result, site)

def read (service : Service) (query : List Char) (site : Site) : Route → Answer × Site
  | .health => (answerHealth, site)
  | .ready =>
      let (result, site) := service.installation.isUpdating site
      (answerReady result, site)
  | .version =>
      let (result, site) := service.installation.currentVersion site
      (answerVersion result, site)
  | .databaseStatus => service.respondStatus query site

/-- Answer any request. `HEAD` is `GET` without the body; no other method is
allowed. -/
def respond (service : Service) (method address : String) (site : Site) : Answer × Site :=
  let (path, query) := splitAddress address
  match Route.ofPath? path with
  | none => (⟨404, ""⟩, site)
  | some route =>
      if method = "GET" then service.read query site route
      else if method = "HEAD" then
        let (answer, site) := service.read query site route
        ({ answer with body := "" }, site)
      else (⟨405, ""⟩, site)

def start (service : Service) : Site → Except Failure MigrationSummary × Site :=
  service.installation.start service.target

end Service

end StoreMigration
