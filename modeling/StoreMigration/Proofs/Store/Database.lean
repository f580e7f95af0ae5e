import StoreMigration.Disk.Site
import StoreMigration.Proofs.Json.RoundTrip
import StoreMigration.Proofs.Store.Storage

/-! A database is a storage of JSON texts: a text is stored for a value, and the text that
was stored for a value reads back as it. What is refused, because there are no tables,
because a text has no value or because the database may only be read, changes no object. -/

namespace StoreMigration

namespace Database

def decode (text : String) : Except CodecFault Json :=
  match Json.read Json.valuePolicy text with
  | .ok value => .ok value
  | .error cause => .error (.unreadable cause)

theorem decode_compact {value : Json} (floatFree : value.FloatFree) (wellFormed : value.WellFormed)
    (shallow : value.depth < 128) : decode value.compact = .ok value := by
  have nested : value.depth ≤ Json.valuePolicy.nesting := Nat.le_of_lt_succ shallow
  rw [decode, Json.read_compact Json.valuePolicy floatFree wellFormed nested]

theorem answer_read (tables : Buckets String) (bucket key : String) :
    Objects.answer decode tables.read bucket key = readObject bucket key tables := by
  rw [Objects.answer, readObject]
  cases tables.read bucket key with
  | none => rfl
  | some text =>
      simp only [decode, readText]
      cases Json.read Json.valuePolicy text <;> rfl

def texts (database : Database) : Objects String :=
  database.stored.read

/-! ## Calls on the tables -/

def tablesBackend : Backend (Buckets String)
  | .ensureBucket bucket, tables => (.ok (), tables.ensure bucket)
  | .get bucket key, tables => (readObject bucket key tables, tables)
  | .update bucket key value, tables => writeText bucket key value.compact tables
  | .delete bucket key, tables => (.ok (), tables.delete bucket key)
  | .listKeys bucket, tables => (.ok (tables.keys bucket), tables)

theorem backend_eq_withTables (request : Request) (database : Database) :
    backend request database = database.withTables (tablesBackend request) := by
  cases request <;> rfl

theorem read_of_refused {request : Request} {tables : Buckets String} {error : StoreError}
    (refusal : (tablesBackend request tables).1 = .error error) :
    (tablesBackend request tables).2.read = tables.read := by
  cases request with
  | ensureBucket bucket => cases refusal
  | get bucket key => rfl
  | delete bucket key => cases refusal
  | listKeys bucket => cases refusal
  | update bucket key value =>
      rw [tablesBackend, writeText] at refusal ⊢
      split at refusal
      · cases refusal
      · next noText =>
          rw [if_neg noText]
          exact Buckets.read_ensure_eq tables bucket

theorem read_of_granted {request : Request} {tables : Buckets String} {answer : request.Answer}
    (grant : (tablesBackend request tables).1 = .ok answer) :
    (tablesBackend request tables).2.read = request.effect Json.compact tables.read := by
  cases request with
  | ensureBucket bucket => exact Buckets.read_ensure_eq tables bucket
  | get bucket key => rfl
  | delete bucket key => exact Buckets.read_delete_eq tables bucket key
  | listKeys bucket => rfl
  | update bucket key value =>
      rw [tablesBackend, writeText] at grant ⊢
      split at grant
      · next isText =>
          rw [if_pos isText]
          exact Buckets.read_write_eq tables bucket key value.compact
      · cases grant

def tablesStorage : Storage (Buckets String) String where
  backend := tablesBackend
  objects := Buckets.read
  encode := Json.compact
  decode := decode
  refused := read_of_refused
  granted := read_of_granted
  found {bucket key tables answer} response := (answer_read tables bucket key).trans response
  listed {bucket tables keys} response := by
    cases response
    exact Buckets.keys_listed tables bucket
  decode_encode := decode_compact

/-! ## Calls on the database -/

theorem backend_of_missing {database : Database} (missing : database.tables = none)
    (request : Request) :
    backend request database = (.error (.backend (.engine tablesMissing)), database) := by
  rw [backend_eq_withTables, withTables, missing]

theorem backend_of_tables {database : Database} {tables : Buckets String}
    (present : database.tables = some tables) (request : Request) :
    backend request database = ((tablesBackend request tables).1,
      { database with tables := some (tablesBackend request tables).2 }) := by
  rw [backend_eq_withTables, withTables, present]

theorem texts_of_tables {database : Database} {tables : Buckets String}
    (present : database.tables = some tables) : database.texts = tables.read := by
  rw [texts, stored, present]
  rfl

theorem takes_backend (request : Request) (database : Database) :
    tablesStorage.Takes backend texts request database := by
  cases present : database.tables with
  | none =>
      have refused := backend_of_missing present request
      exact .refused (.backend (.engine tablesMissing)) (by rw [refused]) (by rw [refused])
  | some tables =>
      have passed := backend_of_tables present request
      exact .passed tables (texts_of_tables present) (by rw [passed]; rfl) (by rw [passed]; rfl)

def storage : Storage Database String :=
  tablesStorage.over backend texts takes_backend

/-! ## Databases that refuse calls -/

theorem takes_guardedBackend (refusal : Refusal) (request : Request) (database : Database) :
    storage.Takes (guardedBackend refusal) texts request database := by
  cases refuses : refusal.refuses database request with
  | true =>
      have refused : guardedBackend refusal request database =
          (.error (.backend (.engine refusal.error)), database) := by
        rw [guardedBackend, if_pos refuses]
      exact .refused (.backend (.engine refusal.error)) (by rw [refused]) (by rw [refused])
  | false =>
      have passed : guardedBackend refusal request database = backend request database := by
        rw [guardedBackend, refuses, if_neg Bool.false_ne_true]
      exact .passed database rfl (by rw [passed]; rfl) (by rw [passed]; rfl)

def guardedStorage (refusal : Refusal) : Storage Database String :=
  storage.over (guardedBackend refusal) texts (takes_guardedBackend refusal)

end Database

def Site.storage (site : Site) : Storage Database String :=
  match site.refusal with
  | none => Database.storage
  | some refusal => Database.guardedStorage refusal

theorem Site.backend_storage (site : Site) : site.storage.backend = site.backend := by
  rw [storage, backend]
  cases site.refusal <;> rfl

end StoreMigration
