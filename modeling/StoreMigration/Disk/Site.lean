import StoreMigration.Store.Database

/-! The place of one database, as far as opening it can tell. -/

namespace StoreMigration

inductive Ground where
  /-- No place on disk: whatever is opened there is new and gone afterwards. -/
  | transient
  | closed (error : EngineError)
  /-- A file that can be opened, but not used as a database. -/
  | unusable (error : EngineError)
  /-- A database. If there is none yet it is made by opening it. -/
  | database (content : Database)

structure Site where
  /-- Whether the text that names the database leads to something, be it a database
  or not. Where the text is not just a path this is another thing than its ground. -/
  isPresent : Bool
  /-- Whether the text leads to the database once there is one. -/
  isReached : Bool
  ground : Ground
  refusal : Option Database.Refusal
  isOpened : Bool

namespace Site

def transient : Site := ⟨false, false, .transient, none, false⟩

def visited (site : Site) : Site :=
  { site with isPresent := site.isPresent || site.isReached, isOpened := true }

def leave (site : Site) (content : Database) : Site :=
  match site.ground with
  | .transient => site
  | _ => { site.visited with ground := .database content }

def backend (site : Site) : Backend Database :=
  match site.refusal with
  | none => Database.backend
  | some refusal => Database.guardedBackend refusal

end Site

end StoreMigration
