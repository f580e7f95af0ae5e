import StoreMigration.Json.Printer
import StoreMigration.Json.Reader
import StoreMigration.Store.Database

/-! The text of a database file: one JSON object with the way in which it guards its
changes, the recorded layouts and every bucket, in which objects are stored as
texts. -/

namespace StoreMigration.Database

/-! ## Writing -/

def bucketImage (objects : OrderedMap String) : Json :=
  .object (objects.entries.map fun entry => (entry.1, .string entry.2))

def tablesImage (tables : Buckets String) : Json :=
  .object (tables.entries.map fun entry => (entry.1, bucketImage entry.2))

/-- A blank database has no text at all. -/
def image (database : Database) : String :=
  if database.isBlank then ""
  else
    (Json.object [("write_ahead", .bool (database.journal = .writeAhead)),
      ("layouts", .array (database.layouts.map .integer)),
      ("buckets", .optional tablesImage database.tables)]).laidOut

/-! ## Reading -/

def layoutsOf : List Json → Option (List Int)
  | [] => some []
  | .number (.integer version) :: rest => (layoutsOf rest).map (recordLayout version)
  | _ => none

def objectsOf (bucket : String) : Fields → Buckets String → Option (Buckets String)
  | [], tables => some (tables.ensure bucket)
  | (key, .string text) :: rest, tables => objectsOf bucket rest (tables.write bucket key text)
  | _, _ => none

def tablesOf : Fields → Buckets String → Option (Buckets String)
  | [], tables => some tables
  | (bucket, .object objects) :: rest, tables =>
      (objectsOf bucket objects tables).bind (tablesOf rest)
  | _, _ => none

def ofImageValue? (value : Json) : Option Database :=
  match value with
  | .object [("write_ahead", .bool isAhead), ("layouts", .array layouts), ("buckets", buckets)] => do
      let journal : Journal := if isAhead then .writeAhead else .rollback
      let layouts ← layoutsOf layouts
      match buckets with
      | .null => return ⟨layouts, none, journal⟩
      | .object fields => return ⟨layouts, some (← tablesOf fields Buckets.empty), journal⟩
      | _ => none
  | _ => none

def ofImage? (text : String) : Option Database :=
  if text = "" then some blank
  else
    match Json.read Json.valuePolicy text with
    | .ok value => ofImageValue? value
    | .error _ => none

end StoreMigration.Database
