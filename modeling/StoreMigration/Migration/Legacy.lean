import StoreMigration.Migration.Bookkeeping

/-! Stores from before there was a version record. There a schema number, the
edition and the instance id lie under three keys of their own; they are imported
once, as a record, and then removed. -/

namespace StoreMigration.Legacy

def versionKey : String := "DB_VERSION"

def editionKey : String := "EDITION"

def instanceKey : String := "INSTANCE_ID"

/-- The release of each schema number that was ever in use, in ascending order of
the numbers. -/
def releases : List (Int64 × Version) :=
  [(18, .release 1 21 0), (19, .release 1 22 0), (20, .release 1 22 1), (21, .release 1 22 2),
    (22, .release 1 23 0), (23, .release 1 24 0), (24, .release 1 24 1), (25, .release 2 0 0),
    (26, .release 2 1 0), (27, .release 2 2 0), (28, .release 2 4 0), (29, .release 2 4 0),
    (30, .release 2 6 0), (31, .release 2 7 0), (32, .release 2 9 0), (33, .release 2 9 1),
    (34, .release 2 10 0), (35, .release 2 9 3), (36, .release 2 12 0), (40, .release 2 13 0),
    (50, .release 2 14 0), (51, .release 2 14 1), (52, .release 2 14 2), (60, .release 2 15 0),
    (70, .release 2 16 0)]

/-- The release that stands for all numbers below the table. -/
def earliestRelease : Version := .release 1 0 0

/-- The release of a schema number. A number between two entries or above the last
is unknown. -/
def release (number : Int64) : Except MigrationError Version :=
  match releases.lookup number with
  | some version => .ok version
  | none =>
      if number < 18 then .ok earliestRelease else .error (.unknownLegacyVersion number)

def require (key : String) : Option α → Except MigrationError α
  | some value => .ok value
  | none => .error (.missingLegacyKey key)

def record? : Action MigrationError (Option VersionRecord) := do
  let number ← Action.withError .store
    (Action.getAs Json.decodeInt64 Bookkeeping.bucket versionKey)
  match number with
  | none => return none
  | some number =>
      let edition ← Action.withError .store
        (Action.getAs Json.decodeInt64 Bookkeeping.bucket editionKey)
      let edition ← Action.ofResult (require editionKey edition)
      let instanceId ← Action.withError .store
        (Action.getAs Json.decodeString Bookkeeping.bucket instanceKey)
      let instanceId ← Action.ofResult (require instanceKey instanceId)
      let version ← Action.ofResult (release number)
      return some ⟨version.text, 0, ⟨edition⟩, instanceId⟩

inductive Outcome where
  | alreadyVersioned
  | noLegacyData
  | imported (record : VersionRecord)
  deriving DecidableEq, Repr

/-- Replace the three keys by a record. A key that cannot be removed is left
behind. -/
def bridge : Action MigrationError Outcome := do
  match ← Action.withError .store Bookkeeping.record? with
  | some _ =>
      let _ ← Action.withError .store (Action.contains Bookkeeping.bucket versionKey)
      return .alreadyVersioned
  | none =>
      match ← record? with
      | none => return .noLegacyData
      | some record =>
          Bookkeeping.persist Bookkeeping.recordKey (Bookkeeping.writeRecord record)
          Action.ignoringError (Action.delete Bookkeeping.bucket versionKey)
          Action.ignoringError (Action.delete Bookkeeping.bucket editionKey)
          Action.ignoringError (Action.delete Bookkeeping.bucket instanceKey)
          return .imported record

end StoreMigration.Legacy
