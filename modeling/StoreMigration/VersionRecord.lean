import StoreMigration.Edition
import StoreMigration.Json.Decode
import StoreMigration.Version.Reader

/-! The record that describes the stored data model, and its JSON form. It is
written as an object of four fields and read back from such an object in any
order, or from an array of the four values. -/

namespace StoreMigration

structure VersionRecord where
  schemaVersion : String
  /-- How many steps of the descriptor at `schemaVersion` are known to be applied. -/
  replayCount : UInt32
  edition : Edition
  instanceId : String
  deriving DecidableEq, Repr

namespace VersionRecord

def fresh (version : Version) (edition : Edition) (instanceId : String) : VersionRecord :=
  ⟨version.text, 0, edition, instanceId⟩

def parsedVersion (record : VersionRecord) : Except VersionError Version :=
  Version.read record.schemaVersion

/-! ## JSON form -/

def toJson (record : VersionRecord) : Json :=
  .object [("SchemaVersion", .string record.schemaVersion),
    ("MigratorCount", .ofUInt32 record.replayCount),
    ("Edition", .ofInt64 record.edition.code),
    ("InstanceID", .string record.instanceId)]

structure Draft where
  schemaVersion : Option String
  replayCount : Option UInt32
  edition : Option Edition
  instanceId : Option String

namespace Draft

def empty : Draft := ⟨none, none, none, none⟩

/-- Take in one field. Fields of other names are passed over. -/
def take (draft : Draft) (name : String) (value : Json) : Json.Decoded Draft :=
  if name = "SchemaVersion" then
    value.decodeString.map fun found => { draft with schemaVersion := some found }
  else if name = "MigratorCount" then
    value.decodeUInt32.map fun found => { draft with replayCount := some found }
  else if name = "Edition" then
    value.decodeInt64.map fun found => { draft with edition := some ⟨found⟩ }
  else if name = "InstanceID" then
    value.decodeString.map fun found => { draft with instanceId := some found }
  else .ok draft

def finish (draft : Draft) : Json.Decoded VersionRecord :=
  match draft.schemaVersion, draft.edition, draft.instanceId with
  | none, _, _ => .error (.missingField "SchemaVersion")
  | some _, none, _ => .error (.missingField "Edition")
  | some _, some _, none => .error (.missingField "InstanceID")
  | some schemaVersion, some edition, some instanceId =>
      .ok ⟨schemaVersion, draft.replayCount.getD 0, edition, instanceId⟩

end Draft

def ofFields : Draft → Fields → Json.Decoded VersionRecord
  | draft, [] => draft.finish
  | draft, (name, value) :: rest =>
      match draft.take name value with
      | .error error => .error error
      | .ok draft => ofFields draft rest

def arrayForm : String := "struct VersionRecord with 4 elements"

/-- An array has to hold exactly the four values. The first one that is missing
counts, though an absent replay count by itself is taken as zero. -/
def ofItems : List Json → Json.Decoded VersionRecord
  | [] => .error (.tooFewElements 0 arrayForm)
  | schemaVersion :: rest => do
      let schemaVersion ← schemaVersion.decodeString
      match rest with
      | [] => throw (.tooFewElements 2 arrayForm)
      | replayCount :: rest =>
          let replayCount ← replayCount.decodeUInt32
          match rest with
          | [] => throw (.tooFewElements 2 arrayForm)
          | edition :: rest =>
              let edition ← edition.decodeInt64
              match rest with
              | [] => throw (.tooFewElements 3 arrayForm)
              | instanceId :: rest =>
                  let instanceId ← instanceId.decodeString
                  if rest.isEmpty then return ⟨schemaVersion, replayCount, ⟨edition⟩, instanceId⟩
                  else throw (.tooManyElements (rest.length + 4))

def ofJson : Json → Json.Decoded VersionRecord
  | .object fields => ofFields Draft.empty fields
  | .array items => ofItems items
  | other => .error (.unexpected other "struct VersionRecord")

theorem ofJson_toJson (record : VersionRecord) : ofJson record.toJson = .ok record := by
  simp [toJson, ofJson, ofFields, Draft.take, Draft.empty, Draft.finish, Json.decodeString,
    Json.decodeUInt32_ofUInt32, Json.decodeInt64_ofInt64, Except.map]

end VersionRecord

end StoreMigration
