import StoreMigration.Proofs.Json.Fields
import StoreMigration.Proofs.Json.RoundTrip
import StoreMigration.Proofs.Migration.Bookkeeping

/-! The JSON form of a record. Many values are read as one record: an object with its fields in any
order, with other fields besides and with or without a count, or an array of the four values
(`VersionRecord.Represents`). One form is written, and it is read as the record again, whatever the
code of the edition: `VersionRecord.codec_stable`. -/

namespace StoreMigration

namespace Json

/-! ## Values of known types -/

theorem decodeString_eq_ok_iff {value : Json} {text : String} :
    value.decodeString = .ok text ↔ value = .string text := by
  constructor
  · intro decoded
    cases value <;> cases decoded
    rfl
  · rintro rfl
    rfl

theorem toInt_of_fitInt64 {value : Int} {fitting : Int64} (fits : fitInt64 value = some fitting) :
    fitting.toInt = value := by
  cases value with
  | ofNat magnitude =>
      rw [fitInt64] at fits
      split at fits
      · next small =>
          cases fits
          exact Int64.toInt_ofNat_of_lt (by omega)
      · cases fits
  | negSucc magnitude =>
      rw [fitInt64] at fits
      split at fits
      · next small =>
          rw [← Option.some.inj fits]
          exact Int64.toInt_ofInt_of_le (by omega) (by omega)
      · cases fits

theorem toNat_of_fitUInt32 {value : Int} {fitting : UInt32}
    (fits : fitUInt32 value = some fitting) : (fitting.toNat : Int) = value := by
  cases value with
  | ofNat magnitude =>
      rw [fitUInt32] at fits
      split at fits
      · next small =>
          cases fits
          exact congrArg Int.ofNat (UInt32.toNat_ofNat_of_lt' small)
      · cases fits
  | negSucc magnitude => cases fits

theorem decodeInt64_eq_ok_iff {value : Json} {number : Int64} :
    value.decodeInt64 = .ok number ↔ value = .ofInt64 number := by
  constructor
  · intro decoded
    unfold decodeInt64 at decoded
    split at decoded
    · next value =>
        split at decoded
        · next fits =>
            cases decoded
            rw [ofInt64, toInt_of_fitInt64 fits, integer]
        · cases decoded
    · cases decoded
  · rintro rfl
    exact decodeInt64_ofInt64 number

theorem decodeUInt32_eq_ok_iff {value : Json} {number : UInt32} :
    value.decodeUInt32 = .ok number ↔ value = .ofUInt32 number := by
  constructor
  · intro decoded
    unfold decodeUInt32 at decoded
    split at decoded
    · next value =>
        split at decoded
        · next fits =>
            cases decoded
            rw [ofUInt32, toNat_of_fitUInt32 fits, integer]
        · cases decoded
    · cases decoded
  · rintro rfl
    exact decodeUInt32_ofUInt32 number

end Json

namespace VersionRecord

/-! ## The shapes that are accepted -/

inductive Counts (fields : Fields) : UInt32 → Prop
  | absent (unnamed : fields.get? "MigratorCount" = none) : Counts fields 0
  | present {count : UInt32} (named : fields.get? "MigratorCount" = some (.ofUInt32 count)) :
      Counts fields count

/-- The values that stand for a record: an object with its fields in any order and others
besides, or the four values in their order. -/
inductive Represents : Json → VersionRecord → Prop
  | object {fields : Fields} {schemaVersion : String} {count : UInt32} {code : Int64}
      {instanceId : String}
      (version : fields.get? "SchemaVersion" = some (.string schemaVersion))
      (counts : Counts fields count)
      (edition : fields.get? "Edition" = some (.ofInt64 code))
      (identity : fields.get? "InstanceID" = some (.string instanceId)) :
      Represents (.object fields) ⟨schemaVersion, count, ⟨code⟩, instanceId⟩
  | array (schemaVersion : String) (count : UInt32) (code : Int64) (instanceId : String) :
      Represents
        (.array [.string schemaVersion, .ofUInt32 count, .ofInt64 code, .string instanceId])
        ⟨schemaVersion, count, ⟨code⟩, instanceId⟩

/-- What is known of a field once those that follow are taken in. -/
def Takes (decode : Json → Json.Decoded β) (name : String) (fields : Fields)
    (before after : Option β) : Prop :=
  match fields.get? name with
  | none => after = before
  | some value => ∃ found, decode value = .ok found ∧ after = some found

def decodeEdition (value : Json) : Json.Decoded Edition :=
  value.decodeInt64.map Edition.mk

theorem takes_cons_iff {decode : Json → Json.Decoded β} {name : String} {field : String × Json}
    {rest : Fields} {before after : Option β} (fresh : field.1 ∉ rest.names) :
    Takes decode name (field :: rest) before after ↔
      ∃ middle, Takes decode name [field] before middle ∧ Takes decode name rest middle after := by
  by_cases same : field.1 = name
  · subst same
    have absent := Fields.get?_eq_none_of_not_mem fresh
    simp only [Takes, Fields.get?, if_true, absent]
    constructor
    · intro taken
      exact ⟨after, taken, rfl⟩
    · rintro ⟨middle, taken, rfl⟩
      exact taken
  · simp only [Takes, Fields.get?, if_neg same]
    constructor
    · intro taken
      exact ⟨before, rfl, taken⟩
    · rintro ⟨middle, rfl, taken⟩
      exact taken

namespace Draft

/-- The draft that others lead to when fields are taken in. -/
structure Collects (draft : Draft) (fields : Fields) (final : Draft) : Prop where
  schemaVersion :
    Takes Json.decodeString "SchemaVersion" fields draft.schemaVersion final.schemaVersion
  replayCount : Takes Json.decodeUInt32 "MigratorCount" fields draft.replayCount final.replayCount
  edition : Takes decodeEdition "Edition" fields draft.edition final.edition
  instanceId : Takes Json.decodeString "InstanceID" fields draft.instanceId final.instanceId

theorem collects_iff {draft final : Draft} {fields : Fields} :
    draft.Collects fields final ↔
      Takes Json.decodeString "SchemaVersion" fields draft.schemaVersion final.schemaVersion ∧
      Takes Json.decodeUInt32 "MigratorCount" fields draft.replayCount final.replayCount ∧
      Takes decodeEdition "Edition" fields draft.edition final.edition ∧
      Takes Json.decodeString "InstanceID" fields draft.instanceId final.instanceId :=
  ⟨fun ⟨version, count, edition, identity⟩ => ⟨version, count, edition, identity⟩,
    fun ⟨version, count, edition, identity⟩ => ⟨version, count, edition, identity⟩⟩

theorem take_eq_ok_iff {draft next : Draft} {name : String} {value : Json} :
    draft.take name value = .ok next ↔ draft.Collects [(name, value)] next := by
  rw [collects_iff]
  rcases next with ⟨_, _, _, _⟩
  rcases draft with ⟨_, _, _, _⟩
  unfold take
  simp only [Takes, Fields.get?]
  split
  · next same =>
      subst same
      cases decoded : value.decodeString <;> simp [decoded, Except.map, eq_comm]
  split
  · next same =>
      subst same
      cases decoded : value.decodeUInt32 <;>
        simp [decoded, Except.map, eq_comm, and_left_comm]
  split
  · next same =>
      subst same
      cases decoded : value.decodeInt64 <;>
        simp [decodeEdition, decoded, Except.map, eq_comm]
  split
  · next same =>
      subst same
      cases decoded : value.decodeString <;> simp [decoded, Except.map, eq_comm]
  · simp [*, eq_comm]

theorem collects_nil_iff {draft final : Draft} : draft.Collects [] final ↔ final = draft := by
  rw [collects_iff]
  rcases draft with ⟨_, _, _, _⟩
  rcases final with ⟨_, _, _, _⟩
  simp only [Takes, Fields.get?, mk.injEq]

theorem collects_cons_iff {draft final : Draft} {field : String × Json} {rest : Fields}
    (fresh : field.1 ∉ rest.names) :
    draft.Collects (field :: rest) final ↔
      ∃ next, draft.Collects [field] next ∧ next.Collects rest final := by
  simp only [collects_iff, takes_cons_iff fresh]
  constructor
  · rintro ⟨⟨version, _, _⟩, ⟨count, _, _⟩, ⟨edition, _, _⟩, ⟨identity, _, _⟩⟩
    refine ⟨⟨version, count, edition, identity⟩, ⟨?_, ?_, ?_, ?_⟩, ?_, ?_, ?_, ?_⟩ <;> assumption
  · rintro ⟨next, ⟨version, count, edition, identity⟩, others⟩
    exact ⟨⟨_, version, others.1⟩, ⟨_, count, others.2.1⟩, ⟨_, edition, others.2.2.1⟩,
      ⟨_, identity, others.2.2.2⟩⟩

theorem finish_eq_ok_iff {final : Draft} {record : VersionRecord} :
    final.finish = .ok record ↔
      final.schemaVersion = some record.schemaVersion ∧
      final.replayCount.getD 0 = record.replayCount ∧
      final.edition = some record.edition ∧ final.instanceId = some record.instanceId := by
  rcases final with ⟨_ | version, count, _ | edition, _ | identity⟩ <;>
    rcases record with ⟨_, _, _, _⟩ <;> simp [finish]

end Draft

/-- With distinct names the order of the fields does not matter. -/
theorem ofFields_eq_ok_iff {fields : Fields} (distinct : fields.names.Nodup) {draft : Draft}
    {record : VersionRecord} :
    ofFields draft fields = .ok record ↔
      ∃ final, draft.Collects fields final ∧ final.finish = .ok record := by
  induction fields generalizing draft with
  | nil =>
      simp only [Draft.collects_nil_iff, exists_eq_left]
      rfl
  | cons field rest induction =>
      have parts := List.nodup_cons.mp distinct
      have taken : ∀ next, draft.take field.1 field.2 = .ok next ↔ draft.Collects [field] next :=
        fun _ => Draft.take_eq_ok_iff
      simp only [Draft.collects_cons_iff parts.1, ← taken]
      rw [ofFields]
      cases draft.take field.1 field.2 with
      | error cause => simp
      | ok next => simp [induction parts.2]

theorem takes_none_iff {decode : Json → Json.Decoded β} {name : String} {fields : Fields}
    {found : β} :
    Takes decode name fields none (some found) ↔
      ∃ value, fields.get? name = some value ∧ decode value = .ok found := by
  cases named : fields.get? name <;> simp [Takes, named, eq_comm]

theorem counts_iff {fields : Fields} {count : UInt32} :
    Counts fields count ↔
      ∃ found, Takes Json.decodeUInt32 "MigratorCount" fields none found ∧
        found.getD 0 = count := by
  constructor
  · intro counts
    cases counts with
    | absent unnamed => exact ⟨none, by simp only [Takes, unnamed], rfl⟩
    | present named =>
        exact ⟨some count, takes_none_iff.mpr ⟨_, named, Json.decodeUInt32_ofUInt32 count⟩, rfl⟩
  · rintro ⟨found, taken, rfl⟩
    cases named : fields.get? "MigratorCount" with
    | none =>
        simp only [Takes, named] at taken
        subst taken
        exact .absent named
    | some value =>
        simp only [Takes, named] at taken
        rcases taken with ⟨count, decoded, rfl⟩
        rw [Json.decodeUInt32_eq_ok_iff.mp decoded] at named
        exact .present named

theorem decodeEdition_eq_ok_iff {value : Json} {edition : Edition} :
    decodeEdition value = .ok edition ↔ value = .ofInt64 edition.code := by
  rw [← Json.decodeInt64_eq_ok_iff, decodeEdition]
  rcases edition with ⟨code⟩
  cases value.decodeInt64 <;> simp [Except.map]

theorem ofJson_object_eq_ok_iff {fields : Fields} (distinct : fields.names.Nodup)
    {record : VersionRecord} :
    ofJson (.object fields) = .ok record ↔ Represents (.object fields) record := by
  rw [ofJson, ofFields_eq_ok_iff distinct]
  constructor
  · rintro ⟨⟨_, count, _, _⟩, collects, finished⟩
    rcases Draft.finish_eq_ok_iff.mp finished with ⟨rfl, counted, rfl, rfl⟩
    rcases takes_none_iff.mp collects.schemaVersion with ⟨version, versioned, decoded⟩
    rw [Json.decodeString_eq_ok_iff.mp decoded] at versioned
    rcases takes_none_iff.mp collects.edition with ⟨code, edited, decoded⟩
    rw [decodeEdition_eq_ok_iff.mp decoded] at edited
    rcases takes_none_iff.mp collects.instanceId with ⟨text, identified, decoded⟩
    rw [Json.decodeString_eq_ok_iff.mp decoded] at identified
    have counts := counts_iff.mpr ⟨count, collects.replayCount, counted⟩
    exact .object versioned counts edited identified
  · intro represents
    cases represents with
    | object version counts edition identity =>
        rcases counts_iff.mp counts with ⟨count, taken, rfl⟩
        refine ⟨⟨some _, count, some _, some _⟩, ⟨?_, taken, ?_, ?_⟩, rfl⟩
        · exact takes_none_iff.mpr ⟨_, version, rfl⟩
        · exact takes_none_iff.mpr ⟨_, edition, decodeEdition_eq_ok_iff.mpr rfl⟩
        · exact takes_none_iff.mpr ⟨_, identity, rfl⟩

theorem ofJson_array_eq_ok_iff {items : List Json} {record : VersionRecord} :
    ofJson (.array items) = .ok record ↔ Represents (.array items) record := by
  constructor
  · intro read
    rcases items with _ | ⟨version, items⟩
    · cases read
    rcases Text.of_bind_eq_ok read with ⟨schemaVersion, versioned, afterVersion⟩
    rcases items with _ | ⟨applied, items⟩
    · cases afterVersion
    rcases Text.of_bind_eq_ok afterVersion with ⟨count, counted, afterCount⟩
    rcases items with _ | ⟨edition, items⟩
    · cases afterCount
    rcases Text.of_bind_eq_ok afterCount with ⟨code, edited, afterEdition⟩
    rcases items with _ | ⟨identity, items⟩
    · cases afterEdition
    rcases Text.of_bind_eq_ok afterEdition with ⟨instanceId, identified, ended⟩
    rcases items with _ | ⟨excess, items⟩
    · cases ended
      rw [Json.decodeString_eq_ok_iff.mp versioned, Json.decodeUInt32_eq_ok_iff.mp counted,
        Json.decodeInt64_eq_ok_iff.mp edited, Json.decodeString_eq_ok_iff.mp identified]
      exact .array schemaVersion count code instanceId
    · cases ended
  · intro represents
    cases represents with
    | array schemaVersion count code instanceId =>
        rw [ofJson, ofItems, Json.decodeString]
        simp [Json.decodeString, Json.decodeUInt32_ofUInt32, Json.decodeInt64_ofInt64, bind,
          Except.bind, pure, Except.pure]

/-! ## The form in which records are written -/

def wireForm (schemaVersion : String) (count : UInt32) (code : Int64) (instanceId : String) :
    Json :=
  .object [("SchemaVersion", .string schemaVersion), ("MigratorCount", .ofUInt32 count),
    ("Edition", .ofInt64 code), ("InstanceID", .string instanceId)]

theorem read_wireForm (schemaVersion : String) (count : UInt32) (code : Int64)
    (instanceId : String) :
    Json.read Json.valuePolicy (wireForm schemaVersion count code instanceId).compact =
      .ok (wireForm schemaVersion count code instanceId) := by
  let record : VersionRecord := ⟨schemaVersion, count, ⟨code⟩, instanceId⟩
  have shallow : record.toJson.depth ≤ Json.valuePolicy.nesting := by
    rw [record.depth_toJson]
    decide
  exact Json.read_compact Json.valuePolicy record.toJson_floatFree record.toJson_wellFormed shallow

theorem ofJson_wireForm (schemaVersion : String) (count : UInt32) (code : Int64)
    (instanceId : String) :
    ofJson (wireForm schemaVersion count code instanceId) =
      .ok ⟨schemaVersion, count, ⟨code⟩, instanceId⟩ :=
  ofJson_toJson ⟨schemaVersion, count, ⟨code⟩, instanceId⟩

end VersionRecord

/-! ## Records in a store -/

theorem Action.decodeAnswer_eq_some {decode : Json → Json.Decoded β} {bucket key : String}
    {answer : Except StoreError (Option Json)} {found : β}
    (told : decodeAnswer decode bucket key answer = .ok (some found)) :
    ∃ value, answer = .ok (some value) ∧ decode value = .ok found := by
  rcases answer with error | _ | value
  · cases told
  · cases told
  · rw [decodeAnswer] at told
    split at told
    · next decoded =>
        cases told
        exact ⟨value, rfl, decoded⟩
    · cases told

theorem Objects.set_of_stored {objects : Objects α} {bucket key : String} {stored : Option α}
    (there : objects bucket key = stored) : objects.set bucket key stored = objects := by
  funext otherBucket otherKey
  by_cases same : otherBucket = bucket ∧ otherKey = key
  · rcases same with ⟨rfl, rfl⟩
    rw [set_same, there]
  · exact objects.set_of_ne stored (Classical.not_and_iff_not_or_not.mp same)

namespace Storage

variable {storage : Storage σ α} {bucket key : String} {state middle after : σ}
  {record : VersionRecord}

theorem objects_of_rewritten
    (found : (Action.getAs VersionRecord.ofJson bucket key).run storage.backend state =
      (.ok (some record), middle))
    (wrote : (Action.update bucket key record.toJson).run storage.backend middle =
      (.ok (), after)) :
    (∃ value, storage.read state bucket key = .ok (some value) ∧
      VersionRecord.ofJson value = .ok record) ∧
      storage.objects after =
        (storage.objects state).set bucket key (some (storage.encode record.toJson)) := by
  have looked := Action.Runs.getAs storage.backend VersionRecord.ofJson bucket key state
  rcases looked.unique ⟨found, rfl⟩ with ⟨told, _, left⟩
  rcases Action.decodeAnswer_eq_some told with ⟨value, answered, decoded⟩
  have kept : storage.objects middle = storage.objects state := left ▸ storage.granted answered
  have written : (Action.update bucket key record.toJson).Runs storage.backend middle _ _ _ :=
    .request (.update bucket key record.toJson) middle
  rcases written.unique ⟨wrote, rfl⟩ with ⟨granted, _, rfl⟩
  refine ⟨⟨value, storage.found answered, decoded⟩, ?_⟩
  rw [storage.granted granted, Request.effect, kept]

end Storage

/-! ## The codec -/

/-- What is read for a record is what represents it, the record that was read is written in
one form and read from it again, a value in that form keeps its text and its code, and in a store a
record that is found and written back is found again and changes nothing if it was in that
form. -/
theorem VersionRecord.codec_stable :
    (∀ json, (∀ fields, json = .object fields → (Fields.names fields).Nodup) →
      ∀ record, ofJson json = .ok record ↔ Represents json record) ∧
    (∀ json record, ofJson json = .ok record →
      (∃ fields, record.toJson = .object fields ∧
        Fields.names fields = ["SchemaVersion", "MigratorCount", "Edition", "InstanceID"]) ∧
      ofJson record.toJson = .ok record ∧
      (ofJson record.toJson).map toJson = .ok record.toJson) ∧
    (∀ schemaVersion count code instanceId,
      let form := wireForm schemaVersion count code instanceId
      Json.read Json.valuePolicy form.compact = .ok form ∧
      ∃ record, ofJson form = .ok record ∧ record.edition.code = code ∧ record.toJson = form ∧
        record.toJson.compact = form.compact) ∧
    (∀ {σ α : Type} (storage : Storage σ α) (bucket key : String) (state middle after : σ)
      (record : VersionRecord),
      (Action.getAs ofJson bucket key).run storage.backend state = (.ok (some record), middle) →
      (Action.update bucket key record.toJson).run storage.backend middle = (.ok (), after) →
      storage.read after bucket key = .ok (some record.toJson) ∧
      ∀ schemaVersion count code instanceId,
        storage.objects state bucket key =
            some (storage.encode (wireForm schemaVersion count code instanceId)) →
          record.edition.code = code ∧ storage.objects after = storage.objects state) := by
  refine ⟨?_, ?_, ?_, ?_⟩
  · intro json distinct record
    cases json with
    | object fields => exact ofJson_object_eq_ok_iff (distinct fields rfl)
    | array items => exact ofJson_array_eq_ok_iff
    | _ => constructor <;> rintro ⟨⟩
  · intro json record _
    refine ⟨⟨_, rfl, rfl⟩, ofJson_toJson record, ?_⟩
    rw [ofJson_toJson]
    rfl
  · intro schemaVersion count code instanceId form
    exact ⟨read_wireForm .., _, ofJson_wireForm .., rfl, rfl, rfl⟩
  · intro σ α storage bucket key state middle after record found wrote
    rcases Storage.objects_of_rewritten found wrote with ⟨⟨value, readable, decoded⟩, stored⟩
    have shallow (written : VersionRecord) : written.toJson.depth < 128 := by
      rw [written.depth_toJson]
      decide
    refine ⟨?_, ?_⟩
    · have there : storage.objects after bucket key = some (storage.encode record.toJson) := by
        rw [stored, Objects.set_same]
      exact storage.read_of_encoded record.toJson_floatFree record.toJson_wellFormed
        (shallow record) there
    · intro schemaVersion count code instanceId inForm
      let former : VersionRecord := ⟨schemaVersion, count, ⟨code⟩, instanceId⟩
      have known := storage.read_of_encoded former.toJson_floatFree former.toJson_wellFormed
        (shallow former) inForm
      cases readable.symm.trans known
      cases (ofJson_wireForm schemaVersion count code instanceId).symm.trans decoded
      exact ⟨rfl, stored.trans (Objects.set_of_stored inForm)⟩

/-- An object of a later release, without a count and with an edition that has no name. -/
theorem VersionRecord.codec_stable_laterRelease :
    let fields : Fields := [("InstanceID", .string "node-1"), ("Region", .null),
      ("Edition", .ofInt64 7), ("SchemaVersion", .string "v2.9")]
    let record : VersionRecord := ⟨"v2.9", 0, ⟨7⟩, "node-1"⟩
    let state : Buckets Json := Buckets.empty.write "version" "VERSION" (.object fields)
    fields.names.Nodup ∧ ofJson (.object fields) = .ok record ∧
      Represents (.object fields) record ∧ ofJson record.toJson = .ok record ∧
      ∃ after, (Action.getAs ofJson "version" "VERSION").run Memory.backend state =
          (.ok (some record), state) ∧
        (Action.update "version" "VERSION" record.toJson).run Memory.backend state =
          (.ok (), after) ∧
        Memory.storage.read after "version" "VERSION" = .ok (some record.toJson) := by
  intro fields record state
  obtain ⟨accepts, stable, _, stores⟩ := codec_stable
  have distinct : fields.names.Nodup := by decide
  have decoded : ofJson (.object fields) = .ok record := rfl
  have represents := (accepts (.object fields) (fun _ same => by cases same; exact distinct)
    record).mp decoded
  have found : (Action.getAs ofJson "version" "VERSION").run Memory.backend state =
      (.ok (some record), state) := rfl
  exact ⟨distinct, decoded, represents, (stable _ record decoded).2.1, _, found, rfl,
    (stores Memory.storage "version" "VERSION" state state _ record found rfl).1⟩

end StoreMigration
