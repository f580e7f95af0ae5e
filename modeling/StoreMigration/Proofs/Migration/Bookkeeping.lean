import StoreMigration.Migration.Migrator
import StoreMigration.Proofs.Store.Storage
import StoreMigration.Proofs.Store.Running

/-! The bookkeeping on a storage. Raising and lowering the flag, fetching the record and
writing it are one call each; what a storage holds for them is seen through `IsUpdating`
and `record`. -/

namespace StoreMigration

theorem VersionRecord.toJson_floatFree (record : VersionRecord) : record.toJson.FloatFree := by
  simp [VersionRecord.toJson, Json.FloatFree, Json.FloatFreeFields, Json.ofUInt32, Json.ofInt64,
    Json.integer]

theorem VersionRecord.toJson_wellFormed (record : VersionRecord) : record.toJson.WellFormed := by
  have count := record.replayCount.toNat_lt
  have codeLow := Int64.le_toInt record.edition.code
  have codeHigh := Int64.toInt_lt record.edition.code
  have names : ["SchemaVersion", "MigratorCount", "Edition", "InstanceID"].Nodup := by decide
  refine ⟨names, trivial, ?_, ?_, trivial, trivial⟩
  · show -0x8000000000000000 ≤ (record.replayCount.toNat : Int) ∧ _
    constructor <;> omega
  · show -0x8000000000000000 ≤ record.edition.code.toInt ∧ _
    constructor <;> omega

theorem VersionRecord.depth_toJson (record : VersionRecord) : record.toJson.depth = 1 := rfl

namespace Bookkeeping

/-! ## The calls -/

abbrev flagRequest (flag : Bool) : Request := .update bucket updatingKey (.bool flag)

abbrev fetchRequest : Request := .get bucket recordKey

abbrev recordRequest (record : VersionRecord) : Request := .update bucket recordKey record.toJson

def recordOf (answer : Except StoreError (Option Json)) : Except MigrationError VersionRecord :=
  match Action.decodeAnswer VersionRecord.ofJson bucket recordKey answer with
  | .error error => .error (.store error)
  | .ok none => .error .missingRecord
  | .ok (some record) => .ok record

variable (backend : Backend σ) (state : σ)

theorem runs_setUpdating (flag : Bool) :
    (persist updatingKey (setUpdating flag)).Runs backend state
      ((backend (flagRequest flag) state).1.mapError (.notPersisted updatingKey))
      [backend.exchange (flagRequest flag) state] (backend (flagRequest flag) state).2 :=
  (Action.Runs.request (flagRequest flag) state).withError _

theorem runs_writeRecord (record : VersionRecord) :
    (persist recordKey (writeRecord record)).Runs backend state
      ((backend (recordRequest record) state).1.mapError (.notPersisted recordKey))
      [backend.exchange (recordRequest record) state]
      (backend (recordRequest record) state).2 :=
  (Action.Runs.request (recordRequest record) state).withError _

theorem runs_record :
    record.Runs backend state (recordOf (backend fetchRequest state).1)
      [backend.exchange fetchRequest state] (backend fetchRequest state).2 := by
  have fetched := (Action.Runs.getAs backend VersionRecord.ofJson bucket recordKey state).withError
    MigrationError.store
  rw [recordOf]
  cases decoded : Action.decodeAnswer VersionRecord.ofJson bucket recordKey
      (backend fetchRequest state).1 with
  | error error =>
      rw [decoded] at fetched
      exact fetched.bind_error _
  | ok found =>
      rw [decoded] at fetched
      cases found with
      | none => exact fetched.bind_ok (Action.Runs.throw MigrationError.missingRecord _)
      | some record => exact fetched.bind_ok (Action.Runs.pure record _)

end Bookkeeping

/-! ## What a storage holds -/

namespace Storage

variable (storage : Storage σ α)

def IsUpdating (state : σ) : Prop :=
  storage.read state Bookkeeping.bucket Bookkeeping.updatingKey = .ok (some (.bool true))

def recordObject (state : σ) : Option α :=
  storage.objects state Bookkeeping.bucket Bookkeeping.recordKey

def record (state : σ) : Except MigrationError VersionRecord :=
  Bookkeeping.recordOf (storage.read state Bookkeeping.bucket Bookkeeping.recordKey)

def plan (registry : Registry) (target : String) (state : σ) : Except MigrationError Plan := do
  let version ← Registry.parseTarget target
  let record ← storage.record state
  Plan.ofRecord registry record version

variable {storage} {state other : σ}

theorem record_congr (same : storage.recordObject state = storage.recordObject other) :
    storage.record state = storage.record other :=
  congrArg Bookkeeping.recordOf (storage.read_congr same)

theorem plan_congr (same : storage.recordObject state = storage.recordObject other)
    (registry : Registry) (target : String) :
    storage.plan registry target state = storage.plan registry target other := by
  simp only [plan, record_congr same]

theorem record_of_encoded {record : VersionRecord}
    (stored : storage.recordObject state = some (storage.encode record.toJson)) :
    storage.record state = .ok record := by
  have found := storage.read_of_encoded record.toJson_floatFree record.toJson_wellFormed
    (by rw [record.depth_toJson]; decide) stored
  rw [Storage.record, found]
  simp only [Bookkeeping.recordOf, Action.decodeAnswer, VersionRecord.ofJson_toJson]

theorem recordObject_eq_iff {left right : VersionRecord}
    (storedLeft : storage.recordObject state = some (storage.encode left.toJson))
    (storedRight : storage.recordObject other = some (storage.encode right.toJson)) :
    storage.recordObject state = storage.recordObject other ↔ left = right := by
  constructor
  · intro same
    have read := record_congr same
    rw [record_of_encoded storedLeft, record_of_encoded storedRight] at read
    exact Except.ok.inj read
  · rintro rfl
    exact storedLeft.trans storedRight.symm

theorem isUpdating_congr
    (same : storage.objects state Bookkeeping.bucket Bookkeeping.updatingKey =
      storage.objects other Bookkeeping.bucket Bookkeeping.updatingKey)
    (updating : storage.IsUpdating other) : storage.IsUpdating state :=
  (storage.read_congr same).trans updating

theorem isUpdating_of_encoded
    (stored : storage.objects state Bookkeeping.bucket Bookkeeping.updatingKey =
      some (storage.encode (.bool true))) : storage.IsUpdating state :=
  storage.read_of_encoded trivial trivial (by decide) stored

theorem recordOf_fetch {answer : Option Json}
    (granted : (storage.backend Bookkeeping.fetchRequest state).1 = .ok answer) :
    Bookkeeping.recordOf (.ok answer) = storage.record state :=
  congrArg Bookkeeping.recordOf (storage.found granted).symm

/-- The bookkeeping's own calls are never refused, whatever becomes of the calls of steps;
a look-up can still find an object that does not read back. -/
structure ServesBookkeeping (storage : Storage σ α) : Prop where
  flag : ∀ (flag : Bool) (state : σ),
    (storage.backend (Bookkeeping.flagRequest flag) state).1 = .ok ()
  record : ∀ (record : VersionRecord) (state : σ),
    (storage.backend (Bookkeeping.recordRequest record) state).1 = .ok ()
  fetch : ∀ (state : σ) (answer : Option Json),
    storage.read state Bookkeeping.bucket Bookkeeping.recordKey = .ok answer →
      (storage.backend Bookkeeping.fetchRequest state).1 = .ok answer

/-! ## The calls on a storage -/

theorem objects_fetch :
    storage.objects (storage.backend Bookkeeping.fetchRequest state).2 = storage.objects state := by
  funext bucket key
  exact storage.objects_of_untouched Bookkeeping.fetchRequest state fun _ => rfl

theorem objects_flag {flag : Bool}
    (granted : (storage.backend (Bookkeeping.flagRequest flag) state).1 = .ok ()) :
    storage.objects (storage.backend (Bookkeeping.flagRequest flag) state).2 =
      (storage.objects state).set Bookkeeping.bucket Bookkeeping.updatingKey
        (some (storage.encode (.bool flag))) :=
  storage.granted granted

theorem objects_record {record : VersionRecord}
    (granted : (storage.backend (Bookkeeping.recordRequest record) state).1 = .ok ()) :
    storage.objects (storage.backend (Bookkeeping.recordRequest record) state).2 =
      (storage.objects state).set Bookkeeping.bucket Bookkeeping.recordKey
        (some (storage.encode record.toJson)) :=
  storage.granted granted

theorem recordObject_written {record : VersionRecord}
    (granted : (storage.backend (Bookkeeping.recordRequest record) state).1 = .ok ()) :
    storage.recordObject (storage.backend (Bookkeeping.recordRequest record) state).2 =
      some (storage.encode record.toJson) := by
  rw [recordObject, objects_record granted]
  exact Objects.set_same _ _ _ _

theorem recordObject_refused {request : Request} {error : StoreError}
    (failed : (storage.backend request state).1 = .error error) :
    storage.recordObject (storage.backend request state).2 = storage.recordObject state := by
  rw [recordObject, storage.refused failed]
  rfl

theorem recordObject_flag (flag : Bool) :
    storage.recordObject (storage.backend (Bookkeeping.flagRequest flag) state).2 =
      storage.recordObject state :=
  storage.objects_of_untouched (Bookkeeping.flagRequest flag) state fun objects =>
    objects.set_of_ne _ (.inr (by decide))

theorem isUpdating_record {record : VersionRecord} (updating : storage.IsUpdating state) :
    storage.IsUpdating (storage.backend (Bookkeeping.recordRequest record) state).2 :=
  isUpdating_congr (storage.objects_of_untouched (Bookkeeping.recordRequest record) state
    fun objects => objects.set_of_ne _ (.inr (by decide))) updating

end Storage

theorem Memory.servesBookkeeping : Memory.storage.ServesBookkeeping where
  flag _ _ := rfl
  record _ _ := rfl
  fetch state answer known := by
    have found : (Memory.storage.backend Bookkeeping.fetchRequest state).1 =
        .ok (Buckets.read state Bookkeeping.bucket Bookkeeping.recordKey) := rfl
    exact congrArg (Except.map id) ((Memory.storage.found found).symm.trans known)

def Memory.versioned (record : VersionRecord) : Buckets Json :=
  Buckets.empty.write Bookkeeping.bucket Bookkeeping.recordKey record.toJson

theorem Memory.record_versioned (record : VersionRecord) :
    Memory.storage.record (Memory.versioned record) = .ok record :=
  Storage.record_of_encoded (Buckets.read_write_same _ _ _ _)

end StoreMigration
