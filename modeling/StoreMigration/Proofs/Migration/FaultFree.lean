import StoreMigration.Proofs.Migration.EditRuns
import StoreMigration.Proofs.Migration.Execution

/-! Runs on a faithful storage. The bookkeeping's own calls always go through, so a run whose
steps are all transforms succeeds as soon as the objects that they look at read back, and
then it leaves every object where the transforms take it (`runs_of_readable`). -/

namespace StoreMigration

open Bookkeeping

theorem Json.modest_bool (flag : Bool) : (Json.bool flag).Modest :=
  ⟨trivial, trivial, Nat.zero_le 1⟩

theorem VersionRecord.modest_toJson (record : VersionRecord) : record.toJson.Modest :=
  ⟨record.toJson_floatFree, record.toJson_wellFormed, Nat.le_of_eq record.depth_toJson⟩

variable {storage : Storage (Buckets α) α} {capacity : Json.Capacity}

namespace Storage

variable (faithful : storage.Faithful capacity)

include faithful

theorem Faithful.flag_eq (flag : Bool) (buckets : Buckets α) :
    storage.backend (flagRequest flag) buckets =
      (.ok (), buckets.write bucket updatingKey (storage.encode (.bool flag))) :=
  faithful.update_eq bucket updatingKey buckets (capacity.held_of_modest (Json.modest_bool flag))

theorem Faithful.record_eq (record : VersionRecord) (buckets : Buckets α) :
    storage.backend (recordRequest record) buckets =
      (.ok (), buckets.write bucket recordKey (storage.encode record.toJson)) :=
  faithful.update_eq bucket recordKey buckets (capacity.held_of_modest record.modest_toJson)

theorem Faithful.servesBookkeeping : storage.ServesBookkeeping where
  flag flag buckets := by rw [faithful.flag_eq]
  record record buckets := by rw [faithful.record_eq]
  fetch buckets answer known := by rw [faithful.get_eq, known]

end Storage

namespace Registry

def begunBuckets (storage : Storage (Buckets α) α) (buckets : Buckets α) : Buckets α :=
  buckets.write bucket updatingKey (storage.encode (.bool true))

def finishedBuckets (storage : Storage (Buckets α) α) (record : VersionRecord)
    (reached : Buckets α) : Buckets α :=
  (reached.write bucket recordKey (storage.encode record.toJson)).write bucket updatingKey
    (storage.encode (.bool false))

theorem ready_eq (faithful : storage.Faithful capacity) (buckets : Buckets α) :
    ready storage.backend buckets = begunBuckets storage buckets := by
  rw [ready, faithful.get_eq, flagged, faithful.flag_eq, begunBuckets]

theorem lowered_eq (faithful : storage.Faithful capacity) (record : VersionRecord)
    (reached : Buckets α) :
    lowered storage.backend record reached = finishedBuckets storage record reached := by
  rw [lowered, faithful.flag_eq, stamped, faithful.record_eq, finishedBuckets]

/-! ## Elsewhere than in the bookkeeping -/

theorem read_begun_of_ne (storage : Storage (Buckets α) α) (buckets : Buckets α) {other key : String}
    (elsewhere : other ≠ bucket ∨ key ≠ updatingKey) :
    (begunBuckets storage buckets).read other key = buckets.read other key :=
  Buckets.read_write_of_ne buckets _ elsewhere

theorem read_finished_of_ne (storage : Storage (Buckets α) α) (record : VersionRecord)
    (reached : Buckets α) {other key : String}
    (elsewhere : other ≠ bucket ∨ (key ≠ recordKey ∧ key ≠ updatingKey)) :
    (finishedBuckets storage record reached).read other key = reached.read other key := by
  rw [finishedBuckets, Buckets.read_write_of_ne _ _ (elsewhere.imp_right And.right),
    Buckets.read_write_of_ne _ _ (elsewhere.imp_right And.left)]

theorem has_begun_iff (storage : Storage (Buckets α) α) (buckets : Buckets α) (other : String) :
    (begunBuckets storage buckets).Has other ↔ other = bucket ∨ buckets.Has other :=
  Buckets.has_write_iff buckets bucket other _ _

theorem has_finished_iff (storage : Storage (Buckets α) α) (record : VersionRecord)
    (reached : Buckets α) (other : String) :
    (finishedBuckets storage record reached).Has other ↔ other = bucket ∨ reached.Has other := by
  rw [finishedBuckets, Buckets.has_write_iff, Buckets.has_write_iff, or_self_left]

theorem read_finished_flag (storage : Storage (Buckets α) α) (record : VersionRecord)
    (reached : Buckets α) :
    (finishedBuckets storage record reached).read bucket updatingKey =
      some (storage.encode (.bool false)) :=
  Buckets.read_write_same _ _ _ _

theorem read_finished_record (storage : Storage (Buckets α) α) (record : VersionRecord)
    (reached : Buckets α) :
    (finishedBuckets storage record reached).read bucket recordKey =
      some (storage.encode record.toJson) := by
  rw [finishedBuckets, Buckets.read_write_of_ne _ _ (.inr (by decide)), Buckets.read_write_same]

theorem holdsIn_begun {buckets : Buckets α} {other : String} (elsewhere : other ≠ bucket)
    (holds : storage.HoldsIn capacity buckets other) :
    storage.HoldsIn capacity (begunBuckets storage buckets) other := by
  intro key stored found
  rw [read_begun_of_ne storage buckets (.inl elsewhere)] at found
  exact holds key stored found

theorem readable_begun_iff (faithful : storage.Faithful capacity) {buckets : Buckets α}
    {other : String} (elsewhere : other ≠ bucket) (key : String) :
    storage.Readable (begunBuckets storage buckets) other key ↔
      storage.Readable buckets other key := by
  rw [Storage.readable_iff faithful, Storage.readable_iff faithful,
    read_begun_of_ne storage buckets (.inl elsewhere)]

/-! ## Runs -/

variable {registry : Registry} {target : String} {buckets : Buckets α} {version stored : Version}
  {record : VersionRecord} {transforms : List Transform}

/-- The steps that a plan lets run are some transforms of the store's own objects. -/
structure Transforming (registry : Registry) (plan : Plan) (transforms : List Transform) : Prop where
  pending_eq : registry.pending plan = transforms.map Transform.step
  orderly : Transform.Orderly transforms
  elsewhere : ∀ transform ∈ transforms, transform.bucket ≠ bucket

theorem takesThrough_of_steps (faithful : storage.Faithful capacity) {plan : Plan}
    (transforming : Transforming registry plan transforms)
    (holds : ∀ transform ∈ transforms, storage.HoldsIn capacity buckets transform.bucket)
    {outcome : Except MigrationError (List String)} {made : List (Exchange (Buckets α))}
    {reached : Buckets α}
    (steps : (runSteps (registry.pending plan)).Runs storage.backend (ready storage.backend buckets)
      outcome made reached) :
    storage.TakesThrough False transforms (begunBuckets storage buckets) reached outcome := by
  rw [transforming.pending_eq, ready_eq faithful] at steps
  have holdsThen : ∀ transform ∈ transforms,
      storage.HoldsIn capacity (begunBuckets storage buckets) transform.bucket := fun transform member =>
    holdsIn_begun (transforming.elsewhere transform member) (holds transform member)
  exact takesThrough_runSteps faithful storage.backend.relays_self (transforming.orderly.fit capacity)
    holdsThen steps

theorem readable_of_ok (faithful : storage.Faithful capacity) {plan : Plan}
    (transforming : Transforming registry plan transforms)
    (holds : ∀ transform ∈ transforms, storage.HoldsIn capacity buckets transform.bucket)
    {names : List String} {made : List (Exchange (Buckets α))} {reached : Buckets α}
    (steps : (runSteps (registry.pending plan)).Runs storage.backend (ready storage.backend buckets)
      (.ok names) made reached) :
    ∀ transform ∈ transforms, ∀ key, storage.Readable buckets transform.bucket key := by
  intro transform member key
  have through := (takesThrough_of_steps faithful transforming holds steps).wholly names rfl
  exact (readable_begun_iff faithful (transforming.elsewhere transform member) key).mp
    (through.2 transform member key)

theorem run_of_steps (faithful : storage.Faithful capacity)
    (valid : Version.read target = .ok version) (readable : storage.record buckets = .ok record)
    (parsed : record.parsedVersion = .ok stored) {names : List String} {reached : Buckets α}
    (ran : (runSteps (registry.pending (Plan.make registry stored record version))).run
      storage.backend (begunBuckets storage buckets) = (.ok names, reached)) :
    (registry.run target).run storage.backend buckets =
      (.ok ⟨record.schemaVersion, version, (Plan.make registry stored record version).replayCount,
          (Plan.make registry stored record version).pendingSteps⟩,
        finishedBuckets storage (stamp record (Plan.make registry stored record version)) reached) := by
  have through : GoesThrough storage registry target buckets :=
    goesThrough_of_serves faithful.servesBookkeeping readable
  have begun := begun_of_readable through valid readable parsed
  rw [← ready_eq faithful] at ran
  rcases outcome : (registry.run target).run storage.backend buckets with ⟨result, final⟩
  cases result with
  | error error =>
      rcases stopped_of_error through begun outcome with ⟨made, failed, _⟩
      cases (congrArg Prod.fst (ran.symm.trans failed.run_eq))
  | ok report =>
      rcases finished_of_ok outcome with
        ⟨_, _, _, told, made, left, other, steps, _, _, _, rfl, rfl⟩
      rcases other.unique begun with ⟨rfl, rfl, rfl⟩
      cases ran.symm.trans steps.run_eq
      rw [lowered_eq faithful, (completes_of_runSteps steps).2, Plan.names_pending]
      rfl

/-- A run whose steps are transforms succeeds where the objects that they look at read back. -/
theorem runs_of_readable (faithful : storage.Faithful capacity)
    (valid : Version.read target = .ok version) (readable : storage.record buckets = .ok record)
    (parsed : record.parsedVersion = .ok stored)
    (transforming : Transforming registry (Plan.make registry stored record version) transforms)
    (holds : ∀ transform ∈ transforms, storage.HoldsIn capacity buckets transform.bucket)
    (legible : ∀ transform ∈ transforms, ∀ key, storage.Readable buckets transform.bucket key) :
    ∃ reached, storage.Edited transforms (begunBuckets storage buckets) reached ∧
      (registry.run target).run storage.backend buckets =
        (.ok ⟨record.schemaVersion, version, (Plan.make registry stored record version).replayCount,
            (Plan.make registry stored record version).pendingSteps⟩,
          finishedBuckets storage (stamp record (Plan.make registry stored record version)) reached) := by
  rcases Action.Runs.exist storage.backend
      (runSteps (registry.pending (Plan.make registry stored record version)))
      (ready storage.backend buckets) with ⟨outcome, made, reached, steps⟩
  have taken := takesThrough_of_steps faithful transforming holds steps
  cases outcome with
  | ok names =>
      have ran := steps.run_eq
      rw [ready_eq faithful] at ran
      exact ⟨reached, (taken.wholly names rfl).1, run_of_steps faithful valid readable parsed ran⟩
  | error error =>
      rcases taken.failed error rfl with impossible | ⟨transform, member, key, unreadable⟩
      · exact impossible.elim
      · have elsewhere := transforming.elsewhere transform member
        exact absurd ((readable_begun_iff faithful elsewhere key).mpr (legible transform member key))
          unreadable

end Registry

end StoreMigration
