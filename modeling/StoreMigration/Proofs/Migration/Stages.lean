import StoreMigration.Proofs.Migration.Planning

/-! The stages of a run on a storage: what its own calls have done to the objects before
the first step and after the last. -/

namespace StoreMigration.Registry

open Bookkeeping

variable {storage : Storage σ α} {registry : Registry} {target : String} {state : σ}

theorem Begun.unique {backend : Backend σ} {version otherVersion : Version}
    {record otherRecord : VersionRecord} {plan otherPlan : Plan}
    (begun : Begun backend registry target state version record plan)
    (other : Begun backend registry target state otherVersion otherRecord otherPlan) :
    version = otherVersion ∧ record = otherRecord ∧ plan = otherPlan := by
  cases begun.valid.symm.trans other.valid
  cases begun.fetched.symm.trans other.fetched
  cases begun.planned.symm.trans other.planned
  exact ⟨rfl, rfl, rfl⟩

theorem objects_ready (raised : (storage.backend (flagRequest true) state).1 = .ok ()) :
    storage.objects (ready storage.backend state) =
      (storage.objects state).set bucket updatingKey (some (storage.encode (.bool true))) := by
  rw [ready, Storage.objects_fetch]
  exact Storage.objects_flag raised

theorem objects_lowered {record : VersionRecord} {reached : σ}
    (written : (storage.backend (recordRequest record) reached).1 = .ok ())
    (cleared : (storage.backend (flagRequest false)
      (stamped storage.backend record reached)).1 = .ok ()) :
    storage.objects (lowered storage.backend record reached) =
      ((storage.objects reached).set bucket recordKey (some (storage.encode record.toJson))).set
        bucket updatingKey (some (storage.encode (.bool false))) := by
  rw [lowered, Storage.objects_flag cleared, stamped, Storage.objects_record written]

/-! ## While the flag is up -/

theorem isUpdating_flagged (raised : (storage.backend (flagRequest true) state).1 = .ok ()) :
    storage.IsUpdating (flagged storage.backend state) := by
  apply Storage.isUpdating_of_encoded
  have written := congrFun (congrFun (Storage.objects_flag raised) bucket) updatingKey
  rw [Objects.set_same] at written
  exact written

theorem isUpdating_ready (raised : (storage.backend (flagRequest true) state).1 = .ok ()) :
    storage.IsUpdating (ready storage.backend state) := by
  apply Storage.isUpdating_congr _ (isUpdating_flagged raised)
  rw [ready, Storage.objects_fetch]

theorem recordObject_ready :
    storage.recordObject (ready storage.backend state) = storage.recordObject state := by
  have fetched : storage.recordObject (ready storage.backend state) =
      storage.recordObject (flagged storage.backend state) := by
    rw [Storage.recordObject, ready, Storage.objects_fetch]
    rfl
  rw [fetched]
  exact Storage.recordObject_flag true

theorem isUpdating_opening (raised : (storage.backend (flagRequest true) state).1 = .ok ())
    {exchange : Exchange σ} (member : exchange ∈ opening storage.backend state) :
    storage.IsUpdating exchange.after := by
  rcases List.mem_cons.mp member with rfl | member
  · exact isUpdating_flagged raised
  · cases List.mem_singleton.mp member
    exact isUpdating_ready raised

/-! ## The plan -/

theorem record_of_begun {version : Version} {record : VersionRecord} {plan : Plan}
    (begun : Begun storage.backend registry target state version record plan) :
    storage.record state = .ok record := by
  have fetched := begun.fetched
  cases response : (storage.backend fetchRequest (flagged storage.backend state)).1 with
  | error cause =>
      rw [response] at fetched
      cases fetched
  | ok answer =>
      rw [response, Storage.recordOf_fetch response] at fetched
      rw [← fetched]
      exact Storage.record_congr (Storage.recordObject_flag true).symm

/-- The calls that a run makes of its own go through, whatever becomes of those that its
steps make. -/
structure GoesThrough (storage : Storage σ α) (registry : Registry) (target : String) (state : σ) :
    Prop where
  raised : (storage.backend (flagRequest true) state).1 = .ok ()
  fetched : ∃ answer, (storage.backend fetchRequest (flagged storage.backend state)).1 = .ok answer
  written : ∀ {version : Version} {record : VersionRecord} {plan : Plan} {names : List String}
    {made : List (Exchange σ)} {reached : σ},
    Begun storage.backend registry target state version record plan →
      (runSteps (registry.pending plan)).Runs storage.backend (ready storage.backend state)
        (.ok names) made reached →
      (storage.backend (recordRequest (stamp record plan)) reached).1 = .ok ()
  cleared : ∀ {version : Version} {record : VersionRecord} {plan : Plan} {names : List String}
    {made : List (Exchange σ)} {reached : σ},
    Begun storage.backend registry target state version record plan →
      (runSteps (registry.pending plan)).Runs storage.backend (ready storage.backend state)
        (.ok names) made reached →
      (storage.backend (flagRequest false)
        (stamped storage.backend (stamp record plan) reached)).1 = .ok ()

theorem begun_of_readable (through : GoesThrough storage registry target state)
    {version stored : Version} {record : VersionRecord}
    (valid : Version.read target = .ok version) (readable : storage.record state = .ok record)
    (parsed : record.parsedVersion = .ok stored) :
    Begun storage.backend registry target state version record
      (Plan.make registry stored record version) := by
  have kept : storage.record (flagged storage.backend state) = .ok record :=
    (Storage.record_congr (Storage.recordObject_flag true)).trans readable
  rcases through.fetched with ⟨answer, fetched⟩
  refine ⟨valid, through.raised, ?_, Plan.ofRecord_of_parsed registry version parsed⟩
  rw [fetched, Storage.recordOf_fetch fetched]
  exact kept

theorem goesThrough_of_serves (serves : storage.ServesBookkeeping) {record : VersionRecord}
    (readable : storage.record state = .ok record) :
    GoesThrough storage registry target state where
  raised := serves.flag true state
  fetched := by
    have kept : storage.record (flagged storage.backend state) = .ok record :=
      (Storage.record_congr (Storage.recordObject_flag true)).trans readable
    cases answered : storage.read (flagged storage.backend state) bucket recordKey with
    | error error =>
        rw [Storage.record, answered] at kept
        cases kept
    | ok answer => exact ⟨answer, serves.fetch _ answer answered⟩
  written _ _ := serves.record _ _
  cleared _ _ := serves.flag false _

end StoreMigration.Registry
