import StoreMigration.Proofs.Migration.Bookkeeping

/-! All the ways in which a run of a registry can go. `Registry.course` reads them off
the program once, with the calls that were made on each way; what holds of every run is
then a matter of looking at the seven cases. -/

namespace StoreMigration.Registry

open Bookkeeping

variable (backend : Backend σ) (registry : Registry) (target : String) (state : σ)

/-! ## The stages of a run -/

def flagged : σ := (backend (flagRequest true) state).2

/-- The store on which the first step runs. -/
def ready : σ := (backend fetchRequest (flagged backend state)).2

def opening : List (Exchange σ) :=
  [backend.exchange (flagRequest true) state,
    backend.exchange fetchRequest (flagged backend state)]

def stamped (record : VersionRecord) (reached : σ) : σ := (backend (recordRequest record) reached).2

def lowered (record : VersionRecord) (reached : σ) : σ :=
  (backend (flagRequest false) (stamped backend record reached)).2

def closing (record : VersionRecord) (reached : σ) : List (Exchange σ) :=
  [backend.exchange (recordRequest record) reached,
    backend.exchange (flagRequest false) (stamped backend record reached)]

def pending (plan : Plan) : List Step :=
  Plan.selectSteps registry.descriptors plan.descriptors

def carryOut (record : VersionRecord) (plan : Plan) : Action MigrationError Report := do
  let executed ← runSteps (registry.pending plan)
  persist recordKey (writeRecord (stamp record plan))
  persist updatingKey (setUpdating false)
  return ⟨record.schemaVersion, plan.toVersion, plan.replayCount, executed⟩

/-- The flag was raised, the record was fetched and the plan was made. -/
structure Begun (version : Version) (record : VersionRecord) (plan : Plan) : Prop where
  valid : Version.read target = .ok version
  raised : (backend (flagRequest true) state).1 = .ok ()
  fetched : recordOf (backend fetchRequest (flagged backend state)).1 = .ok record
  planned : Plan.ofRecord registry record version = .ok plan

/-! ## The ways a run can go -/

inductive Course : Except MigrationError Report → List (Exchange σ) → σ → Prop
  | refused {cause : VersionError} (invalid : Version.read target = .error cause) :
      Course (.error (.invalidTarget target cause)) [] state
  | notRaised {cause : StoreError}
      (unraised : (backend (flagRequest true) state).1 = .error cause) :
      Course (.error (.notPersisted updatingKey cause))
        [backend.exchange (flagRequest true) state] (flagged backend state)
  | unplanned {version : Version} {error : MigrationError}
      (valid : Version.read target = .ok version)
      (raised : (backend (flagRequest true) state).1 = .ok ())
      (failed : (recordOf (backend fetchRequest (flagged backend state)).1 >>= fun record =>
        Plan.ofRecord registry record version) = .error error) :
      Course (.error error) (opening backend state) (ready backend state)
  | stopped {version : Version} {record : VersionRecord} {plan : Plan} {error : MigrationError}
      {made : List (Exchange σ)} {reached : σ}
      (begun : Begun backend registry target state version record plan)
      (steps : (runSteps (registry.pending plan)).Runs backend (ready backend state)
        (.error error) made reached) :
      Course (.error error) (opening backend state ++ made) reached
  | notStamped {version : Version} {record : VersionRecord} {plan : Plan} {names : List String}
      {made : List (Exchange σ)} {reached : σ} {cause : StoreError}
      (begun : Begun backend registry target state version record plan)
      (steps : (runSteps (registry.pending plan)).Runs backend (ready backend state)
        (.ok names) made reached)
      (unwritten : (backend (recordRequest (stamp record plan)) reached).1 = .error cause) :
      Course (.error (.notPersisted recordKey cause))
        (opening backend state ++
          (made ++ [backend.exchange (recordRequest (stamp record plan)) reached]))
        (stamped backend (stamp record plan) reached)
  | notLowered {version : Version} {record : VersionRecord} {plan : Plan} {names : List String}
      {made : List (Exchange σ)} {reached : σ} {cause : StoreError}
      (begun : Begun backend registry target state version record plan)
      (steps : (runSteps (registry.pending plan)).Runs backend (ready backend state)
        (.ok names) made reached)
      (written : (backend (recordRequest (stamp record plan)) reached).1 = .ok ())
      (unlowered : (backend (flagRequest false)
        (stamped backend (stamp record plan) reached)).1 = .error cause) :
      Course (.error (.notPersisted updatingKey cause))
        (opening backend state ++ (made ++ closing backend (stamp record plan) reached))
        (lowered backend (stamp record plan) reached)
  | completed {version : Version} {record : VersionRecord} {plan : Plan} {names : List String}
      {made : List (Exchange σ)} {reached : σ}
      (begun : Begun backend registry target state version record plan)
      (steps : (runSteps (registry.pending plan)).Runs backend (ready backend state)
        (.ok names) made reached)
      (written : (backend (recordRequest (stamp record plan)) reached).1 = .ok ())
      (cleared : (backend (flagRequest false)
        (stamped backend (stamp record plan) reached)).1 = .ok ()) :
      Course (.ok ⟨record.schemaVersion, plan.toVersion, plan.replayCount, names⟩)
        (opening backend state ++ (made ++ closing backend (stamp record plan) reached))
        (lowered backend (stamp record plan) reached)

variable {backend registry target state}

theorem parseTarget_ok {version : Version} (valid : Version.read target = .ok version) :
    parseTarget target = .ok version := by
  simp only [parseTarget, valid]

theorem parseTarget_error {cause : VersionError} (invalid : Version.read target = .error cause) :
    parseTarget target = .error (.invalidTarget target cause) := by
  simp only [parseTarget, invalid]

theorem valid_of_parseTarget {version : Version} (parsed : parseTarget target = .ok version) :
    Version.read target = .ok version := by
  rw [parseTarget] at parsed
  split at parsed
  · next valid =>
      cases parsed
      exact valid
  · cases parsed

theorem run_of_begun {version : Version} {record : VersionRecord} {plan : Plan}
    (begun : Begun backend registry target state version record plan) :
    (registry.run target).run backend state =
      (registry.carryOut record plan).run backend (ready backend state) := by
  have raise := runs_setUpdating backend state true
  rw [begun.raised] at raise
  have fetch := runs_record backend (flagged backend state)
  rw [begun.fetched] at fetch
  apply (Action.run_bind_of_ok (congrArg (·, state) (parseTarget_ok begun.valid)) _).trans
  apply (Action.run_bind_of_ok raise.run_eq _).trans
  apply (Action.run_bind_of_ok fetch.run_eq _).trans
  exact Action.run_bind_of_ok (congrArg (·, ready backend state) begun.planned) _

theorem course_of_begun {version : Version} {record : VersionRecord} {plan : Plan}
    {outcome : Except MigrationError Report} {later : List (Exchange σ)} {after : σ}
    (begun : Begun backend registry target state version record plan)
    (runs : (registry.carryOut record plan).Runs backend (ready backend state) outcome later
      after) :
    Course backend registry target state outcome (opening backend state ++ later) after := by
  rcases Action.Runs.exist backend (runSteps (registry.pending plan)) (ready backend state) with
    ⟨result, made, reached, steps⟩
  cases result with
  | error error =>
      rcases runs.of_bind_error steps with ⟨rfl, rfl, rfl⟩
      exact .stopped begun steps
  | ok names =>
  rcases runs.of_bind_ok steps with ⟨_, rfl, onceExecuted⟩
  have write := runs_writeRecord backend reached (stamp record plan)
  cases written : (backend (recordRequest (stamp record plan)) reached).1 with
  | error cause =>
      rw [written] at write
      rcases onceExecuted.of_bind_error write with ⟨rfl, rfl, rfl⟩
      exact .notStamped begun steps written
  | ok answer =>
  rw [written] at write
  rcases onceExecuted.of_bind_ok write with ⟨_, rfl, onceWritten⟩
  have lower := runs_setUpdating backend (stamped backend (stamp record plan) reached) false
  cases cleared : (backend (flagRequest false)
      (stamped backend (stamp record plan) reached)).1 with
  | error cause =>
      rw [cleared] at lower
      rcases onceWritten.of_bind_error lower with ⟨rfl, rfl, rfl⟩
      exact .notLowered begun steps written cleared
  | ok answer =>
      rw [cleared] at lower
      rcases onceWritten.unique (lower.bind_ok (.pure _ _)) with ⟨rfl, rfl, rfl⟩
      exact .completed begun steps written cleared

theorem course {outcome : Except MigrationError Report} {history : List (Exchange σ)} {after : σ}
    (runs : (registry.run target).Runs backend state outcome history after) :
    Course backend registry target state outcome history after := by
  cases valid : Version.read target with
  | error cause =>
      rcases runs.of_bind_error (.ofResult (parseTarget_error valid) state) with ⟨rfl, rfl, rfl⟩
      exact .refused valid
  | ok version =>
  rcases runs.of_bind_ok (.ofResult (parseTarget_ok valid) state) with ⟨_, rfl, onceRead⟩
  have raise := runs_setUpdating backend state true
  cases raised : (backend (flagRequest true) state).1 with
  | error cause =>
      rw [raised] at raise
      rcases onceRead.of_bind_error raise with ⟨rfl, rfl, rfl⟩
      exact .notRaised raised
  | ok answer =>
  rw [raised] at raise
  rcases onceRead.of_bind_ok raise with ⟨_, rfl, onceRaised⟩
  have fetch := runs_record backend (flagged backend state)
  cases fetched : recordOf (backend fetchRequest (flagged backend state)).1 with
  | error error =>
      rw [fetched] at fetch
      rcases onceRaised.of_bind_error fetch with ⟨rfl, rfl, rfl⟩
      have failed : (recordOf (backend fetchRequest (flagged backend state)).1 >>= fun record =>
          Plan.ofRecord registry record version) = .error error := by rw [fetched]; rfl
      exact .unplanned valid raised failed
  | ok record =>
  rw [fetched] at fetch
  rcases onceRaised.of_bind_ok fetch with ⟨_, rfl, onceFetched⟩
  cases planned : Plan.ofRecord registry record version with
  | error error =>
      rcases onceFetched.of_bind_error (.ofResult planned _) with ⟨rfl, rfl, rfl⟩
      have failed : (recordOf (backend fetchRequest (flagged backend state)).1 >>= fun record =>
          Plan.ofRecord registry record version) = .error error := by rw [fetched]; exact planned
      exact .unplanned valid raised failed
  | ok plan =>
      rcases onceFetched.of_bind_ok (.ofResult planned _) with ⟨_, rfl, oncePlanned⟩
      exact course_of_begun ⟨valid, raised, fetched, planned⟩ oncePlanned

end StoreMigration.Registry
