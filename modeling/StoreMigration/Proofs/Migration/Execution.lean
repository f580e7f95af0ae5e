import StoreMigration.Migration.Releases
import StoreMigration.Proofs.Migration.Stages
import StoreMigration.Proofs.Migration.Steps

/-! A run carries out its plan. As long as the bookkeeping's own calls go through, the
steps that the plan lets run are run in order, each once and each on the store that the
one before it left, up to the first that fails. -/

namespace StoreMigration.Registry

open Bookkeeping

variable {storage : Storage σ α} {registry : Registry} {target : String} {state : σ}

/-- All steps of the plan ran; the objects are those that the last step left, but for the
record and the flag. -/
structure Executes (storage : Storage σ α) (registry : Registry) (target : String) (state : σ)
    (record : VersionRecord) (plan : Plan) (made : List (Exchange σ)) (reached final : σ) :
    Prop where
  completes : Completes storage.backend (registry.unskipped plan) (ready storage.backend state)
    made reached
  run : (registry.run target).run storage.backend state =
    (.ok ⟨plan.fromVersion, plan.toVersion, plan.replayCount, plan.pendingSteps⟩, final)
  calls : (registry.run target).history storage.backend state =
    opening storage.backend state ++ (made ++ closing storage.backend (stamp record plan) reached)
  objects : storage.objects final =
    ((storage.objects reached).set bucket recordKey
      (some (storage.encode (stamp record plan).toJson))).set
        bucket updatingKey (some (storage.encode (.bool false)))

/-- A step of the plan failed after those before it had run; no call was made after it. -/
structure BreaksOff (storage : Storage σ α) (registry : Registry) (target : String) (state : σ)
    (plan : Plan) (failing : Step) (cause : StepError) (made : List (Exchange σ)) (final : σ) :
    Prop where
  stops : Stops storage.backend (registry.unskipped plan) (ready storage.backend state) failing
    cause made final
  run : (registry.run target).run storage.backend state =
    (.error (.stepFailed failing.name cause), final)
  calls : (registry.run target).history storage.backend state =
    opening storage.backend state ++ made

theorem Executes.recordObject {record : VersionRecord} {plan : Plan} {made : List (Exchange σ)}
    {reached final : σ}
    (executes : Executes storage registry target state record plan made reached final) :
    storage.recordObject final = some (storage.encode (stamp record plan).toJson) := by
  rw [Storage.recordObject, executes.objects, Objects.set_of_ne _ _ (.inr (by decide))]
  exact Objects.set_same _ _ _ _

theorem Executes.record {record : VersionRecord} {plan : Plan} {made : List (Exchange σ)}
    {reached final : σ}
    (executes : Executes storage registry target state record plan made reached final) :
    storage.record final = .ok (stamp record plan) :=
  Storage.record_of_encoded executes.recordObject

theorem parsed_of_ofRecord {record : VersionRecord} {version : Version} {plan : Plan}
    (planned : Plan.ofRecord registry record version = .ok plan) :
    ∃ stored, record.parsedVersion = .ok stored ∧ plan = Plan.make registry stored record version := by
  rw [Plan.ofRecord] at planned
  split at planned
  · next stored parsed =>
      cases planned
      exact ⟨stored, parsed, rfl⟩
  · cases planned

theorem finished_of_ok {report : Report} {final : σ}
    (ran : (registry.run target).run storage.backend state = (.ok report, final)) :
    ∃ version record plan names made reached,
      Begun storage.backend registry target state version record plan ∧
        (runSteps (registry.pending plan)).Runs storage.backend (ready storage.backend state)
          (.ok names) made reached ∧
        (registry.run target).history storage.backend state = opening storage.backend state ++
          (made ++ closing storage.backend (stamp record plan) reached) ∧
        (storage.backend (recordRequest (stamp record plan)) reached).1 = .ok () ∧
        (storage.backend (flagRequest false)
          (stamped storage.backend (stamp record plan) reached)).1 = .ok () ∧
        final = lowered storage.backend (stamp record plan) reached ∧
        report = ⟨record.schemaVersion, plan.toVersion, plan.replayCount, names⟩ := by
  have went := course ⟨ran, rfl⟩
  generalize calls : (registry.run target).history storage.backend state = history at went
  cases went with
  | @completed version record plan names made reached begun steps written cleared =>
      exact ⟨version, record, plan, names, made, reached, begun, steps, rfl, written, cleared, rfl,
        rfl⟩

/-- Every run that succeeds has executed the plan of the record that it found. -/
theorem executes_of_ok {report : Report} {final : σ}
    (ran : (registry.run target).run storage.backend state = (.ok report, final)) :
    ∃ version stored record made reached,
      Version.read target = .ok version ∧ storage.record state = .ok record ∧
        record.parsedVersion = .ok stored ∧
        Executes storage registry target state record (Plan.make registry stored record version)
          made reached final := by
  rcases finished_of_ok ran with
    ⟨version, record, plan, names, made, reached, begun, steps, calls, written, cleared, rfl, rfl⟩
  rcases parsed_of_ofRecord begun.planned with ⟨stored, parsed, rfl⟩
  rcases completes_of_runSteps steps with ⟨completes, rfl⟩
  refine ⟨version, stored, record, made, reached, begun.valid, record_of_begun begun, parsed, ?_⟩
  rw [pending_eq_unskipped] at completes
  refine ⟨completes, ?_, calls, objects_lowered written cleared⟩
  rw [ran, Plan.names_pending]
  rfl

theorem completes_due_of_ok {stored : Version} {record : VersionRecord} {report : Report}
    {final : σ} (readable : storage.record state = .ok record)
    (parsed : record.parsedVersion = .ok stored)
    (ran : (registry.run target).run storage.backend state = (.ok report, final)) :
    ∃ made reached,
      Completes storage.backend (Plan.due stored record.replayCount registry.descriptors)
        (ready storage.backend state) made reached ∧
      report.executedSteps =
        (Plan.due stored record.replayCount registry.descriptors).map Step.name := by
  rcases executes_of_ok ran with
    ⟨version, otherStored, otherRecord, made, reached, _, sameRecord, sameStored, executes⟩
  cases readable.symm.trans sameRecord
  cases parsed.symm.trans sameStored
  have told : report = _ := Except.ok.inj (congrArg Prod.fst (ran.symm.trans executes.run))
  refine ⟨made, reached, ?_, ?_⟩
  · rw [← Plan.pending_make registry stored record version, pending_eq_unskipped]
    exact executes.completes
  · rw [told, ← Plan.pending_make registry stored record version, Plan.names_pending]

/-- Where a run's own calls go through, only a step makes it fail once it is planned. -/
theorem stopped_of_error (through : GoesThrough storage registry target state)
    {version : Version} {record : VersionRecord} {plan : Plan} {error : MigrationError} {final : σ}
    (begun : Begun storage.backend registry target state version record plan)
    (ran : (registry.run target).run storage.backend state = (.error error, final)) :
    ∃ made, (runSteps (registry.pending plan)).Runs storage.backend (ready storage.backend state)
        (.error error) made final ∧
      (registry.run target).history storage.backend state =
        opening storage.backend state ++ made := by
  have went := course ⟨ran, rfl⟩
  generalize calls : (registry.run target).history storage.backend state = history at went
  cases went with
  | refused invalid => cases begun.valid.symm.trans invalid
  | notRaised unraised => cases begun.raised.symm.trans unraised
  | unplanned valid raised failed =>
      cases begun.valid.symm.trans valid
      rw [begun.fetched] at failed
      cases begun.planned.symm.trans failed
  | @stopped otherVersion otherRecord otherPlan _ made _ other steps =>
      rcases begun.unique other with ⟨rfl, rfl, rfl⟩
      exact ⟨made, steps, rfl⟩
  | notStamped other steps unwritten => cases (through.written other steps).symm.trans unwritten
  | notLowered other steps written unlowered =>
      cases (through.cleared other steps).symm.trans unlowered

theorem breaksOff_of_error (through : GoesThrough storage registry target state)
    {version : Version} {record : VersionRecord} {plan : Plan} {error : MigrationError} {final : σ}
    (begun : Begun storage.backend registry target state version record plan)
    (ran : (registry.run target).run storage.backend state = (.error error, final)) :
    ∃ failing cause made,
      BreaksOff storage registry target state plan failing cause made final := by
  rcases stopped_of_error through begun ran with ⟨made, steps, calls⟩
  rcases stops_of_runSteps steps with ⟨failing, cause, rfl, stops⟩
  rw [pending_eq_unskipped] at stops
  exact ⟨failing, cause, made, stops, ran, calls⟩

theorem executes_or_breaksOff (through : GoesThrough storage registry target state)
    {version stored : Version} {record : VersionRecord}
    (valid : Version.read target = .ok version) (readable : storage.record state = .ok record)
    (parsed : record.parsedVersion = .ok stored) :
    (∃ made reached final, Executes storage registry target state record
      (Plan.make registry stored record version) made reached final) ∨
    ∃ failing cause made final, BreaksOff storage registry target state
      (Plan.make registry stored record version) failing cause made final := by
  have begun : Begun storage.backend registry target state version record
      (Plan.make registry stored record version) := begun_of_readable through valid readable parsed
  rcases ran : (registry.run target).run storage.backend state with ⟨outcome, final⟩
  cases outcome with
  | ok report =>
      rcases executes_of_ok ran with
        ⟨otherVersion, otherStored, otherRecord, made, reached, sameVersion, sameRecord,
          sameStored, executes⟩
      cases valid.symm.trans sameVersion
      cases readable.symm.trans sameRecord
      cases parsed.symm.trans sameStored
      exact .inl ⟨made, reached, final, executes⟩
  | error error =>
      rcases breaksOff_of_error through begun ran with ⟨failing, cause, made, breaksOff⟩
      exact .inr ⟨failing, cause, made, final, breaksOff⟩

def CarriesOut (storage : Storage σ α) (registry : Registry) (target : String) (state : σ)
    (record : VersionRecord) (plan : Plan) : Prop :=
  storage.objects (ready storage.backend state) =
      (storage.objects state).set bucket updatingKey (some (storage.encode (.bool true))) ∧
    ((∃ made reached final,
        Executes storage registry target state record plan made reached final) ∨
      ∃ failing cause made final,
        BreaksOff storage registry target state plan failing cause made final)

theorem carriesOut (through : GoesThrough storage registry target state)
    {version stored : Version} {record : VersionRecord}
    (valid : Version.read target = .ok version) (readable : storage.record state = .ok record)
    (parsed : record.parsedVersion = .ok stored) :
    CarriesOut storage registry target state record
      (Plan.make registry stored record version) :=
  ⟨objects_ready through.raised, executes_or_breaksOff through valid readable parsed⟩

/-- The releases after 2.9.0 on a store that holds nothing but its record. -/
theorem carriesOut_releases :
    let record : VersionRecord := ⟨"2.9.0", 0, ⟨1⟩, "01J0000000000000000000000A"⟩
    let state := Memory.versioned record
    GoesThrough Memory.storage Releases.registry "2.16.0" state ∧
      Version.read "2.16.0" = .ok (.release 2 16 0) ∧
      Memory.storage.record state = .ok record ∧
      record.parsedVersion = .ok (.release 2 9 0) ∧
      CarriesOut Memory.storage Releases.registry "2.16.0" state record
        (Plan.make Releases.registry (.release 2 9 0) record (.release 2 16 0)) := by
  intro record state
  have readable : Memory.storage.record state = .ok record := Memory.record_versioned record
  have through : GoesThrough Memory.storage Releases.registry "2.16.0" state :=
    goesThrough_of_serves Memory.servesBookkeeping readable
  have parsed : Version.read "2.9.0" = .ok (.release 2 9 0) := rfl
  have valid : Version.read "2.16.0" = .ok (.release 2 16 0) := rfl
  exact ⟨through, valid, readable, parsed, carriesOut through valid readable parsed⟩

end StoreMigration.Registry
