import StoreMigration.Proofs.Migration.Execution
import StoreMigration.Proofs.Migration.Import

/-! A plan foretells the migration. On a store on which nothing fails a migration makes sure
of its record first, by writing one if need be, and a plan finds the same record without
writing anything; so a migration that succeeds has done what the plan said, and one that was
planned fails in a step if it fails at all. -/

namespace StoreMigration

open Bookkeeping

inductive Storage.StartsFrom (storage : Storage σ α) (migrator : Migrator) (version : Version)
    (state : σ) : RecordSource → VersionRecord → Prop
  | existing {record : VersionRecord}
      (recorded : storage.entry VersionRecord.ofJson recordKey state = .ok (some record)) :
      StartsFrom storage migrator version state .existing record
  | legacy {record : VersionRecord}
      (unrecorded : storage.entry VersionRecord.ofJson recordKey state = .ok none)
      (has : storage.HasLegacy state record) :
      StartsFrom storage migrator version state .legacy record
  | fresh (unrecorded : storage.entry VersionRecord.ofJson recordKey state = .ok none)
      (unnumbered : storage.entry Json.decodeInt64 Legacy.versionKey state = .ok none) :
      StartsFrom storage migrator version state .freshInstall
        (.fresh version migrator.edition migrator.newInstanceId)

variable {migrator : Migrator} {target : String} {version : Version} {source : RecordSource}
  {record : VersionRecord}

/-! ## What a plan is made from -/

namespace Migrator

variable {backend : Backend σ} {state after : σ} {history : List (Exchange σ)}

theorem started_of_plan {planned : PlanOutcome}
    (runs : (migrator.plan target).Runs backend state (.ok planned) history after) :
    ∃ version record made middle, Version.read target = .ok version ∧
      (migrator.startingRecord version).Runs backend state (.ok (planned.source, record)) made
        middle ∧
      Plan.ofRecord migrator.registry record version = .ok planned.plan := by
  cases valid : Version.read target with
  | error cause =>
      rcases runs.of_bind_error (.ofResult (Registry.parseTarget_error valid) state) with
        ⟨impossible, _⟩
      cases impossible
  | ok version =>
  rcases runs.of_bind_ok (.ofResult (Registry.parseTarget_ok valid) state) with ⟨_, _, onceRead⟩
  rcases onceRead.bind_cases with
    ⟨_, _, impossible⟩ | ⟨⟨source, record⟩, made, middle, _, start, onceStarted, _⟩
  · cases impossible
  rcases onceStarted.bind_cases with ⟨_, _, impossible⟩ | ⟨plan, _, _, _, make, last, _⟩
  · cases impossible
  rcases make.unique (.ofResult rfl middle) with ⟨made_eq, _, _⟩
  rcases last.unique (.pure _ _) with ⟨told, _, _⟩
  cases told
  exact ⟨version, record, made, middle, rfl, start, made_eq.symm⟩

theorem fresh_of_started
    (runs : (migrator.startingRecord version).Runs backend state (.ok (.freshInstall, record))
      history after) :
    record = .fresh version migrator.edition migrator.newInstanceId := by
  rcases runs.bind_cases with ⟨_, _, impossible⟩ | ⟨found, _, middle, _, _, onceFound, _⟩
  · cases impossible
  cases found with
  | some stored =>
      rcases onceFound.unique (.pure _ _) with ⟨impossible, _, _⟩
      cases impossible
  | none =>
      rcases onceFound.bind_cases with ⟨_, _, impossible⟩ | ⟨legacy, _, reached, _, _, last, _⟩
      · cases impossible
      cases legacy with
      | some imported =>
          rcases last.unique (.pure _ _) with ⟨impossible, _, _⟩
          cases impossible
      | none =>
          rcases last.unique (.pure _ _) with ⟨told, _, _⟩
          cases told
          rfl

end Migrator

namespace Storage

theorem startsFrom_of_started {storage : Storage σ α} {state after : σ}
    {history : List (Exchange σ)}
    (runs : (migrator.startingRecord version).Runs storage.backend state (.ok (source, record))
      history after) : storage.StartsFrom migrator version state source record := by
  rcases runs.bind_cases with ⟨_, _, impossible⟩ | ⟨found, _, middle, _, find, onceFound, _⟩
  · cases impossible
  have known := entry_of_find find
  have same := (looks_of_onlyReads (Action.onlyReads_find _ _) find).left
  cases found with
  | some stored =>
      rcases onceFound.unique (.pure _ _) with ⟨told, _, _⟩
      cases told
      exact .existing known
  | none =>
      rcases onceFound.bind_cases with ⟨_, _, impossible⟩ | ⟨legacy, _, reached, _, look, last, _⟩
      · cases impossible
      rcases found_of_legacy look with ⟨rfl, unnumbered⟩ | ⟨imported, rfl, has⟩
      · rcases last.unique (.pure _ _) with ⟨told, _, _⟩
        cases told
        exact .fresh known ((entry_congr same.symm _ _).trans unnumbered)
      · rcases last.unique (.pure _ _) with ⟨told, _, _⟩
        cases told
        exact .legacy known (has.congr same.symm)

namespace Faithful

variable {storage : Storage (Buckets α) α} {capacity : Json.Capacity} {state : Buckets α}

theorem run_startingRecord (faithful : storage.Faithful capacity)
    (starts : storage.StartsFrom migrator version state source record) :
    (migrator.startingRecord version).run storage.backend state = (.ok (source, record), state) := by
  cases starts with
  | existing recorded => exact Action.run_bind_of_ok (faithful.run_found recorded) _
  | legacy unrecorded has =>
      apply (Action.run_bind_of_ok (faithful.run_found unrecorded) _).trans
      exact Action.run_bind_of_ok (faithful.run_legacy_of_has has) _
  | fresh unrecorded unnumbered =>
      apply (Action.run_bind_of_ok (faithful.run_found unrecorded) _).trans
      exact Action.run_bind_of_ok (faithful.run_legacy_of_unnumbered unnumbered) _

theorem run_plan (faithful : storage.Faithful capacity) {plan : Plan}
    (valid : Version.read target = .ok version)
    (starts : storage.StartsFrom migrator version state source record)
    (planned : Plan.ofRecord migrator.registry record version = .ok plan) :
    (migrator.plan target).run storage.backend state = (.ok ⟨source, plan⟩, state) := by
  apply (Action.run_bind_of_ok (congrArg (·, state) (Registry.parseTarget_ok valid)) _).trans
  apply (Action.run_bind_of_ok (faithful.run_startingRecord starts) _).trans
  exact Action.run_bind_of_ok (congrArg (·, state) planned) _

/-! ## The record of a migration -/

theorem bootstrap_of_startsFrom (faithful : storage.Faithful capacity)
    (starts : storage.StartsFrom migrator version state source record) {residue : Option Json}
    (legible : storage.read state bucket Legacy.versionKey = .ok residue) :
    ∃ middle, (migrator.bootstrap version).run storage.backend state = (.ok source, middle) ∧
      storage.record middle = .ok record := by
  cases starts with
  | existing recorded =>
      exact ⟨state, Action.run_bind_of_ok (faithful.bridge_of_versioned recorded legible) _,
        record_of_entry recorded⟩
  | legacy unrecorded has =>
      have replaced := Legacy.replaced_importedBuckets faithful record state
      exact ⟨_, Action.run_bind_of_ok (faithful.bridge_of_legacy unrecorded has) _,
        record_of_encoded replaced.recorded⟩
  | fresh unrecorded unnumbered =>
      refine ⟨_, faithful.bootstrap_of_fresh migrator version unrecorded unnumbered, ?_⟩
      apply record_of_encoded
      rw [recordObject, faithful.shown]
      exact Buckets.read_write_same _ _ _ _

theorem startsFrom_of_bootstrap (faithful : storage.Faithful capacity) {middle : Buckets α}
    (had : (migrator.bootstrap version).run storage.backend state = (.ok source, middle)) :
    ∃ record, storage.StartsFrom migrator version state source record ∧
      storage.record middle = .ok record := by
  have begins : ∃ source record residue, storage.StartsFrom migrator version state source record ∧
      storage.read state bucket Legacy.versionKey = .ok residue := by
    rcases faithful.startable_or_ends migrator version state with startable | ⟨error, ended⟩
    · cases startable with
      | versioned recorded legible => exact ⟨_, _, _, .existing recorded, legible⟩
      | legacy unrecorded has =>
          rcases has with ⟨numbered, edited, identified, released⟩
          rcases read_of_entry numbered with ⟨residue, legible⟩
          exact ⟨_, _, residue, .legacy unrecorded (.intro numbered edited identified released),
            legible⟩
      | fresh unrecorded unnumbered =>
          rcases read_of_entry unnumbered with ⟨residue, legible⟩
          exact ⟨_, _, residue, .fresh unrecorded unnumbered, legible⟩
    · cases had.symm.trans ended
  rcases begins with ⟨other, record, residue, starts, legible⟩
  rcases faithful.bootstrap_of_startsFrom starts legible with ⟨reached, hadToo, readable⟩
  cases had.symm.trans hadToo
  exact ⟨record, starts, readable⟩

/-! ## Plans and migrations -/

/-- A migration that succeeds could be planned before, and did what the plan said. -/
theorem foretold (faithful : storage.Faithful capacity) {outcome : MigrationOutcome}
    {final : Buckets α}
    (ran : (migrator.run target).run storage.backend state = (.ok outcome, final)) :
    ∃ planned : PlanOutcome,
      (migrator.plan target).run storage.backend state = (.ok planned, state) ∧
      outcome = ⟨planned.source, ⟨planned.plan.fromVersion, planned.plan.toVersion,
        planned.plan.replayCount, planned.plan.pendingSteps⟩⟩ := by
  have went := Migrator.course ⟨ran, rfl⟩
  generalize (migrator.run target).history storage.backend state = history at went
  generalize told : (Except.ok outcome : Except MigrationError MigrationOutcome) = result at went
  cases went with
  | refused invalid => cases told
  | unrecorded valid failed => cases told
  | @recorded version source own earlier later middle after valid had run =>
      cases own with
      | error error => cases told
      | ok report =>
          cases told
          rcases faithful.startsFrom_of_bootstrap had.run_eq with ⟨record, starts, readable⟩
          rcases Registry.executes_of_ok run.run_eq with
            ⟨_, stored, _, _, _, validToo, readableToo, parsed, executes⟩
          cases valid.symm.trans validToo
          cases readable.symm.trans readableToo
          have planned := Plan.ofRecord_of_parsed migrator.registry version parsed
          have same := congrArg Prod.fst (run.run_eq.symm.trans executes.run)
          cases same
          exact ⟨⟨source, _⟩, faithful.run_plan valid starts planned, rfl⟩

/-- A migration that can be planned fails in a step if it fails at all, as long as the legacy
number, if it is there, can be read. -/
theorem carriedOut (faithful : storage.Faithful capacity) {planned : PlanOutcome}
    {after : Buckets α} {residue : Option Json}
    (ran : (migrator.plan target).run storage.backend state = (.ok planned, after))
    (legible : storage.read state bucket Legacy.versionKey = .ok residue) :
    (∃ outcome final,
        (migrator.run target).run storage.backend state = (.ok outcome, final)) ∨
      ∃ name cause final,
        (migrator.run target).run storage.backend state = (.error (.stepFailed name cause), final) := by
  rcases Migrator.started_of_plan ⟨ran, rfl⟩ with
    ⟨version, record, _, _, valid, start, made⟩
  have starts := startsFrom_of_started start
  rcases faithful.bootstrap_of_startsFrom starts legible with ⟨middle, had, readable⟩
  rcases Registry.parsed_of_ofRecord made with ⟨stored, parsed, _⟩
  have through : Registry.GoesThrough storage migrator.registry target middle :=
    Registry.goesThrough_of_serves faithful.servesBookkeeping readable
  rcases Registry.executes_or_breaksOff through valid readable parsed with
    ⟨_, _, final, executes⟩ | ⟨failing, cause, _, final, breaksOff⟩
  · have ran := Migrator.runs_of_bootstrap valid ⟨had, rfl⟩ ⟨executes.run, rfl⟩
    exact .inl ⟨_, final, ran.run_eq⟩
  · have ran := Migrator.runs_of_bootstrap valid ⟨had, rfl⟩ ⟨breaksOff.run, rfl⟩
    exact .inr ⟨failing.name, cause, final, ran.run_eq⟩

end Faithful

end Storage

end StoreMigration
