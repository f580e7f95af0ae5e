import StoreMigration.Proofs.Migration.Course

/-! The ways in which a migration from start to end can go: the target is refused, no record
is to be had, or the registry is run from the store that was left once there was a record. -/

namespace StoreMigration.Migrator

variable (backend : Backend σ) (migrator : Migrator) (target : String) (state : σ)

inductive Course : Except MigrationError MigrationOutcome → List (Exchange σ) → σ → Prop
  | refused {cause : VersionError} (invalid : Version.read target = .error cause) :
      Course (.error (.invalidTarget target cause)) [] state
  | unrecorded {version : Version} {error : MigrationError} {history : List (Exchange σ)}
      {after : σ} (valid : Version.read target = .ok version)
      (failed : (migrator.bootstrap version).Runs backend state (.error error) history after) :
      Course (.error error) history after
  | recorded {version : Version} {source : RecordSource} {outcome : Except MigrationError Report}
      {earlier later : List (Exchange σ)} {middle after : σ}
      (valid : Version.read target = .ok version)
      (had : (migrator.bootstrap version).Runs backend state (.ok source) earlier middle)
      (ran : (migrator.registry.run target).Runs backend middle outcome later after) :
      Course (outcome.map (⟨source, ·⟩)) (earlier ++ later) after

variable {backend migrator target state}

theorem course {outcome : Except MigrationError MigrationOutcome} {history : List (Exchange σ)}
    {after : σ} (runs : (migrator.run target).Runs backend state outcome history after) :
    Course backend migrator target state outcome history after := by
  cases valid : Version.read target with
  | error cause =>
      rcases runs.of_bind_error (.ofResult (Registry.parseTarget_error valid) state) with
        ⟨rfl, rfl, rfl⟩
      exact .refused valid
  | ok version =>
  rcases runs.of_bind_ok (.ofResult (Registry.parseTarget_ok valid) state) with ⟨_, rfl, onceRead⟩
  rcases onceRead.bind_cases with ⟨_, boot, rfl⟩ | ⟨_, _, _, _, boot, onceBooted, rfl⟩
  · exact .unrecorded valid boot
  rcases onceBooted.bind_cases with ⟨_, ran, rfl⟩ | ⟨_, _, _, _, ran, last, rfl⟩
  · exact .recorded valid boot ran
  · rcases last.unique (.pure _ _) with ⟨rfl, rfl, rfl⟩
    rw [List.append_nil]
    exact .recorded valid boot ran

theorem runs_of_bootstrap {version : Version} {source : RecordSource}
    {outcome : Except MigrationError Report} {earlier later : List (Exchange σ)} {middle after : σ}
    (valid : Version.read target = .ok version)
    (had : (migrator.bootstrap version).Runs backend state (.ok source) earlier middle)
    (ran : (migrator.registry.run target).Runs backend middle outcome later after) :
    (migrator.run target).Runs backend state (outcome.map (⟨source, ·⟩)) (earlier ++ later)
      after := by
  refine (Action.Runs.ofResult (Registry.parseTarget_ok valid) state).bind_ok (had.bind_ok ?_)
  cases outcome with
  | error error => exact ran.bind_error _
  | ok report =>
      rw [← List.append_nil later]
      exact ran.bind_ok (.pure _ _)

theorem run_of_bridge_error {version : Version} {error : MigrationError} {after : σ}
    (valid : Version.read target = .ok version)
    (failed : Legacy.bridge.run backend state = (.error error, after)) :
    (migrator.run target).run backend state = (.error error, after) := by
  have parsed : (Action.ofResult (Registry.parseTarget target)).run backend state =
      (.ok version, state) := congrArg (·, state) (Registry.parseTarget_ok valid)
  have unrecorded : (migrator.bootstrap version).run backend state = (.error error, after) :=
    Action.run_bind_of_error failed _
  exact (Action.run_bind_of_ok parsed _).trans (Action.run_bind_of_error unrecorded _)

theorem ran_of_ok {outcome : MigrationOutcome} {final : σ}
    (ran : (migrator.run target).run backend state = (.ok outcome, final)) :
    ∃ middle, (migrator.registry.run target).run backend middle = (.ok outcome.report, final) := by
  have went := course ⟨ran, rfl⟩
  generalize (migrator.run target).history backend state = history at went
  generalize told : (Except.ok outcome : Except MigrationError MigrationOutcome) = result at went
  cases went with
  | refused invalid => cases told
  | unrecorded valid failed => cases told
  | @recorded version source result earlier later middle after valid had runs =>
      cases result with
      | error error => cases told
      | ok report =>
          cases told
          exact ⟨middle, runs.run_eq⟩

end StoreMigration.Migrator
