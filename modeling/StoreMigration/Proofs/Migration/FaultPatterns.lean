import StoreMigration.Proofs.Migration.FailFast
import StoreMigration.Proofs.Migration.Import
import StoreMigration.Proofs.Migration.Shipped

/-! A migration under any pattern of failing calls. The first call that fails ends it with an
error that tells which call it was; only deletions of legacy keys may fail, and which of them do
makes no difference to anything else. -/

namespace StoreMigration

open Bookkeeping

theorem Releases.registry_routine : Releases.registry.Routine := by
  intro descriptor inRegistry step inSteps
  rcases step_cases inRegistry inSteps with rfl | ⟨transform, member, rfl⟩
  · exact .floor
  · exact .editing transform.name transform.edit (bucket_ne_bookkeeping member)

/-! ## What looks at the legacy keys -/

namespace Registry

variable {registry : Registry}

theorem avoids_find (decode : Json → Json.Decoded α) {key : String} (other : key ∉ Legacy.keys) :
    (Action.withError MigrationError.store (Action.getAs decode bucket key)).KeepsTo
      (Request.Avoids Legacy.Place) := by
  apply Action.keepsTo_withError
  exact Action.keepsTo_getAs decode (Request.avoids_get fun inside => other inside.2)

theorem avoids_persist (key : String) (value : Json) :
    (persist key (Action.update bucket key value)).KeepsTo (Request.Avoids Legacy.Place) := by
  have writes : (Action.update bucket key value).KeepsTo (Request.Avoids Legacy.Place) :=
    Action.keepsTo_request (Request.avoids_update bucket key value)
  exact Action.keepsTo_withError _ writes

theorem avoids_record : record.KeepsTo (Request.Avoids Legacy.Place) := by
  apply Action.keepsTo_bind (avoids_find VersionRecord.ofJson (by decide))
  intro found
  split
  · exact Action.keepsTo_pure _
  · exact Action.keepsTo_throw _

theorem avoids_runSteps (keepsOut : registry.KeepsOutOf bucket) (plan : Plan) :
    (runSteps (registry.pending plan)).KeepsTo (Request.Avoids Legacy.Place) := by
  apply keepsTo_runSteps
  intro step member
  rcases mem_selectSteps member with ⟨descriptor, inRegistry, inSteps⟩
  apply Program.keepsTo_mono (keepsOut descriptor inRegistry step inSteps)
  intro request elsewhere
  exact Request.avoids_of_bucket fun key inside => elsewhere inside.1

theorem avoids_run (keepsOut : registry.KeepsOutOf bucket) (target : String) :
    (registry.run target).KeepsTo (Request.Avoids Legacy.Place) := by
  apply Action.keepsTo_bind (Action.keepsTo_ofResult _)
  intro version
  apply Action.keepsTo_bind (avoids_persist updatingKey _)
  intro _
  apply Action.keepsTo_bind avoids_record
  intro record
  apply Action.keepsTo_bind (Action.keepsTo_ofResult _)
  intro plan
  apply Action.keepsTo_bind (avoids_runSteps keepsOut plan)
  intro names
  apply Action.keepsTo_bind (avoids_persist recordKey _)
  intro _
  apply Action.keepsTo_bind (avoids_persist updatingKey _)
  intro _
  exact Action.keepsTo_pure _

end Registry

namespace Legacy

theorem keeps_of_onlyReads {action : Action ε α} (reads : action.OnlyReads) :
    action.KeepsTo fun request => ¬ Deletes request :=
  Program.keepsTo_mono reads fun _ => Request.not_drops_of_harmless

theorem forgets_pure (result : α) : (pure result : Action ε α).Forgets Place :=
  .overlooks trivial

/-- The keys are not looked at any more once one of them was deleted. -/
theorem forgets_bridge : bridge.Forgets Place := by
  apply Action.forgets_of_keepsTo_bind
    (keeps_of_onlyReads (Action.onlyReads_find VersionRecord.ofJson recordKey))
  intro recorded
  split
  · exact Action.forgets_of_keepsTo_bind (keeps_of_onlyReads (Action.onlyReads_contains versionKey))
      fun _ => forgets_pure _
  · apply Action.forgets_of_keepsTo_bind (keeps_of_onlyReads onlyReads_record?)
    intro imported
    split
    · exact forgets_pure _
    · apply Action.Overlooks.forgets
      apply Action.overlooks_bind
        (Action.overlooks_of_keepsTo (Registry.avoids_persist recordKey _))
      intro _
      apply Action.overlooks_bind (Action.overlooks_removal bucket versionKey)
      intro _
      apply Action.overlooks_bind (Action.overlooks_removal bucket editionKey)
      intro _
      exact Action.overlooks_bind (Action.overlooks_removal bucket instanceKey) fun _ => trivial

end Legacy

namespace Migrator

variable (migrator : Migrator)

theorem forgets_bootstrap (version : Version) :
    (migrator.bootstrap version).Forgets Legacy.Place := by
  apply Action.forgets_bind Legacy.forgets_bridge
  intro outcome
  split
  · trivial
  · trivial
  · exact Action.overlooks_bind
      (Action.overlooks_of_keepsTo (Registry.avoids_persist recordKey _)) fun _ => trivial

/-! ## From start to end -/

def startup (target : String) : Action MigrationError MigrationOutcome := do
  prepare
  migrator.run target

theorem forgets_startup (routine : migrator.registry.Routine) (target : String) :
    (migrator.startup target).Forgets Legacy.Place := by
  have ensures : prepare.KeepsTo fun request => ¬ Legacy.Deletes request :=
    Action.keepsTo_withError _ (Action.keepsTo_request nofun)
  apply Action.forgets_of_keepsTo_bind ensures
  intro _
  apply Action.forgets_of_keepsTo_bind (Action.keepsTo_ofResult _)
  intro version
  apply Action.forgets_bind (migrator.forgets_bootstrap version)
  intro source
  have avoids := Registry.avoids_run routine.keepsOut target
  exact Action.overlooks_bind (Action.overlooks_of_keepsTo avoids) fun _ => trivial

theorem failsFast_startup {backend : Backend σ} (routine : migrator.registry.Routine)
    (target : String) (state : σ) : (migrator.startup target).FailsFast backend Legacy.Deletes
      (migrator.Blames backend target state) state := by
  apply (failsFast_prepare.mono fun _ _ _ _ told => .bookkeeping told).bind
  intro answer made reached prepared
  apply (Registry.failsFast_ofResult _).bind
  intro version none middle parse
  rcases parse.unique (.ofResult rfl reached) with ⟨parsed, rfl, rfl⟩
  apply ((migrator.failsFast_bootstrap version).mono fun _ _ _ _ told => .bookkeeping told).bind
  intro source calls entry bootstrapped
  have told : ∀ before exchange fault error,
      migrator.registry.Blames backend target entry before exchange fault error →
        migrator.Blames backend target state (made ++ (calls ++ before)) exchange fault error :=
    fun _ _ _ _ => .registry (Registry.valid_of_parseTarget parsed.symm) prepared bootstrapped
  apply ((Registry.failsFast_run routine target entry).mono told).bind
  intro _ _ _ _
  exact Registry.failsFast_pure _

/-- Every call of a start that fails, but for the deletions of legacy keys, is the last and to
blame for the error, and for no other; and whichever of those deletions fail, everything else
goes as before. -/
theorem startup_underFaults {storage : Storage σ α} (only : storage.Local)
    (routine : migrator.registry.Routine) (target : String) :
    (∀ (τ : Type) (backend : Backend τ) (state : τ),
      (migrator.startup target).FailsFast backend Legacy.Deletes
          (migrator.Blames backend target state) state ∧
        ∀ before exchange fault one other,
          migrator.Blames backend target state before exchange fault one →
          migrator.Blames backend target state before exchange fault other → one = other) ∧
    ∀ (φ : Type) (one other : Disturbance φ), Disturbance.AlikeBut Legacy.Place one other →
      ∀ start : φ × σ, (migrator.startup target).toProgram.RunsAlike storage Legacy.Place one other
        start start :=
  ⟨fun _ _ state => ⟨migrator.failsFast_startup routine target state,
      fun _ _ _ _ _ blamed blamedToo => blamed.unique blamedToo⟩,
    fun _ _ _ patterns start =>
      Program.runsAlike_of_forgets only patterns (migrator.forgets_startup routine target) start⟩

def failingFifteenth : Disturbance Nat :=
  failingAt fun number => if number = 14 then some (.backend (.reported "disk full")) else none

def failingDeletions : Disturbance Unit := fun request _ =>
  match request with
  | .delete place label =>
      (if place = bucket ∧ label ∈ Legacy.keys then some (.backend (.reported "disk full"))
        else none, ())
  | _ => (none, ())

theorem failingDeletions_alikeBut :
    Disturbance.AlikeBut Legacy.Place undisturbed failingDeletions where
  later _ _ := rfl
  decision request _ keeps := by
    cases request with
    | delete place label =>
        have outside : ¬ (place = bucket ∧ label ∈ Legacy.keys) :=
          fun inside => keeps ⟨place, label, rfl, inside⟩
        exact (if_neg outside).symm
    | _ => rfl

/-- Legacy keys are imported, the first step that is due is completed, and the second cannot list
its keys. In a file, the same keys cannot be deleted. -/
theorem startup_underFaults_secondStep :
    let migrator : Migrator := ⟨Releases.registry, ⟨1⟩, "01J0000000000000000000000B"⟩
    let full : StoreError := .backend (.reported "disk full")
    let backend := Memory.backend.disturbed failingFifteenth
    let told : MigrationError := .stepFailed "migrate_db_to_35" (.store full)
    let texts := ((Buckets.empty.write bucket Legacy.versionKey "35").write bucket Legacy.editionKey
      "2").write bucket Legacy.instanceKey "\"01J0000000000000000000000A\""
    Database.tablesStorage.Local ∧ migrator.registry.Routine ∧
      (∃ before exchange after,
        (migrator.startup "2.15.0").Runs backend (0, Legacy.unrecorded) (.error told)
          (before ++ [exchange]) after ∧
        exchange.request = .listKeys "users" ∧ exchange.response = .error full ∧
        migrator.Blames backend "2.15.0" (0, Legacy.unrecorded) before exchange full told) ∧
      (migrator.startup "2.15.0").toProgram.RunsAlike Database.tablesStorage Legacy.Place undisturbed
        failingDeletions ((), texts) ((), texts) := by
  intro migrator full backend told texts
  have underFaults := startup_underFaults migrator Database.tablesStorage_local
    Releases.registry_routine "2.15.0"
  let before := ((migrator.startup "2.15.0").history backend (0, Legacy.unrecorded)).take 14
  let reached := ((migrator.startup "2.15.0").run backend (0, Legacy.unrecorded)).2
  let exchange : Exchange (Nat × Buckets Json) := ⟨.listKeys "users", .error full, reached⟩
  have runs : (migrator.startup "2.15.0").Runs backend (0, Legacy.unrecorded) (.error told)
      (before ++ [exchange]) reached := ⟨rfl, rfl⟩
  rcases (underFaults.1 _ backend _).1.last runs rfl nofun with ⟨_, error, same, blamed⟩
  cases same
  exact ⟨Database.tablesStorage_local, Releases.registry_routine,
    ⟨before, exchange, reached, runs, rfl, rfl, blamed⟩,
    underFaults.2 _ _ _ failingDeletions_alikeBut _⟩

end Migrator

end StoreMigration
