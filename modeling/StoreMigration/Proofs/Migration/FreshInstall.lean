import StoreMigration.Proofs.Migration.Growth
import StoreMigration.Proofs.Migration.Stability

/-! What the first migration of a new installation does. Its record names the target and knows
of no applied steps, and it is walked like that of any other store: whatever the registry has
to do at its target or above is due. Nothing runs exactly where there are no such steps. -/

namespace StoreMigration

open Bookkeeping

/-! ## From the record of a new installation -/

namespace Registry

/-- There are no steps for the version or for one above it. -/
def EmptyFrom (registry : Registry) (version : Version) : Prop :=
  ∀ descriptor ∈ registry.descriptors,
    version = descriptor.version ∨ version < descriptor.version → descriptor.steps = []

instance (registry : Registry) (version : Version) : Decidable (registry.EmptyFrom version) :=
  inferInstanceAs (Decidable (∀ descriptor ∈ registry.descriptors,
    version = descriptor.version ∨ version < descriptor.version → descriptor.steps = []))

variable {registry : Registry} {version : Version} {record : VersionRecord}

theorem settledAt_zero_iff : registry.SettledAt version 0 ↔ registry.EmptyFrom version := by
  apply forall₂_congr
  intro descriptor _
  have counted : descriptor.stepCount ≤ 0 ↔ descriptor.steps = [] := by
    constructor
    · intro none
      by_contra nonempty
      exact UInt32.not_lt.mpr none (Descriptor.stepCount_pos nonempty)
    · intro none
      rw [Descriptor.stepCount, none]
      exact UInt32.le_refl 0
  rw [Descriptor.SettledAt, counted]
  constructor
  · rintro ⟨above, here⟩ (same | below)
    · exact here same
    · exact (above below).1
  · intro empty
    exact ⟨fun below => ⟨empty (.inr below), rfl⟩, fun same => empty (.inl same)⟩

theorem pendingSteps_eq_nil_iff_emptyFrom (uncounted : record.replayCount = 0) (target : Version) :
    (Plan.make registry version record target).pendingSteps = [] ↔
      registry.EmptyFrom version := by
  rw [Plan.pendingSteps_eq_nil_iff, uncounted, ← settledAt_zero_iff]
  constructor
  · intro idle
    have kept : (Plan.walk version 0 registry.descriptors).2 = 0 := by
      rcases Plan.count_of_idle idle with kept | none
      · exact kept
      · exact none
    exact Plan.idle_iff_settled.mp ⟨idle, kept⟩
  · intro settled
    exact (Plan.idle_iff_settled.mpr settled).1

end Registry

/-! ## The first migration -/

structure Storage.Installed (storage : Storage σ α) (record : VersionRecord) (state final : σ) :
    Prop where
  recorded : storage.recordObject final = some (storage.encode record.toJson)
  lowered : storage.objects final bucket updatingKey = some (storage.encode (.bool false))
  elsewhere : ∀ other key, other ≠ bucket ∨ (key ≠ recordKey ∧ key ≠ updatingKey) →
    storage.objects final other key = storage.objects state other key

namespace Migrator

abbrev firstRecord (migrator : Migrator) (version : Version) : VersionRecord :=
  .fresh version migrator.edition migrator.newInstanceId

abbrev firstPlan (migrator : Migrator) (version : Version) : Plan :=
  .make migrator.registry version (migrator.firstRecord version) version

abbrev founded (migrator : Migrator) (storage : Storage (Buckets α) α) (version : Version)
    (state : Buckets α) : Buckets α :=
  state.write bucket recordKey (storage.encode (migrator.firstRecord version).toJson)

variable {storage : Storage (Buckets α) α} {capacity : Json.Capacity} {migrator : Migrator}
  {target : String} {version : Version} {state final : Buckets α}

theorem record_founded (faithful : storage.Faithful capacity) :
    storage.record (migrator.founded storage version state) =
      .ok (migrator.firstRecord version) := by
  apply Storage.record_of_encoded
  rw [Storage.recordObject, faithful.shown]
  exact Buckets.read_write_same _ _ _ _

/-- Where there is neither a record nor a schema number, a migration runs the registry from
the first record. -/
theorem run_of_unrecorded (faithful : storage.Faithful capacity)
    (valid : Version.read target = .ok version)
    (unrecorded : state.read bucket recordKey = none)
    (unnumbered : state.read bucket Legacy.versionKey = none)
    {outcome : Except MigrationError Report}
    (ran : (migrator.registry.run target).run storage.backend
      (migrator.founded storage version state) = (outcome, final)) :
    (migrator.run target).run storage.backend state =
      (outcome.map (⟨.freshInstall, ·⟩), final) := by
  rw [← faithful.shown] at unrecorded unnumbered
  have had := faithful.bootstrap_of_fresh migrator version
    (Storage.entry_of_absent VersionRecord.ofJson unrecorded)
    (Storage.entry_of_absent Json.decodeInt64 unnumbered)
  exact (runs_of_bootstrap valid ⟨had, rfl⟩ ⟨ran, rfl⟩).run_eq

theorem installed_of_emptyFrom (faithful : storage.Faithful capacity)
    (valid : Version.read target = .ok version) (empty : migrator.registry.EmptyFrom version) :
    ∃ final, (migrator.registry.run target).run storage.backend
        (migrator.founded storage version state) =
          (.ok ⟨version.text, version, 0, []⟩, final) ∧
      storage.Installed (migrator.firstRecord version) state final := by
  have settled : migrator.registry.SettledAt version (migrator.firstRecord version).replayCount :=
    Registry.settledAt_zero_iff.mpr empty
  have steady := Registry.steady_of_settled rfl settled
  rcases Registry.executes_of_settled faithful.servesBookkeeping rfl settled
      (record_founded faithful) valid with ⟨none, final, executes⟩
  have ran := executes.run
  have counted : (migrator.firstPlan version).replayCount = 0 := steady.counted
  rw [none, counted] at ran
  refine ⟨final, ran, ?_⟩
  have left := executes.objects
  rw [steady.stamp, Registry.ready_eq faithful, faithful.shown] at left
  refine ⟨?_, ?_, ?_⟩
  · rw [Storage.recordObject, faithful.shown, left, Objects.set_of_ne _ _ (.inr (by decide)),
      Objects.set_same]
  · rw [faithful.shown, left, Objects.set_same]
  · intro other key elsewhere
    rw [faithful.shown, left, Objects.set_of_ne _ _ (elsewhere.imp_right And.right),
      Objects.set_of_ne _ _ (elsewhere.imp_right And.left),
      Registry.read_begun_of_ne storage _ (elsewhere.imp_right And.right),
      Buckets.read_write_of_ne _ _ (elsewhere.imp_right And.left)]

inductive Installs (storage : Storage (Buckets α) α) (migrator : Migrator) (target : String)
    (version : Version) (state : Buckets α) : Prop
  | idle {final : Buckets α} (empty : migrator.registry.EmptyFrom version)
      (ran : (migrator.run target).run storage.backend state =
        (.ok ⟨.freshInstall, ⟨version.text, version, 0, []⟩⟩, final))
      (installed : storage.Installed (migrator.firstRecord version) state final)
  | executed {made : List (Exchange (Buckets α))} {reached final : Buckets α}
      (nonempty : ¬ migrator.registry.EmptyFrom version)
      (due : (migrator.firstPlan version).pendingSteps ≠ [])
      (executes : Registry.Executes storage migrator.registry target
        (migrator.founded storage version state) (migrator.firstRecord version)
        (migrator.firstPlan version) made reached final)
      (ran : (migrator.run target).run storage.backend state =
        (.ok ⟨.freshInstall, ⟨version.text, version, (migrator.firstPlan version).replayCount,
          (migrator.firstPlan version).pendingSteps⟩⟩, final))
  | brokeOff {failing : Step} {cause : StepError} {made : List (Exchange (Buckets α))}
      {final : Buckets α} (nonempty : ¬ migrator.registry.EmptyFrom version)
      (breaksOff : Registry.BreaksOff storage migrator.registry target
        (migrator.founded storage version state) (migrator.firstPlan version) failing cause made
        final)
      (ran : (migrator.run target).run storage.backend state =
        (.error (.stepFailed failing.name cause), final))

/-- The first migration of a store runs nothing where there are no steps for its target or
above, and otherwise it carries out the plan for them. -/
theorem installs (faithful : storage.Faithful capacity) (valid : Version.read target = .ok version)
    (unrecorded : state.read bucket recordKey = none)
    (unnumbered : state.read bucket Legacy.versionKey = none) :
    Installs storage migrator target version state := by
  by_cases empty : migrator.registry.EmptyFrom version
  · rcases installed_of_emptyFrom faithful valid empty with ⟨final, ran, installed⟩
    exact .idle empty (run_of_unrecorded faithful valid unrecorded unnumbered ran) installed
  · have readable : storage.record (migrator.founded storage version state) =
        .ok (migrator.firstRecord version) := record_founded faithful
    have through : Registry.GoesThrough storage migrator.registry target
        (migrator.founded storage version state) :=
      Registry.goesThrough_of_serves faithful.servesBookkeeping readable
    rcases Registry.executes_or_breaksOff through valid readable (Version.read_text version) with
      ⟨made, reached, final, executes⟩ | ⟨failing, cause, made, final, breaksOff⟩
    · have uncounted : (migrator.firstRecord version).replayCount = 0 := rfl
      have due := mt (Registry.pendingSteps_eq_nil_iff_emptyFrom uncounted version).mp empty
      exact .executed empty due executes
        (run_of_unrecorded faithful valid unrecorded unnumbered executes.run)
    · exact .brokeOff empty breaksOff
        (run_of_unrecorded faithful valid unrecorded unnumbered breaksOff.run)

/-- An empty store and a target above every step. -/
theorem installs_aboveSteps :
    let migrator : Migrator :=
      ⟨.inert [(.release 2 0 0, ["add_role"]), (.release 2 2 0, [])], ⟨1⟩,
        "01J0000000000000000000000A"⟩
    Memory.storage.Faithful .unlimited ∧ Version.read "2.1.0" = .ok (.release 2 1 0) ∧
      Buckets.read (Buckets.empty : Buckets Json) bucket recordKey = none ∧
      Buckets.read (Buckets.empty : Buckets Json) bucket Legacy.versionKey = none ∧
      ∃ final, (migrator.run "2.1.0").run Memory.backend Buckets.empty =
          (.ok ⟨.freshInstall, ⟨"2.1.0", .release 2 1 0, 0, []⟩⟩, final) ∧
        Memory.storage.Installed (migrator.firstRecord (.release 2 1 0)) Buckets.empty final := by
  intro migrator
  have valid : Version.read "2.1.0" = .ok (.release 2 1 0) := rfl
  have empty : migrator.registry.EmptyFrom (.release 2 1 0) := by decide
  refine ⟨Memory.faithful, valid, rfl, rfl, ?_⟩
  have ended : Installs Memory.storage migrator "2.1.0" (.release 2 1 0) Buckets.empty :=
    installs Memory.faithful valid rfl rfl
  cases ended with
  | idle _ ran installed => exact ⟨_, ran, installed⟩
  | executed nonempty => exact absurd empty nonempty
  | brokeOff nonempty => exact absurd empty nonempty

/-- A target with a step of its own: it is run on the empty store, and its number is stamped. -/
theorem executed_atTarget :
    let migrator : Migrator :=
      ⟨.inert [(.release 2 0 0, ["add_role"])], ⟨1⟩, "01J0000000000000000000000A"⟩
    ∃ final, (migrator.run "2.0.0").run Memory.backend Buckets.empty =
        (.ok ⟨.freshInstall, ⟨"2.0.0", .release 2 0 0, 1, ["add_role"]⟩⟩, final) ∧
      Memory.storage.record final = .ok ⟨"2.0.0", 1, ⟨1⟩, "01J0000000000000000000000A"⟩ := by
  intro migrator
  have valid : Version.read "2.0.0" = .ok (.release 2 0 0) := rfl
  have succeeds : migrator.registry.Succeeds Memory.backend := Registry.succeeds_inert _ _
  have founded : Memory.storage.record
      (migrator.founded Memory.storage (.release 2 0 0) Buckets.empty) =
        .ok (migrator.firstRecord (.release 2 0 0)) := record_founded Memory.faithful
  rcases Registry.executes_of_succeeds Memory.servesBookkeeping succeeds valid founded
      (Version.read_text _) with
    ⟨made, reached, final, executes⟩
  have stamped : Registry.stamp (migrator.firstRecord (.release 2 0 0))
      (migrator.firstPlan (.release 2 0 0)) =
        ⟨"2.0.0", 1, ⟨1⟩, "01J0000000000000000000000A"⟩ := by decide
  have readable := executes.record
  rw [stamped] at readable
  exact ⟨final, run_of_unrecorded Memory.faithful valid rfl rfl executes.run, readable⟩

end Migrator

end StoreMigration
