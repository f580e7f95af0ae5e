import StoreMigration.Proofs.Migration.Execution
import StoreMigration.Proofs.Version.RoundTrip

/-! Running a registry twice for the same target. The second run starts from the version
and the count that the first one stamped, and it is without effect exactly when every
descriptor is settled there. A run that upgrades across the descriptor of its target
stamps a count of none, so its rerun replays that descriptor. -/

namespace StoreMigration

/-- At this version and count the descriptor has nothing left to do. -/
def Descriptor.SettledAt (descriptor : Descriptor) (version : Version) (count : UInt32) : Prop :=
  (version < descriptor.version → descriptor.steps = [] ∧ count = 0) ∧
    (version = descriptor.version → descriptor.stepCount ≤ count)

def Registry.SettledAt (registry : Registry) (version : Version) (count : UInt32) : Prop :=
  ∀ descriptor ∈ registry.descriptors, descriptor.SettledAt version count

instance (descriptor : Descriptor) (version : Version) (count : UInt32) :
    Decidable (descriptor.SettledAt version count) :=
  inferInstanceAs (Decidable ((version < descriptor.version → descriptor.steps = [] ∧ count = 0) ∧
    (version = descriptor.version → descriptor.stepCount ≤ count)))

instance (registry : Registry) (version : Version) (count : UInt32) :
    Decidable (registry.SettledAt version count) :=
  inferInstanceAs (Decidable (∀ descriptor ∈ registry.descriptors,
    descriptor.SettledAt version count))

namespace Plan

variable {version : Version} {count : UInt32} {descriptors : List Descriptor}

theorem count_of_idle (idle : due version count descriptors = []) :
    (walk version count descriptors).2 = count ∨ (walk version count descriptors).2 = 0 := by
  induction descriptors generalizing count with
  | nil => exact .inl rfl
  | cons descriptor rest induction =>
      rw [due_cons] at idle
      have parts := List.append_eq_nil_iff.mp idle
      rw [count_cons]
      cases decision : descriptor.decide version count with
      | upgrade =>
          rw [decision] at parts
          rcases induction parts.2 with none | none
          · exact .inr none
          · exact .inr none
      | replay =>
          have missing := (Descriptor.of_decide_replay decision).2
          rw [decision] at parts
          exact absurd parts.1 (Descriptor.steps_ne_nil_of_lt missing)
      | skip =>
          rw [decision] at parts
          exact induction parts.2

/-- Nothing runs and the count is kept exactly where every descriptor is settled. -/
theorem idle_iff_settled :
    (due version count descriptors = [] ∧ (walk version count descriptors).2 = count) ↔
      ∀ descriptor ∈ descriptors, descriptor.SettledAt version count := by
  induction descriptors generalizing count with
  | nil => simp [due, selectSteps, walk]
  | cons descriptor rest induction =>
      rw [due_cons, count_cons, List.append_eq_nil_iff, List.forall_mem_cons]
      -- The count is carried along: reset above the version, replayed from at the version, and
      -- kept by every other descriptor.
      by_cases below : version < descriptor.version
      · rw [Descriptor.decide_of_below below]
        have different : version ≠ descriptor.version := by
          intro same
          rw [same] at below
          exact Version.lt_irrefl _ below
        constructor
        · rintro ⟨⟨none, idle⟩, kept⟩
          -- Nothing that runs no steps raises a count that was reset, so it was zero all along.
          have zero : count = 0 := by
            rcases count_of_idle idle with reset | reset
            · exact kept.symm.trans reset
            · exact kept.symm.trans reset
          refine ⟨⟨fun _ => ⟨none, zero⟩, fun same => absurd same different⟩, ?_⟩
          subst zero
          exact induction.mp ⟨idle, kept⟩
        · rintro ⟨settled, others⟩
          rcases settled.1 below with ⟨none, rfl⟩
          rcases induction.mpr others with ⟨idle, kept⟩
          exact ⟨⟨none, idle⟩, kept⟩
      · by_cases missing : version = descriptor.version ∧ count < descriptor.stepCount
        · rw [Descriptor.decide_of_missing missing.1 missing.2]
          constructor
          · rintro ⟨⟨none, _⟩, _⟩
            exact absurd none (Descriptor.steps_ne_nil_of_lt missing.2)
          · rintro ⟨settled, _⟩
            exact absurd missing.2 (UInt32.not_lt.mpr (settled.2 missing.1))
        · have done : version = descriptor.version → descriptor.stepCount ≤ count := fun same =>
            UInt32.not_lt.mp fun less => missing ⟨same, less⟩
          rw [Descriptor.decide_of_done below done]
          constructor
          · rintro ⟨⟨_, idle⟩, kept⟩
            exact ⟨⟨fun above => absurd above below, done⟩, induction.mp ⟨idle, kept⟩⟩
          · rintro ⟨_, others⟩
            rcases induction.mpr others with ⟨idle, kept⟩
            exact ⟨⟨rfl, idle⟩, kept⟩

end Plan

namespace Registry

open Bookkeeping

variable {storage : Storage σ α} {registry : Registry} {target : String} {state : σ}

def Succeeds (registry : Registry) (backend : Backend σ) : Prop :=
  ∀ descriptor ∈ registry.descriptors, ∀ step ∈ descriptor.steps, ∀ state,
    (step.body.run backend state).1 = .ok ()

def inert (releases : List (Version × List String)) : Registry :=
  ⟨releases.map fun release => ⟨release.1, release.2.map fun name => ⟨name, pure ()⟩⟩⟩

theorem body_of_inert {releases : List (Version × List String)} {descriptor : Descriptor}
    {step : Step} (inRegistry : descriptor ∈ (inert releases).descriptors)
    (inSteps : step ∈ descriptor.steps) : step.body = pure () := by
  rcases List.mem_map.mp inRegistry with ⟨release, _, rfl⟩
  rcases List.mem_map.mp inSteps with ⟨name, _, rfl⟩
  rfl

theorem succeeds_inert (releases : List (Version × List String)) (backend : Backend σ) :
    (inert releases).Succeeds backend := by
  intro descriptor inRegistry step inSteps state
  rw [body_of_inert inRegistry inSteps]
  rfl

theorem spares_inert (releases : List (Version × List String)) (bucket : String) :
    (inert releases).Spares bucket := by
  intro descriptor inRegistry step inSteps
  rw [body_of_inert inRegistry inSteps]
  exact Action.keepsTo_pure ()

theorem not_stops_of_succeeds {backend : Backend σ} (succeeds : registry.Succeeds backend)
    {plan : Plan} {failing : Step} {cause : StepError} {history : List (Exchange σ)} {final : σ} :
    ¬ Stops backend (registry.unskipped plan) state failing cause history final := by
  rintro ⟨before, rest, middle, made, own, split, _, _, failed⟩
  have member : failing ∈ registry.pending plan := by
    rw [pending_eq_unskipped, split]
    exact List.mem_append_right before List.mem_cons_self
  rcases mem_selectSteps member with ⟨descriptor, inRegistry, inSteps⟩
  have succeeded := succeeds descriptor inRegistry failing inSteps middle
  rw [failed.run_eq] at succeeded
  cases succeeded

theorem executes_of_succeeds (serves : storage.ServesBookkeeping)
    (succeeds : registry.Succeeds storage.backend) {version stored : Version}
    {record : VersionRecord} (valid : Version.read target = .ok version)
    (readable : storage.record state = .ok record) (parsed : record.parsedVersion = .ok stored) :
    ∃ made reached final, Executes storage registry target state record
      (Plan.make registry stored record version) made reached final := by
  have through : GoesThrough storage registry target state := goesThrough_of_serves serves readable
  rcases executes_or_breaksOff through valid readable parsed with executes | breaksOff
  · exact executes
  · rcases breaksOff with ⟨failing, cause, made, final, breaksOff⟩
    exact absurd breaksOff.stops (not_stops_of_succeeds succeeds)

theorem parsedVersion_stamp (registry : Registry) (stored : Version) (record : VersionRecord)
    (version : Version) :
    (stamp record (Plan.make registry stored record version)).parsedVersion = .ok version :=
  Version.read_text version

theorem stamp_stamp_eq_iff {record : VersionRecord} {plan next : Plan}
    (same : next.toVersion = plan.toVersion) :
    stamp (stamp record plan) next = stamp record plan ↔ next.replayCount = plan.replayCount := by
  constructor
  · intro equal
    exact congrArg VersionRecord.replayCount equal
  · intro equal
    simp only [stamp, same, equal]

/-- A second run is without effect exactly where the first one left everything settled. -/
theorem rerun_idle_iff (serves : storage.ServesBookkeeping)
    (succeeds : registry.Succeeds storage.backend) {version stored : Version}
    {record : VersionRecord} (valid : Version.read target = .ok version)
    (readable : storage.record state = .ok record) (parsed : record.parsedVersion = .ok stored) :
    ∃ first after again final,
      (registry.run target).run storage.backend state = (.ok first, after) ∧
      (registry.run target).run storage.backend after = (.ok again, final) ∧
      ((again.executedSteps = [] ∧ storage.recordObject final = storage.recordObject after) ↔
        registry.SettledAt version (Plan.make registry stored record version).replayCount) := by
  rcases executes_of_succeeds serves succeeds valid readable parsed with
    ⟨_, _, after, first⟩
  rcases executes_of_succeeds serves succeeds valid first.record
      (parsedVersion_stamp registry stored record version) with ⟨_, _, final, second⟩
  refine ⟨_, after, _, final, first.run, second.run, ?_⟩
  have sameVersion : (Plan.make registry version
        (stamp record (Plan.make registry stored record version)) version).toVersion =
      (Plan.make registry stored record version).toVersion := rfl
  rw [Storage.recordObject_eq_iff second.recordObject first.recordObject,
    stamp_stamp_eq_iff sameVersion, Plan.pendingSteps_eq_nil_iff]
  exact Plan.idle_iff_settled

/-- A target above every descriptor. -/
theorem rerun_idle_above_descriptors :
    let registry := inert [(.release 2 0 0, ["add_role"])]
    let record : VersionRecord := ⟨"1.0.0", 0, ⟨1⟩, "01J0000000000000000000000A"⟩
    Memory.storage.ServesBookkeeping ∧ registry.Succeeds Memory.backend ∧
      Version.read "2.1.0" = .ok (.release 2 1 0) ∧
      Memory.storage.record (Memory.versioned record) = .ok record ∧
      record.parsedVersion = .ok (.release 1 0 0) ∧
      ∃ first after again final,
        (registry.run "2.1.0").run Memory.backend (Memory.versioned record) = (.ok first, after) ∧
        (registry.run "2.1.0").run Memory.backend after = (.ok again, final) ∧
        again.executedSteps = [] ∧
          Memory.storage.recordObject final = Memory.storage.recordObject after := by
  intro registry record
  have succeeds : registry.Succeeds Memory.backend := succeeds_inert _ _
  have valid : Version.read "2.1.0" = .ok (.release 2 1 0) := rfl
  have parsed : Version.read "1.0.0" = .ok (.release 1 0 0) := rfl
  have readable := Memory.record_versioned record
  rcases rerun_idle_iff Memory.servesBookkeeping succeeds valid readable parsed with
    ⟨first, after, again, final, ran, reran, idle⟩
  have settled : registry.SettledAt (.release 2 1 0)
      (Plan.make registry (.release 1 0 0) record (.release 2 1 0)).replayCount := by decide
  rcases idle.mpr settled with ⟨none, kept⟩
  exact ⟨Memory.servesBookkeeping, succeeds, valid, readable, parsed, first, after, again, final,
    ran, reran, none, kept⟩

/-- A target that is the version of a descriptor: all its steps run a second time, and the
count changes. -/
theorem rerun_replays_target :
    let registry := inert [(.release 2 0 0, ["add_role"])]
    let record : VersionRecord := ⟨"1.0.0", 0, ⟨1⟩, "01J0000000000000000000000A"⟩
    registry.Succeeds Memory.backend ∧ registry.Spares bucket ∧
      Memory.storage.record (Memory.versioned record) = .ok record ∧
      ∃ first after again final,
        (registry.run "2.0.0").run Memory.backend (Memory.versioned record) = (.ok first, after) ∧
        (registry.run "2.0.0").run Memory.backend after = (.ok again, final) ∧
        first.executedSteps = ["add_role"] ∧ again.executedSteps = ["add_role"] ∧
        Memory.storage.recordObject final ≠ Memory.storage.recordObject after := by
  intro registry record
  have succeeds : registry.Succeeds Memory.backend := succeeds_inert _ _
  have valid : Version.read "2.0.0" = .ok (.release 2 0 0) := rfl
  have parsed : Version.read "1.0.0" = .ok (.release 1 0 0) := rfl
  have readable := Memory.record_versioned record
  rcases executes_of_succeeds Memory.servesBookkeeping succeeds valid readable parsed with
    ⟨_, _, after, first⟩
  rcases executes_of_succeeds Memory.servesBookkeeping succeeds valid first.record
      (parsedVersion_stamp registry (.release 1 0 0) record (.release 2 0 0)) with
    ⟨_, _, final, second⟩
  refine ⟨succeeds, spares_inert _ _, readable, _, after, _, final, first.run, second.run,
    by decide, by decide, ?_⟩
  rw [ne_eq, Storage.recordObject_eq_iff second.recordObject first.recordObject]
  intro same
  exact absurd (congrArg VersionRecord.replayCount same) (by decide)

end Registry

end StoreMigration
