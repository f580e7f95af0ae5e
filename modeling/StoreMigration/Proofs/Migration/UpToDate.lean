import StoreMigration.Proofs.Migration.Decisions

/-! Plans that call a store up to date. Such a plan skips every descriptor and keeps the
record, so a run of it executes nothing and leaves the record as it is. The converse fails for
one kind of registry only: a descriptor without steps above the stored version is an upgrade
that runs nothing (`Registry.isUpToDate_iff_idle`). -/

namespace StoreMigration

namespace Plan

variable {stored : Version} {applied : UInt32} {descriptors : List Descriptor}

theorem skips_all_iff :
    (∀ planned ∈ List.zipWith plannedDescriptor descriptors (walk stored applied descriptors).1,
        planned.action = .skip) ↔
      due stored applied descriptors = [] ∧
        ∀ descriptor ∈ descriptors, ¬ stored < descriptor.version := by
  induction descriptors generalizing applied with
  | nil => simp [walk, due, selectSteps]
  | cons descriptor rest induction =>
      simp only [walk, List.zipWith_cons_cons, List.forall_mem_cons, due_cons,
        List.append_eq_nil_iff, induction, plannedDescriptor]
      cases decision : descriptor.decide stored applied with
      | upgrade => simp [Descriptor.decide_eq_upgrade_iff.mp decision]
      | replay =>
          have missing := (Descriptor.decide_eq_replay_iff.mp decision).2
          simp [Descriptor.steps_ne_nil_of_lt missing]
      | skip =>
          have notBelow := (Descriptor.decide_eq_skip_iff.mp decision).1
          simp [notBelow]

theorem isUpToDate_make_iff {registry : Registry} {record : VersionRecord} {target : Version} :
    (make registry stored record target).isUpToDate = true ↔
      (record.schemaVersion = target.text ∧
        record.replayCount = (make registry stored record target).replayCount) ∧
      (make registry stored record target).pendingSteps = [] ∧
        ∀ descriptor ∈ registry.descriptors, ¬ stored < descriptor.version := by
  rw [pendingSteps_eq_nil_iff, ← skips_all_iff]
  simp only [isUpToDate, Bool.and_eq_true, decide_eq_true_eq, List.all_eq_true]
  rfl

end Plan

namespace Registry

open Bookkeeping

variable {storage : Storage σ α} {registry : Registry} {target : String} {state : σ}
  {version stored : Version} {record : VersionRecord}

theorem stamp_eq_self_iff {plan : Plan} :
    stamp record plan = record ↔
      record.schemaVersion = plan.toVersion.text ∧ record.replayCount = plan.replayCount := by
  constructor
  · intro same
    rw [← same]
    exact ⟨rfl, rfl⟩
  · rintro ⟨named, counted⟩
    simp only [stamp, ← named, ← counted]

/-- A plan calls the store up to date exactly where a run executes nothing and leaves the
record as it is, and no descriptor is above the stored version. -/
theorem isUpToDate_iff_idle (serves : storage.ServesBookkeeping)
    (succeeds : registry.Succeeds storage.backend) (valid : Version.read target = .ok version)
    (readable : storage.record state = .ok record) (parsed : record.parsedVersion = .ok stored) :
    ∃ plan report final, Plan.ofRecord registry record version = .ok plan ∧
      (registry.run target).run storage.backend state = (.ok report, final) ∧
      (plan.isUpToDate = true ↔
        (report.executedSteps = [] ∧ storage.record final = .ok record) ∧
          ∀ descriptor ∈ registry.descriptors, ¬ stored < descriptor.version) := by
  obtain ⟨made, reached, final, executes⟩ :=
    executes_of_succeeds serves succeeds valid readable parsed
  refine ⟨_, _, final, Plan.ofRecord_of_parsed registry version parsed, executes.run, ?_⟩
  rw [executes.record, Except.ok.injEq, stamp_eq_self_iff, Plan.isUpToDate_make_iff]
  constructor
  · rintro ⟨kept, idle, noneAbove⟩
    exact ⟨⟨idle, kept⟩, noneAbove⟩
  · rintro ⟨⟨idle, kept⟩, noneAbove⟩
    exact ⟨kept, idle, noneAbove⟩

/-- A store that has run all the steps at its version. -/
theorem isUpToDate_iff_idle_settled :
    let registry := inert [(.release 1 0 0, ["add_role"]), (.release 2 0 0, ["add_tags"])]
    let record : VersionRecord := ⟨"2.0.0", 1, ⟨1⟩, "01J0000000000000000000000A"⟩
    Memory.storage.ServesBookkeeping ∧ registry.Succeeds Memory.backend ∧
      Version.read "2.0.0" = .ok (.release 2 0 0) ∧
      Memory.storage.record (Memory.versioned record) = .ok record ∧
      record.parsedVersion = .ok (.release 2 0 0) ∧
      ∃ plan report final, Plan.ofRecord registry record (.release 2 0 0) = .ok plan ∧
        (registry.run "2.0.0").run Memory.backend (Memory.versioned record) = (.ok report, final) ∧
        plan.isUpToDate = true ∧ report.executedSteps = [] ∧
        Memory.storage.record final = .ok record := by
  intro registry record
  have succeeds : registry.Succeeds Memory.backend := succeeds_inert _ _
  have valid : Version.read "2.0.0" = .ok (.release 2 0 0) := rfl
  have readable := Memory.record_versioned record
  have parsed : record.parsedVersion = .ok (.release 2 0 0) := valid
  obtain ⟨plan, report, final, planned, ran, upToDate⟩ :=
    isUpToDate_iff_idle Memory.servesBookkeeping succeeds valid readable parsed
  obtain rfl := Plan.eq_make_of_ofRecord parsed planned
  have holds : (Plan.make registry (.release 2 0 0) record (.release 2 0 0)).isUpToDate = true := by
    decide
  have idle := (upToDate.mp holds).1
  exact ⟨Memory.servesBookkeeping, succeeds, valid, readable, parsed, _, report, final, planned, ran,
    holds, idle.1, idle.2⟩

/-- With a descriptor above the stored version that has no steps, a run executes nothing and
leaves the record as it is, and yet the plan does not call the store up to date. -/
theorem idle_not_upToDate :
    let registry := inert [(.release 2 0 0, [])]
    let record : VersionRecord := ⟨"1.0.0", 0, ⟨1⟩, "01J0000000000000000000000A"⟩
    registry.Succeeds Memory.backend ∧ registry.Spares bucket ∧
      Memory.storage.record (Memory.versioned record) = .ok record ∧
      ∃ plan report final, Plan.ofRecord registry record (.release 1 0 0) = .ok plan ∧
        (registry.run "1.0.0").run Memory.backend (Memory.versioned record) = (.ok report, final) ∧
        report.executedSteps = [] ∧ Memory.storage.record final = .ok record ∧
        plan.isUpToDate = false := by
  intro registry record
  have succeeds : registry.Succeeds Memory.backend := succeeds_inert _ _
  have valid : Version.read "1.0.0" = .ok (.release 1 0 0) := rfl
  have readable := Memory.record_versioned record
  have parsed : record.parsedVersion = .ok (.release 1 0 0) := valid
  obtain ⟨made, reached, final, executes⟩ :=
    executes_of_succeeds Memory.servesBookkeeping succeeds valid readable parsed
  have stamped :
      stamp record (Plan.make registry (.release 1 0 0) record (.release 1 0 0)) = record := by
    decide
  exact ⟨succeeds, spares_inert _ _, readable, _, _, final,
    Plan.ofRecord_of_parsed registry (.release 1 0 0) parsed, executes.run, by decide,
    executes.record.trans (congrArg Except.ok stamped), by decide⟩

end Registry

end StoreMigration
