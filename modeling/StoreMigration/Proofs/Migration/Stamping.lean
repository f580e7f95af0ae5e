import StoreMigration.Proofs.Migration.Rerun

/-! What a run writes at its end. The record that it stamps is the one that it found before
its first step, so what steps wrote to the record is undone, the edition and the identity
with it; every other object stays as the last step left it. -/

namespace StoreMigration.Registry

open Bookkeeping

variable {storage : Storage σ α} {registry : Registry} {target : String} {state : σ}
  {version stored : Version} {record : VersionRecord}

theorem stamp_eq_stamp_iff {left : VersionRecord} {plan : Plan} :
    stamp record plan = stamp left plan ↔
      left.edition = record.edition ∧ left.instanceId = record.instanceId := by
  constructor
  · intro same
    exact ⟨(congrArg VersionRecord.edition same).symm, (congrArg VersionRecord.instanceId same).symm⟩
  · rintro ⟨edition, instanceId⟩
    simp only [stamp, edition, instanceId]

/-- The record after a run is the one that its steps left, stamped, exactly where they left
the edition and the identity as they were. -/
theorem Executes.keeps_left_iff {plan : Plan} {made : List (Exchange σ)} {reached final : σ}
    (executes : Executes storage registry target state record plan made reached final)
    (left : VersionRecord) :
    storage.record final = .ok (stamp left plan) ↔
      left.edition = record.edition ∧ left.instanceId = record.instanceId := by
  rw [executes.record, Except.ok.injEq]
  exact stamp_eq_stamp_iff

/-- A run that succeeds leaves the objects that its last step left, but for the flag and the
record: that is the one from before the first step, stamped. A run whose steps never fail
succeeds. -/
theorem stamps_found (valid : Version.read target = .ok version)
    (readable : storage.record state = .ok record) (parsed : record.parsedVersion = .ok stored) :
    (∀ report final, (registry.run target).run storage.backend state = (.ok report, final) →
      ∃ made reached,
        Executes storage registry target state record (Plan.make registry stored record version)
          made reached final ∧
        ∀ left, storage.record reached = .ok left →
          (storage.record final = .ok (stamp left (Plan.make registry stored record version)) ↔
            left.edition = record.edition ∧ left.instanceId = record.instanceId)) ∧
    (storage.ServesBookkeeping → registry.Succeeds storage.backend →
      ∃ report final, (registry.run target).run storage.backend state = (.ok report, final)) := by
  constructor
  · intro report final ran
    rcases executes_of_ok ran with
      ⟨otherVersion, otherStored, otherRecord, made, reached, sameVersion, sameRecord, sameStored,
        executes⟩
    cases valid.symm.trans sameVersion
    cases readable.symm.trans sameRecord
    cases parsed.symm.trans sameStored
    exact ⟨made, reached, executes, fun left _ => executes.keeps_left_iff left⟩
  · intro serves succeeds
    rcases executes_of_succeeds serves succeeds valid readable parsed with ⟨_, _, final, executes⟩
    exact ⟨_, final, executes.run⟩

/-! ## A step that writes the record -/

def rewriting (record : VersionRecord) : Registry :=
  ⟨[⟨.release 2 0 0, [.ofStore "assign_identity" (Action.update bucket recordKey record.toJson)]⟩]⟩

theorem succeeds_rewriting (record : VersionRecord) :
    (rewriting record).Succeeds Memory.backend := by
  intro descriptor inRegistry step inSteps state
  cases List.mem_singleton.mp inRegistry
  cases List.mem_singleton.mp inSteps
  rfl

/-- The step that rewrites the record ran, and yet the run succeeds. -/
theorem stamps_found_rewriting :
    let record : VersionRecord := ⟨"1.0.0", 0, ⟨1⟩, "abc"⟩
    let registry := rewriting ⟨"1.0.0", 0, ⟨1⟩, "xyz"⟩
    let state := Memory.versioned record
    let plan := Plan.make registry (.release 1 0 0) record (.release 2 0 0)
    Version.read "2.0.0" = .ok (.release 2 0 0) ∧ Memory.storage.record state = .ok record ∧
      record.parsedVersion = .ok (.release 1 0 0) ∧ Memory.storage.ServesBookkeeping ∧
      registry.Succeeds Memory.backend ∧
      ∃ report made reached final,
        (registry.run "2.0.0").run Memory.backend state = (.ok report, final) ∧
        Executes Memory.storage registry "2.0.0" state record plan made reached final := by
  intro record registry state plan
  have valid : Version.read "2.0.0" = .ok (.release 2 0 0) := rfl
  have parsed : Version.read "1.0.0" = .ok (.release 1 0 0) := rfl
  have readable := Memory.record_versioned record
  have succeeds : registry.Succeeds Memory.backend := succeeds_rewriting _
  rcases stamps_found valid readable parsed with ⟨stamps, succeeded⟩
  rcases succeeded Memory.servesBookkeeping succeeds with ⟨report, final, ran⟩
  rcases stamps report final ran with ⟨made, reached, executes, _⟩
  exact ⟨valid, readable, parsed, Memory.servesBookkeeping, succeeds, report, made, reached, final,
    ran, executes⟩

/-- The identity that the step wrote is gone after the run. -/
theorem undoes_rewriting :
    let record : VersionRecord := ⟨"1.0.0", 0, ⟨1⟩, "abc"⟩
    let rewritten : VersionRecord := ⟨"1.0.0", 0, ⟨1⟩, "xyz"⟩
    let registry := rewriting rewritten
    let state := Memory.versioned record
    let plan := Plan.make registry (.release 1 0 0) record (.release 2 0 0)
    registry.Succeeds Memory.backend ∧ Version.read "2.0.0" = .ok (.release 2 0 0) ∧
      Memory.storage.record state = .ok record ∧ record.parsedVersion = .ok (.release 1 0 0) ∧
      ∃ report made reached final,
        (registry.run "2.0.0").run Memory.backend state = (.ok report, final) ∧
        Completes Memory.backend (registry.unskipped plan) (ready Memory.backend state) made
          reached ∧
        Memory.storage.record reached = .ok rewritten ∧
        Memory.storage.record final = .ok ⟨"2.0.0", 0, ⟨1⟩, "abc"⟩ := by
  intro record rewritten registry state plan
  have valid : Version.read "2.0.0" = .ok (.release 2 0 0) := rfl
  have parsed : Version.read "1.0.0" = .ok (.release 1 0 0) := rfl
  have readable := Memory.record_versioned record
  have succeeds : registry.Succeeds Memory.backend := succeeds_rewriting _
  rcases executes_of_succeeds Memory.servesBookkeeping succeeds valid readable parsed with
    ⟨made, reached, final, executes⟩
  have stamped : stamp record plan = ⟨"2.0.0", 0, ⟨1⟩, "abc"⟩ := by decide
  refine ⟨succeeds, valid, readable, parsed, _, made, reached, final, executes.run,
    executes.completes, ?_, executes.record.trans (congrArg Except.ok stamped)⟩
  cases executes.completes with
  | cons first others =>
      cases others
      have request : (Action.request (recordRequest rewritten)).Runs Memory.backend
          (ready Memory.backend state) _ _ _ := .request _ _
      have wrote := request.withError StepError.store
      rcases first.unique wrote with ⟨_, _, rfl⟩
      exact Storage.record_of_encoded (Storage.recordObject_written rfl)

end StoreMigration.Registry
