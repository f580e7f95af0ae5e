import StoreMigration.Proofs.Migration.Rerun

/-! The floor of a registry. It is a descriptor like any other, so it rejects a store whose
version is below its own, and one at its own version only as long as no step is counted as
applied there. Every other store passes it as if it were not there. -/

namespace StoreMigration.Registry

open Bookkeeping

/-! ## Registries that open with a floor -/

def floored (lowest : Version) (registry : Registry) : Registry :=
  ⟨floor lowest :: registry.descriptors⟩

theorem ofEntries_cons {entry : Entry} {entries : List Entry} {registry : Registry}
    (built : ofEntries (entry :: entries) = .ok registry) :
    ∃ descriptor rest, entry.parse = .ok descriptor ∧ ofEntries entries = .ok rest ∧
      registry = ⟨descriptor :: rest.descriptors⟩ := by
  rw [ofEntries, List.mapM_cons] at built
  cases first : entry.parse with
  | error error =>
      rw [first] at built
      cases built
  | ok descriptor =>
      rw [first] at built
      rw [ofEntries]
      cases others : entries.mapM Entry.parse with
      | error error =>
          rw [others] at built
          cases built
      | ok descriptors =>
          rw [others] at built
          cases built
          exact ⟨descriptor, ⟨descriptors⟩, rfl, rfl, rfl⟩

theorem floored_of_ofEntries {text : String} {entries : List Entry} {registry : Registry}
    (built : ofEntries (.floor text :: entries) = .ok registry) :
    ∃ lowest rest, Version.read text = .ok lowest ∧ ofEntries entries = .ok rest ∧
      registry = rest.floored lowest := by
  rcases ofEntries_cons built with ⟨descriptor, rest, parsed, others, rfl⟩
  rw [Entry.parse] at parsed
  split at parsed
  · next lowest valid =>
      cases parsed
      exact ⟨lowest, rest, valid, others, rfl⟩
  · cases parsed

/-! ## What becomes of the floor -/

/-- The stored version is below the floor, or is the floor's own and no step is counted. -/
def HeldBack (lowest stored : Version) (applied : UInt32) : Prop :=
  stored < lowest ∨ stored = lowest ∧ applied = 0

theorem decide_floor_eq_skip_iff {lowest stored : Version} {applied : UInt32} :
    (floor lowest).decide stored applied = .skip ↔ ¬ HeldBack lowest stored applied := by
  have none_iff : applied < 1 ↔ applied = 0 := by
    rw [UInt32.lt_iff_toNat_lt, ← UInt32.toNat_inj]
    exact Nat.lt_one_iff
  show (if stored < lowest then PlannedAction.upgrade
    else if stored = lowest ∧ applied < 1 then .replay else .skip) = .skip ↔ _
  rw [HeldBack, ← none_iff]
  split
  · next below => exact ⟨nofun, fun passes => absurd (.inl below) passes⟩
  · next notBelow =>
      split
      · next same => exact ⟨nofun, fun passes => absurd (.inr same) passes⟩
      · next differs => exact ⟨fun _ => not_or.mpr ⟨notBelow, differs⟩, fun _ => rfl⟩

variable {storage : Storage σ α} {registry : Registry} {target : String} {state : σ}
  {lowest stored version : Version} {record : VersionRecord}

/-- The step of the floor came first, and the run ended with it: no call was made but those
that raise the flag and fetch the record, and the flag is all that has changed. -/
structure Rejected (storage : Storage σ α) (registry : Registry) (target : String) (state : σ)
    (plan : Plan) (error : MigrationError) (final : σ) : Prop where
  first : ∃ later, registry.unskipped plan = Step.rejectUnsupported :: later
  tooOld : error.isTooOld = true
  failedStep : error.failedStep? = some Step.rejectUnsupportedName
  run : (registry.run target).run storage.backend state = (.error error, final)
  calls : (registry.run target).history storage.backend state = opening storage.backend state
  objects : storage.objects final =
    (storage.objects state).set bucket updatingKey (some (storage.encode (.bool true)))

theorem rejected_of_first (through : GoesThrough storage registry target state)
    (valid : Version.read target = .ok version) (readable : storage.record state = .ok record)
    (parsed : record.parsedVersion = .ok stored) {later : List Step}
    (first : registry.unskipped (Plan.make registry stored record version) =
      Step.rejectUnsupported :: later) :
    ∃ error final, Rejected storage registry target state
      (Plan.make registry stored record version) error final := by
  have fails : ∀ reached : σ, Step.rejectUnsupported.body.Runs storage.backend reached
      (.error (.migration .tooOld)) [] reached := fun reached => .throw _ reached
  rcases executes_or_breaksOff through valid readable parsed with
    ⟨_, _, _, executes⟩ | ⟨failing, cause, made, final, breaksOff⟩
  · have completes := executes.completes
    rw [first] at completes
    cases completes with
    | cons succeeded _ => cases (succeeded.unique (fails _)).1
  · rcases breaksOff.stops with
      ⟨before, more, middle, earlier, own, split, joined, completes, failed⟩
    rw [first] at split
    cases completes with
    | cons succeeded _ =>
        cases split
        cases (succeeded.unique (fails _)).1
    | nil =>
        cases split
        rcases failed.unique (fails _) with ⟨same, rfl, rfl⟩
        cases same
        refine ⟨_, _, ⟨later, first⟩, rfl, rfl, breaksOff.run, ?_, objects_ready through.raised⟩
        rw [breaksOff.calls, joined]
        exact List.append_nil _

theorem rejected_of_heldBack (serves : storage.ServesBookkeeping)
    (valid : Version.read target = .ok version) (readable : storage.record state = .ok record)
    (parsed : record.parsedVersion = .ok stored)
    (heldBack : HeldBack lowest stored record.replayCount) :
    ∃ error final, Rejected storage (registry.floored lowest) target state
      (Plan.make (registry.floored lowest) stored record version) error final := by
  have decided : (floor lowest).decide stored record.replayCount ≠ .skip := fun skipped =>
    decide_floor_eq_skip_iff.mp skipped heldBack
  have first : ∃ later, (registry.floored lowest).unskipped
      (Plan.make (registry.floored lowest) stored record version) =
        Step.rejectUnsupported :: later := by
    rw [← pending_eq_unskipped, Plan.pending_make, floored, Plan.due_cons, if_neg decided]
    exact ⟨_, rfl⟩
  rcases first with ⟨later, first⟩
  exact rejected_of_first (goesThrough_of_serves serves readable) valid readable parsed first

theorem run_of_not_heldBack (serves : storage.ServesBookkeeping)
    (valid : Version.read target = .ok version) (readable : storage.record state = .ok record)
    (parsed : record.parsedVersion = .ok stored)
    (passes : ¬ HeldBack lowest stored record.replayCount) :
    ((registry.floored lowest).run target).run storage.backend state =
      (registry.run target).run storage.backend state := by
  have skipped := decide_floor_eq_skip_iff.mpr passes
  have through : GoesThrough storage (registry.floored lowest) target state :=
    goesThrough_of_serves serves readable
  have throughWithout : GoesThrough storage registry target state :=
    goesThrough_of_serves serves readable
  have begun := begun_of_readable through valid readable parsed
  have begunWithout := begun_of_readable throughWithout valid readable parsed
  have pending : (registry.floored lowest).pending
        (Plan.make (registry.floored lowest) stored record version) =
      registry.pending (Plan.make registry stored record version) :=
    Plan.due_cons_of_skip skipped registry.descriptors
  have stamped : stamp record (Plan.make (registry.floored lowest) stored record version) =
      stamp record (Plan.make registry stored record version) :=
    congrArg (fun count => { record with schemaVersion := version.text, replayCount := count })
      (Plan.count_cons_of_skip skipped registry.descriptors)
  have carried : (registry.floored lowest).carryOut record
        (Plan.make (registry.floored lowest) stored record version) =
      registry.carryOut record (Plan.make registry stored record version) := by
    have count := congrArg VersionRecord.replayCount stamped
    simp only [stamp] at count
    rw [carryOut, carryOut, pending, stamped, count]
    rfl
  rw [run_of_begun begun, run_of_begun begunWithout, carried]

/-- A run of a registry that opens with a floor is rejected by it if it holds the store back,
and else it is the run of the rest of the registry. -/
theorem rejects_or_passes (serves : storage.ServesBookkeeping) {text : String}
    {entries : List Entry} (built : ofEntries (.floor text :: entries) = .ok registry)
    (valid : Version.read target = .ok version) (readable : storage.record state = .ok record)
    (parsed : record.parsedVersion = .ok stored) :
    ∃ lowest rest, Version.read text = .ok lowest ∧ ofEntries entries = .ok rest ∧
      (HeldBack lowest stored record.replayCount → ∃ error final, Rejected storage registry target
        state (Plan.make registry stored record version) error final) ∧
      (¬ HeldBack lowest stored record.replayCount →
        (registry.run target).run storage.backend state =
          (rest.run target).run storage.backend state) := by
  rcases floored_of_ofEntries built with ⟨lowest, rest, read, others, rfl⟩
  exact ⟨lowest, rest, read, others, rejected_of_heldBack serves valid readable parsed,
    run_of_not_heldBack serves valid readable parsed⟩

def flooredEntries : List Entry :=
  [.floor "1.0.0", ⟨"2.0.0", [⟨"add_role", pure ()⟩]⟩]

/-- A store at the version of the floor with no step counted. -/
theorem rejects_uncounted :
    let record : VersionRecord := ⟨"1.0.0", 0, ⟨1⟩, "abc"⟩
    let state := Memory.versioned record
    ∃ registry, ofEntries flooredEntries = .ok registry ∧
      Memory.storage.ServesBookkeeping ∧ Version.read "2.0.0" = .ok (.release 2 0 0) ∧
      Memory.storage.record state = .ok record ∧ record.parsedVersion = .ok (.release 1 0 0) ∧
      HeldBack (.release 1 0 0) (.release 1 0 0) record.replayCount ∧
      ∃ error final, Rejected Memory.storage registry "2.0.0" state
        (Plan.make registry (.release 1 0 0) record (.release 2 0 0)) error final := by
  intro record state
  have built : ofEntries flooredEntries =
      .ok ((inert [(.release 2 0 0, ["add_role"])]).floored (.release 1 0 0)) := rfl
  have valid : Version.read "2.0.0" = .ok (.release 2 0 0) := rfl
  have parsed : Version.read "1.0.0" = .ok (.release 1 0 0) := rfl
  have readable := Memory.record_versioned record
  rcases rejects_or_passes Memory.servesBookkeeping built valid readable parsed with
    ⟨lowest, rest, read, _, rejects, _⟩
  cases parsed.symm.trans read
  exact ⟨_, built, Memory.servesBookkeeping, valid, readable, parsed, .inr ⟨rfl, rfl⟩,
    rejects (.inr ⟨rfl, rfl⟩)⟩

/-- A store at the version of the floor with one step counted is migrated. -/
theorem passes_counted :
    let record : VersionRecord := ⟨"1.0.0", 1, ⟨1⟩, "abc"⟩
    ∃ registry, ofEntries flooredEntries = .ok registry ∧
      Memory.storage.record (Memory.versioned record) = .ok record ∧
      record.parsedVersion = Version.read "1.0.0" ∧
      ∃ report final,
        (registry.run "2.0.0").run Memory.backend (Memory.versioned record) = (.ok report, final) ∧
        report.executedSteps = ["add_role"] ∧
        Memory.storage.record final = .ok ⟨"2.0.0", 0, ⟨1⟩, "abc"⟩ := by
  intro record
  have valid : Version.read "2.0.0" = .ok (.release 2 0 0) := rfl
  have parsed : Version.read "1.0.0" = .ok (.release 1 0 0) := rfl
  have readable := Memory.record_versioned record
  have passes : ¬ HeldBack (.release 1 0 0) (.release 1 0 0) record.replayCount := by
    rintro (below | ⟨_, none⟩)
    · exact Version.lt_irrefl _ below
    · exact absurd none (by decide)
  rcases executes_of_succeeds Memory.servesBookkeeping
      (succeeds_inert [(.release 2 0 0, ["add_role"])] Memory.backend) valid readable parsed with
    ⟨_, _, final, executes⟩
  have ran := (run_of_not_heldBack Memory.servesBookkeeping valid readable parsed passes).trans
    executes.run
  have stamped : stamp record (Plan.make (inert [(.release 2 0 0, ["add_role"])])
      (.release 1 0 0) record (.release 2 0 0)) = ⟨"2.0.0", 0, ⟨1⟩, "abc"⟩ := by decide
  refine ⟨_, rfl, readable, rfl, _, final, ran, by decide, ?_⟩
  rw [executes.record, stamped]

end StoreMigration.Registry
