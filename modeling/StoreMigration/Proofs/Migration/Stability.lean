import StoreMigration.Proofs.Migration.Recording
import StoreMigration.Proofs.Migration.Targets

/-! What becomes of the record when a registry is run for one version again and again. The
first run that succeeds stamps the version, and the second one a count that no walk from
there changes any more, in whatever order the descriptors are. From then on the record stays
as it is. -/

namespace StoreMigration

/-! ## Walking twice -/

namespace Descriptor

variable {descriptor : Descriptor} {version : Version} {count : UInt32}

theorem le_countAfter (notAbove : ¬ version < descriptor.version) :
    count ≤ descriptor.countAfter count (descriptor.decide version count) := by
  by_cases missing : version = descriptor.version ∧ count < descriptor.stepCount
  · rw [decide_of_missing missing.1 missing.2]
    exact UInt32.le_of_lt missing.2
  · have done : version = descriptor.version → descriptor.stepCount ≤ count := fun same =>
      UInt32.not_lt.mp fun less => missing ⟨same, less⟩
    rw [decide_of_done notAbove done]
    exact UInt32.le_refl count

theorem stepCount_le_countAfter (same : version = descriptor.version) :
    descriptor.stepCount ≤ descriptor.countAfter count (descriptor.decide version count) := by
  by_cases missing : count < descriptor.stepCount
  · rw [decide_of_missing same missing]
    exact UInt32.le_refl descriptor.stepCount
  · have notBelow : ¬ version < descriptor.version := by
      rw [same]
      exact Version.lt_irrefl descriptor.version
    rw [decide_of_done notBelow fun _ => UInt32.not_lt.mp missing]
    exact UInt32.not_lt.mp missing

end Descriptor

namespace Plan

variable {version : Version} {count : UInt32} {descriptors : List Descriptor}

/-- A descriptor above the stored version makes the walk forget the count it began with. -/
theorem count_walk_of_above {descriptor : Descriptor} (member : descriptor ∈ descriptors)
    (above : version < descriptor.version) (count other : UInt32) :
    (walk version count descriptors).2 = (walk version other descriptors).2 := by
  induction descriptors generalizing count other with
  | nil => cases member
  | cons head rest induction =>
      rw [count_cons, count_cons]
      rcases List.mem_cons.mp member with rfl | later
      · rw [Descriptor.decide_of_below above, Descriptor.decide_of_below above]
        rfl
      · exact induction later _ _

theorem le_count_walk
    (noneAbove : ∀ descriptor ∈ descriptors, ¬ version < descriptor.version) :
    count ≤ (walk version count descriptors).2 := by
  induction descriptors generalizing count with
  | nil => exact UInt32.le_refl count
  | cons head rest induction =>
      rcases List.forall_mem_cons.mp noneAbove with ⟨here, later⟩
      rw [count_cons]
      exact UInt32.le_trans (Descriptor.le_countAfter here) (induction later)

/-- Where no descriptor is above the stored version, a walk settles them all. -/
theorem settledAt_count_walk
    (noneAbove : ∀ descriptor ∈ descriptors, ¬ version < descriptor.version) :
    ∀ descriptor ∈ descriptors,
      descriptor.SettledAt version (walk version count descriptors).2 := by
  induction descriptors generalizing count with
  | nil =>
      intro descriptor member
      cases member
  | cons head rest induction =>
      rcases List.forall_mem_cons.mp noneAbove with ⟨here, later⟩
      rw [count_cons, List.forall_mem_cons]
      refine ⟨⟨fun above => absurd above here, fun same => ?_⟩, induction later⟩
      exact UInt32.le_trans (Descriptor.stepCount_le_countAfter same) (le_count_walk later)

theorem count_walk_walk :
    (walk version (walk version count descriptors).2 descriptors).2 =
      (walk version count descriptors).2 := by
  by_cases noneAbove : ∀ descriptor ∈ descriptors, ¬ version < descriptor.version
  · exact (idle_iff_settled.mpr (settledAt_count_walk noneAbove)).2
  · push Not at noneAbove
    rcases noneAbove with ⟨descriptor, member, above⟩
    exact count_walk_of_above member above _ _

end Plan

/-! ## Steady records -/

namespace Registry

open Bookkeeping

/-- The record names the version and has a count that a walk from there does not change. -/
structure Steady (registry : Registry) (version : Version) (record : VersionRecord) : Prop where
  named : record.schemaVersion = version.text
  counted : (Plan.walk version record.replayCount registry.descriptors).2 = record.replayCount

variable {storage : Storage σ α} {registry : Registry} {target : String} {version : Version}
  {record : VersionRecord} {state after : σ}

theorem Steady.parsedVersion (steady : registry.Steady version record) :
    record.parsedVersion = .ok version := by
  rw [VersionRecord.parsedVersion, steady.named]
  exact Version.read_text version

theorem Steady.stamp (steady : registry.Steady version record) :
    stamp record (Plan.make registry version record version) = record := by
  simp only [Registry.stamp, Plan.make, steady.counted, ← steady.named]

theorem steady_stamp_stamp (registry : Registry) (version stored : Version)
    (record : VersionRecord) :
    let once := stamp record (Plan.make registry stored record version)
    registry.Steady version (stamp once (Plan.make registry version once version)) :=
  ⟨rfl, Plan.count_walk_walk⟩

theorem recordObject_of_steady (spares : registry.Spares bucket)
    (steady : registry.Steady version record)
    (stored : storage.recordObject state = some (storage.encode record.toJson))
    (valid : Version.read target = .ok version) {result : Except MigrationError Report}
    {history : List (Exchange σ)}
    (runs : (registry.run target).Runs storage.backend state result history after) :
    storage.recordObject after = storage.recordObject state := by
  rcases recorded_of_run spares runs with kept | ⟨asked, named, found, read, readable, parsed, left⟩
  · exact kept
  · cases valid.symm.trans read
    cases readable.symm.trans (Storage.record_of_encoded stored)
    cases parsed.symm.trans steady.parsedVersion
    rw [steady.stamp] at left
    exact left.trans stored.symm

theorem steady_of_settled (named : record.schemaVersion = version.text)
    (settled : registry.SettledAt version record.replayCount) : registry.Steady version record :=
  ⟨named, (Plan.idle_iff_settled.mpr settled).2⟩

theorem Steady.settled (steady : registry.Steady version record)
    (noneAbove : ∀ descriptor ∈ registry.descriptors, ¬ version < descriptor.version) :
    registry.SettledAt version record.replayCount := by
  have settled : registry.SettledAt version
      (Plan.walk version record.replayCount registry.descriptors).2 :=
    Plan.settledAt_count_walk noneAbove
  rw [steady.counted] at settled
  exact settled

theorem executes_of_settled (serves : storage.ServesBookkeeping)
    (named : record.schemaVersion = version.text)
    (settled : registry.SettledAt version record.replayCount)
    (readable : storage.record state = .ok record) (valid : Version.read target = .ok version) :
    (Plan.make registry version record version).pendingSteps = [] ∧
      ∃ final, Executes storage registry target state record
        (Plan.make registry version record version) [] (ready storage.backend state) final := by
  have idle := (Plan.idle_iff_settled.mpr settled).1
  rcases executes_of_idle serves valid readable (steady_of_settled named settled).parsedVersion
    idle with ⟨made, reached, final, executes⟩
  refine ⟨(Plan.pendingSteps_eq_nil_iff _ _ _ _).mpr idle, final, ?_⟩
  have completes := executes.completes
  rw [← pending_eq_unskipped, Plan.pending_make, idle] at completes
  cases completes with
  | nil => exact executes

/-! ## Running again and again -/

inductive Reruns (storage : Storage σ α) (registry : Registry) (version : Version) (state : σ) :
    σ → Prop
  | none : Reruns storage registry version state state
  | next {target : String} {middle final : σ} {result : Except MigrationError Report}
      (earlier : Reruns storage registry version state middle)
      (valid : Version.read target = .ok version)
      (ran : (registry.run target).run storage.backend middle = (result, final)) :
      Reruns storage registry version state final

theorem Reruns.recordObject (spares : registry.Spares bucket)
    (steady : registry.Steady version record)
    (stored : storage.recordObject state = some (storage.encode record.toJson))
    (reruns : Reruns storage registry version state after) :
    storage.recordObject after = storage.recordObject state := by
  induction reruns with
  | none => rfl
  | next earlier valid ran induction =>
      exact (recordObject_of_steady spares steady (induction.trans stored) valid ⟨ran, rfl⟩).trans
        induction

/-- After two runs in a row that succeed, the record stays as it is whatever runs follow, and
where no descriptor is above the version these succeed and make no calls but their own. -/
theorem stabilises {first second : String} {report again : Report} {once twice later : σ}
    (spares : registry.Spares bucket) (valid : Version.read first = .ok version)
    (ran : (registry.run first).run storage.backend state = (.ok report, once))
    (validAgain : Version.read second = .ok version)
    (reran : (registry.run second).run storage.backend once = (.ok again, twice))
    (reruns : Reruns storage registry version twice later) :
    storage.recordObject later = storage.recordObject twice ∧
      (storage.ServesBookkeeping →
        (∀ descriptor ∈ registry.descriptors, ¬ version < descriptor.version) →
        ∀ target, Version.read target = .ok version →
          ∃ record next final, storage.record twice = .ok record ∧
            (registry.run target).run storage.backend later = (.ok next, final) ∧
            next.executedSteps = [] ∧
            (registry.run target).history storage.backend later =
              opening storage.backend later ++
                closing storage.backend record (ready storage.backend later)) := by
  rcases executes_of_ok ran with
    ⟨asked, stored, record, _, _, read, _, _, executes⟩
  cases valid.symm.trans read
  rcases executes_of_ok reran with
    ⟨asked, stored, found, _, _, read, readable, parsed, reexecutes⟩
  cases validAgain.symm.trans read
  cases readable.symm.trans executes.record
  cases parsed.symm.trans (parsedVersion_stamp registry _ record version)
  -- The second stamp is where the record settles: a third run finds what it would write.
  have steady := steady_stamp_stamp registry version stored record
  have kept := reruns.recordObject spares steady reexecutes.recordObject
  refine ⟨kept, fun serves noneAbove target validNext => ?_⟩
  have readable := Storage.record_of_encoded (kept.trans reexecutes.recordObject)
  rcases executes_of_settled serves steady.named (steady.settled noneAbove) readable validNext with
    ⟨none, final, idles⟩
  have calls := idles.calls
  rw [steady.stamp] at calls
  exact ⟨_, _, final, reexecutes.record, idles.run, none, calls⟩

/-- A registry that is out of order and has a version twice, run for that version. -/
theorem stabilises_outOfOrder :
    let registry := inert
      [(.release 2 0 0, ["add_role", "add_group"]), (.release 1 5 0, []), (.release 2 0 0, ["tidy"])]
    let record : VersionRecord := ⟨"1.0.0", 7, ⟨1⟩, "01J0000000000000000000000A"⟩
    registry.Spares bucket ∧ Version.read "2.0.0" = .ok (.release 2 0 0) ∧
      ∃ report again once twice later,
        (registry.run "2.0.0").run Memory.backend (Memory.versioned record) = (.ok report, once) ∧
        (registry.run "2.0.0").run Memory.backend once = (.ok again, twice) ∧
        Reruns Memory.storage registry (.release 2 0 0) twice later ∧
        Memory.storage.recordObject later = Memory.storage.recordObject twice ∧
        ∃ next final, (registry.run "2.0.0").run Memory.backend later = (.ok next, final) ∧
          next.executedSteps = [] := by
  intro registry record
  have succeeds : registry.Succeeds Memory.backend := succeeds_inert _ _
  have valid : Version.read "2.0.0" = .ok (.release 2 0 0) := rfl
  have parsed : Version.read "1.0.0" = .ok (.release 1 0 0) := rfl
  have readable := Memory.record_versioned record
  have noneAbove : ∀ descriptor ∈ registry.descriptors,
      ¬ Version.release 2 0 0 < descriptor.version := by decide
  rcases executes_of_succeeds Memory.servesBookkeeping succeeds valid readable parsed with
    ⟨_, _, once, first⟩
  rcases executes_of_succeeds Memory.servesBookkeeping succeeds valid first.record
      (parsedVersion_stamp registry _ record _) with ⟨_, _, twice, second⟩
  rcases ran : (registry.run "2.0.0").run Memory.backend twice with ⟨result, later⟩
  have reruns : Reruns Memory.storage registry (.release 2 0 0) twice later :=
    .next .none valid ran
  rcases stabilises (spares_inert _ _) valid first.run valid second.run reruns with ⟨kept, idles⟩
  rcases idles Memory.servesBookkeeping noneAbove "2.0.0" valid with
    ⟨_, next, final, _, idle, none, _⟩
  exact ⟨spares_inert _ _, valid, _, _, once, twice, later, first.run, second.run, reruns, kept,
    next, final, idle, none⟩

end Registry

end StoreMigration
