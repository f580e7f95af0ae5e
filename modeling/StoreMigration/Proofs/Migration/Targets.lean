import Mathlib.Data.List.Chain
import StoreMigration.Migration.Releases
import StoreMigration.Proofs.Migration.Rerun
import StoreMigration.Proofs.Migration.Startup

/-! Which version runs leave. A run that succeeds stamps its target, whatever was stored
before and whatever its steps did, so the stored version goes up and down with the
targets: it never decreases exactly where no target is below the version stored when its
run began. -/

namespace StoreMigration

def Storage.version (storage : Storage σ α) (state : σ) : Except MigrationError Version :=
  match storage.record state with
  | .error error => .error error
  | .ok record => record.parsedVersion.mapError (.corruptVersion record.schemaVersion)

theorem Storage.version_of_parsed {storage : Storage σ α} {state : σ} {record : VersionRecord}
    {version : Version} (readable : storage.record state = .ok record)
    (parsed : record.parsedVersion = .ok version) : storage.version state = .ok version := by
  simp only [Storage.version, readable, parsed, Except.mapError]

inductive Succeeded (storage : Storage σ α) (version : Version) (state final : σ) : Prop
  | ofRegistry {registry : Registry} {target : String} {report : Report}
      (valid : Version.read target = .ok version)
      (ran : (registry.run target).run storage.backend state = (.ok report, final))
  | ofMigrator {migrator : Migrator} {target : String} {outcome : MigrationOutcome}
      (valid : Version.read target = .ok version)
      (ran : (migrator.run target).run storage.backend state = (.ok outcome, final))

inductive SucceededInTurn (storage : Storage σ α) : σ → List (Version × σ) → Prop
  | none {state : σ} : SucceededInTurn storage state []
  | next {version : Version} {state after : σ} {rest : List (Version × σ)}
      (first : Succeeded storage version state after) (others : SucceededInTurn storage after rest) :
      SucceededInTurn storage state ((version, after) :: rest)

def Storage.NeverLowered (storage : Storage σ α) (states : List σ) : Prop :=
  states.IsChain fun earlier later => ∃ before after,
    storage.version earlier = .ok before ∧ storage.version later = .ok after ∧ ¬ after < before

variable {storage : Storage σ α} {state : σ}

namespace Registry

/-- A run for which nothing is due has no step that could fail. -/
theorem executes_of_idle {registry : Registry} {target : String} {version stored : Version}
    {record : VersionRecord} (serves : storage.ServesBookkeeping)
    (valid : Version.read target = .ok version) (readable : storage.record state = .ok record)
    (parsed : record.parsedVersion = .ok stored)
    (idle : Plan.due stored record.replayCount registry.descriptors = []) :
    ∃ made reached final, Executes storage registry target state record
      (Plan.make registry stored record version) made reached final := by
  have through : GoesThrough storage registry target state := goesThrough_of_serves serves readable
  rcases executes_or_breaksOff through valid readable parsed with executes | breaksOff
  · exact executes
  · rcases breaksOff with ⟨failing, cause, made, final, breaksOff⟩
    rcases breaksOff.stops with ⟨before, rest, _, _, _, split, _⟩
    rw [← pending_eq_unskipped, Plan.pending_make, idle] at split
    cases List.append_eq_nil_iff.mp split.symm |>.2

end Registry

theorem version_of_ran {registry : Registry} {target : String} {version : Version} {report : Report}
    {final : σ} (valid : Version.read target = .ok version)
    (ran : (registry.run target).run storage.backend state = (.ok report, final)) :
    storage.version final = .ok version := by
  rcases Registry.executes_of_ok ran with ⟨asked, stored, record, _, _, read, _, _, executes⟩
  cases valid.symm.trans read
  exact Storage.version_of_parsed executes.record
    (Registry.parsedVersion_stamp registry stored record version)

theorem Succeeded.version {version : Version} {final : σ}
    (succeeded : Succeeded storage version state final) : storage.version final = .ok version := by
  cases succeeded with
  | ofRegistry valid ran => exact version_of_ran valid ran
  | ofMigrator valid ran =>
      rcases Migrator.ran_of_ok ran with ⟨middle, ranAfter⟩
      exact version_of_ran valid ranAfter

theorem SucceededInTurn.version_of_mem {runs : List (Version × σ)}
    (succeeded : SucceededInTurn storage state runs) {run : Version × σ} (member : run ∈ runs) :
    storage.version run.2 = .ok run.1 := by
  induction succeeded with
  | none => cases member
  | next first others induction =>
      rcases List.mem_cons.mp member with rfl | member
      · exact first.version
      · exact induction member

theorem neverLowered_iff {stored : Version} {runs : List (Version × σ)}
    (readable : storage.version state = .ok stored) (succeeded : SucceededInTurn storage state runs) :
    storage.NeverLowered (state :: runs.map Prod.snd) ↔
      (stored :: runs.map Prod.fst).IsChain fun earlier later => ¬ later < earlier := by
  induction succeeded generalizing stored with
  | none => simp [Storage.NeverLowered]
  | @next version state after rest first others induction =>
      have stamped : storage.version after = .ok version := first.version
      rw [Storage.NeverLowered] at induction ⊢
      simp only [List.map_cons, List.isChain_cons_cons]
      -- The first run stamps its target, which is what the next one finds.
      rw [← induction stamped]
      apply and_congr_left
      intro _
      constructor
      · rintro ⟨before, left, read, reread, notBelow⟩
        cases readable.symm.trans read
        cases stamped.symm.trans reread
        exact notBelow
      · intro notBelow
        exact ⟨stored, version, readable, stamped, notBelow⟩

/-- Each run leaves its target, and so the stored version never decreases exactly where no
target is below the version stored when its run begins. -/
theorem SucceededInTurn.follows_targets {stored : Version} {runs : List (Version × σ)}
    (readable : storage.version state = .ok stored) (succeeded : SucceededInTurn storage state runs) :
    (∀ run ∈ runs, storage.version run.2 = .ok run.1) ∧
      (storage.NeverLowered (state :: runs.map Prod.snd) ↔
        (stored :: runs.map Prod.fst).IsChain fun earlier later => ¬ later < earlier) :=
  ⟨fun _ member => succeeded.version_of_mem member, neverLowered_iff readable succeeded⟩

/-- Runs for two versions, the second above the first. -/
theorem neverLowered_twice :
    let record : VersionRecord := ⟨"1.0.0", 0, ⟨1⟩, "01J0000000000000000000000A"⟩
    ∃ after final,
      Memory.storage.version (Memory.versioned record) = .ok (.release 1 0 0) ∧
      SucceededInTurn Memory.storage (Memory.versioned record)
        [(.release 2 0 0, after), (.release 2 1 0, final)] ∧
      Memory.storage.NeverLowered [Memory.versioned record, after, final] := by
  intro record
  let registry := Registry.inert [(.release 2 0 0, ["add_role"])]
  have succeeds : registry.Succeeds Memory.backend := Registry.succeeds_inert _ _
  have valid : Version.read "2.0.0" = .ok (.release 2 0 0) := rfl
  have validNext : Version.read "2.1.0" = .ok (.release 2 1 0) := rfl
  have parsed : Version.read "1.0.0" = .ok (.release 1 0 0) := rfl
  have readable := Memory.record_versioned record
  rcases Registry.executes_of_succeeds Memory.servesBookkeeping succeeds valid readable parsed with
    ⟨_, _, after, first⟩
  rcases Registry.executes_of_succeeds Memory.servesBookkeeping succeeds validNext first.record
      (Registry.parsedVersion_stamp registry (.release 1 0 0) record (.release 2 0 0)) with
    ⟨_, _, final, second⟩
  have stored := Storage.version_of_parsed readable parsed
  have inTurn : SucceededInTurn Memory.storage (Memory.versioned record)
      [(.release 2 0 0, after), (.release 2 1 0, final)] :=
    .next (.ofRegistry valid first.run) (.next (.ofRegistry validNext second.run) .none)
  have ascending : [Version.release 1 0 0, .release 2 0 0, .release 2 1 0].IsChain
      fun earlier later => ¬ later < earlier := by decide
  exact ⟨after, final, stored, inTurn, (inTurn.follows_targets stored).2.mpr ascending⟩

/-- The releases on a store at 2.16.0: nothing is due for the target 2.0.0, and it is
stamped. -/
theorem lowered_by_target :
    let record : VersionRecord := ⟨"2.16.0", 0, ⟨1⟩, "01J0000000000000000000000A"⟩
    ∃ report after,
      (Releases.registry.run "2.0.0").run Memory.backend (Memory.versioned record) =
        (.ok report, after) ∧
      Memory.storage.version (Memory.versioned record) = .ok (.release 2 16 0) ∧
      Memory.storage.version after = .ok (.release 2 0 0) ∧
      Version.release 2 0 0 < .release 2 16 0 := by
  intro record
  have valid : Version.read "2.0.0" = .ok (.release 2 0 0) := rfl
  have parsed : Version.read "2.16.0" = .ok (.release 2 16 0) := rfl
  have readable := Memory.record_versioned record
  have idle : Plan.due (.release 2 16 0) record.replayCount Releases.registry.descriptors = [] := rfl
  rcases Registry.executes_of_idle Memory.servesBookkeeping valid readable parsed idle with
    ⟨_, _, after, executes⟩
  exact ⟨_, after, executes.run, Storage.version_of_parsed readable parsed,
    version_of_ran valid executes.run, by decide⟩

end StoreMigration
