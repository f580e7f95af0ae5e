import StoreMigration.Proofs.Migration.Floor
import StoreMigration.Proofs.Migration.Preservation

/-! What becomes of stores below the oldest supported version. All releases but the floor are
at that version or above it, so none of them is skipped, and the floor alone can turn such a
store away. It stands at 1.0.0: a store between the two runs every transform that there is. -/

namespace StoreMigration

theorem Plan.due_of_below {stored : Version} {descriptors : List Descriptor}
    (below : ∀ descriptor ∈ descriptors, stored < descriptor.version) (applied : UInt32) :
    due stored applied descriptors = descriptors.flatMap Descriptor.steps := by
  induction descriptors generalizing applied with
  | nil => rfl
  | cons descriptor rest induction =>
      rcases List.forall_mem_cons.mp below with ⟨here, others⟩
      rw [due_cons, Descriptor.decide_of_below here, if_neg nofun, induction others,
        List.flatMap_cons]

namespace Releases

open Registry

theorem supported_shipped : ∀ release ∈ shipped,
    minimumSupportedVersion = release.1 ∨ minimumSupportedVersion < release.1 := by
  decide

theorem below_shipped {stored : Version} (unsupported : stored < minimumSupportedVersion) :
    ∀ later ∈ shipped.map descriptor, stored < later.version := by
  intro later member
  rcases List.mem_map.mp member with ⟨release, inShipped, rfl⟩
  show stored < release.1
  rcases supported_shipped release inShipped with same | above
  · exact same ▸ unsupported
  · exact Std.TransCmp.lt_trans unsupported above

theorem due_of_unsupported {stored : Version} {applied : UInt32}
    (unsupported : stored < minimumSupportedVersion)
    (passes : ¬ HeldBack (.release 1 0 0) stored applied) :
    Plan.due stored applied registry.descriptors = transforms.map Transform.step := by
  rw [registry, Plan.due_cons_of_skip (decide_floor_eq_skip_iff.mpr passes),
    Plan.due_of_below (below_shipped unsupported), steps_shipped]

variable {storage : Storage σ α} {target : String} {state : σ} {version stored : Version}
  {record : VersionRecord}

/-- The run migrates the store through all releases, and only a call can stop it. -/
structure MigratesFully (storage : Storage σ α) (target : String) (state : σ)
    (record : VersionRecord) (plan : Plan) : Prop where
  steps : registry.unskipped plan = transforms.map Transform.step
  carriesOut : CarriesOut storage registry target state record plan
  notTooOld : ∀ error, ((registry.run target).run storage.backend state).1 = .error error →
    error.isTooOld = false

theorem migratesFully_of_due (through : GoesThrough storage registry target state)
    (valid : Version.read target = .ok version) (readable : storage.record state = .ok record)
    (parsed : record.parsedVersion = .ok stored)
    (due : Plan.due stored record.replayCount registry.descriptors =
      transforms.map Transform.step) :
    MigratesFully storage target state record (Plan.make registry stored record version) where
  steps := by rw [← pending_eq_unskipped, Plan.pending_make, due]
  carriesOut := Registry.carriesOut through valid readable parsed
  notTooOld := by
    intro error failed
    rcases executes_or_breaksOff through valid readable parsed with
      ⟨_, _, _, executes⟩ | ⟨failing, cause, _, _, breaksOff⟩
    · rw [executes.run] at failed
      cases failed
    · rw [breaksOff.run] at failed
      cases failed
      rcases breaksOff.stops with ⟨before, rest, _, _, _, split, _, _, stopped⟩
      rw [← pending_eq_unskipped, Plan.pending_make, due] at split
      have member : failing ∈ transforms.map Transform.step := by
        rw [split]
        exact List.mem_append_right before List.mem_cons_self
      rcases List.mem_map.mp member with ⟨transform, _, rfl⟩
      rcases stopped.error_of_withError with ⟨error, _, rfl⟩
      rfl

/-- A store below the oldest supported version is turned away by the floor exactly where the
floor holds it back; else it is migrated through all releases. -/
theorem rejects_or_migratesFully (serves : storage.ServesBookkeeping)
    (valid : Version.read target = .ok version) (readable : storage.record state = .ok record)
    (parsed : record.parsedVersion = .ok stored)
    (unsupported : stored < minimumSupportedVersion) :
    (HeldBack (.release 1 0 0) stored record.replayCount →
      ∃ error final, Rejected storage registry target state
        (Plan.make registry stored record version) error final) ∧
    (¬ HeldBack (.release 1 0 0) stored record.replayCount →
      MigratesFully storage target state record (Plan.make registry stored record version)) := by
  have through : GoesThrough storage registry target state := goesThrough_of_serves serves readable
  constructor
  · intro heldBack
    have floored : registry = Registry.floored (.release 1 0 0) ⟨shipped.map descriptor⟩ := rfl
    rw [floored]
    exact rejected_of_heldBack serves valid readable parsed heldBack
  · intro passes
    exact migratesFully_of_due through valid readable parsed
      (due_of_unsupported unsupported passes)

/-- A pre-release of the floor's version is below it, whatever its count. -/
theorem rejects_preRelease :
    let record : VersionRecord := ⟨"1.0.0-2", 3, ⟨1⟩, "01J0000000000000000000000A"⟩
    let state := Memory.versioned record
    let stored : Version := ⟨1, 0, 0, [.number 2], []⟩
    Memory.storage.ServesBookkeeping ∧ Version.read "2.16.0" = .ok (.release 2 16 0) ∧
      Memory.storage.record state = .ok record ∧ record.parsedVersion = .ok stored ∧
      stored < minimumSupportedVersion ∧
      ∃ error final, Rejected Memory.storage registry "2.16.0" state
        (Plan.make registry stored record (.release 2 16 0)) error final := by
  intro record state stored
  have valid : Version.read "2.16.0" = .ok (.release 2 16 0) := rfl
  have readable := Memory.record_versioned record
  have parsed : Version.read "1.0.0-2" = .ok stored := rfl
  have unsupported : stored < minimumSupportedVersion := by decide
  have below : stored < .release 1 0 0 := by decide
  rcases rejects_or_migratesFully Memory.servesBookkeeping valid readable parsed unsupported with
    ⟨rejects, _⟩
  exact ⟨Memory.servesBookkeeping, valid, readable, parsed, unsupported, rejects (.inl below)⟩

/-- A store between the floor and the oldest supported version. -/
theorem migrates_unsupported :
    let record : VersionRecord := ⟨"1.20.0", 0, ⟨1⟩, "abc"⟩
    Memory.storage.record (Memory.versioned record) = .ok record ∧
      record.parsedVersion = .ok (.release 1 20 0) ∧
      Version.release 1 20 0 < minimumSupportedVersion ∧
      ∃ report final,
        (registry.run "2.16.0").run Memory.backend (Memory.versioned record) =
          (.ok report, final) ∧
        report.executedSteps = transforms.map Transform.name ∧
        Memory.storage.record final = .ok ⟨"2.16.0", 0, ⟨1⟩, "abc"⟩ := by
  intro record
  have valid : Version.read "2.16.0" = .ok (.release 2 16 0) := rfl
  have parsed : Version.read "1.20.0" = .ok (.release 1 20 0) := rfl
  have unsupported : Version.release 1 20 0 < minimumSupportedVersion := by decide
  have readable := Memory.record_versioned record
  have passes : ¬ HeldBack (.release 1 0 0) (.release 1 20 0) record.replayCount := by
    rintro (below | ⟨same, _⟩)
    · exact absurd below (by decide)
    · exact absurd same (by decide)
  have due := due_of_unsupported unsupported passes
  have transforming : Transforming registry
      (Plan.make registry (.release 1 20 0) record (.release 2 16 0)) transforms :=
    transforming_of_sublist (List.Sublist.refl _) due
  have sound : ∀ transform ∈ transforms,
      Memory.storage.Sound .unlimited (Memory.versioned record) transform.bucket :=
    fun _ member => Memory.sound_versioned record (bucket_ne_bookkeeping member)
  rcases runs_of_readable Memory.faithful valid readable parsed transforming
      (fun transform member => (sound transform member).holdsIn)
      (fun transform member => (sound transform member).readable Memory.faithful) with
    ⟨reached, _, ran⟩
  refine ⟨readable, parsed, unsupported, _, _, ran, ?_, ?_⟩
  · show (Plan.make registry (.release 1 20 0) record (.release 2 16 0)).pendingSteps = _
    rw [← Plan.names_pending, Plan.pending_make, due, List.map_map]
    rfl
  · have stamped : stamp record (Plan.make registry (.release 1 20 0) record
        (.release 2 16 0)) = ⟨"2.16.0", 0, ⟨1⟩, "abc"⟩ := by decide
    rw [← stamped]
    exact Storage.record_of_encoded (read_finished_record Memory.storage _ reached)

end Releases

end StoreMigration
