import StoreMigration.Proofs.Migration.DryRun
import StoreMigration.Proofs.Migration.Operations

/-! What a migration leaves of the record, whichever calls fail. The record stays as it is, or
it is one with the edition and the id of the record that the migration started from, and with
a version that can be read. -/

namespace StoreMigration

open Bookkeeping

variable {storage : Storage σ α} {state after : σ} {history : List (Exchange σ)}

namespace Storage

theorem entry_of_record {record : VersionRecord} (readable : storage.record state = .ok record) :
    storage.entry VersionRecord.ofJson recordKey state = .ok (some record) := by
  rw [Storage.record, recordOf] at readable
  rw [entry]
  split at readable
  · cases readable
  · cases readable
  · next known =>
      cases readable
      exact known

end Storage

namespace Legacy

theorem recorded_of_bridge {outcome : Except MigrationError Outcome}
    (runs : bridge.Runs storage.backend state outcome history after) :
    storage.recordObject after = storage.recordObject state ∨
      ∃ record, outcome = .ok (.imported record) ∧
        storage.entry VersionRecord.ofJson recordKey state = .ok none ∧
        storage.HasLegacy state record ∧
        storage.recordObject after = some (storage.encode record.toJson) := by
  cases course runs with
  | failed looks => exact .inl looks.recordObject
  | versioned _ looks => exact .inl looks.recordObject
  | unnumbered _ _ looks => exact .inl looks.recordObject
  | notPersisted _ _ looks unwritten =>
      exact .inl ((Storage.recordObject_refused unwritten).trans looks.recordObject)
  | @imported record _ _ middle _ unrecorded has _ written removes =>
      have stored := Storage.recordObject_written written
      exact .inr ⟨record, rfl, unrecorded, has, (recordObject_of_removes removes stored).2⟩

end Legacy

namespace Migrator

variable {migrator : Migrator} {version : Version} {target : String}

theorem recorded_of_bootstrap {result : Except MigrationError RecordSource}
    (runs : (migrator.bootstrap version).Runs storage.backend state result history after) :
    storage.recordObject after = storage.recordObject state ∨
      ∃ source record named, storage.StartsFrom migrator version state source record ∧
        record.parsedVersion = .ok named ∧
        storage.recordObject after = some (storage.encode record.toJson) := by
  rcases runs.bind_cases with
    ⟨error, bridged, rfl⟩ | ⟨found, made, middle, later, bridged, last, rfl⟩
  · rcases Legacy.recorded_of_bridge bridged with kept | ⟨_, impossible, _⟩
    · exact .inl kept
    · cases impossible
  rcases Legacy.recorded_of_bridge bridged with kept | ⟨record, told, unrecorded, has, stored⟩
  · cases found with
    | alreadyVersioned =>
        rcases last.unique (.pure _ _) with ⟨_, _, rfl⟩
        exact .inl kept
    | imported record =>
        rcases last.unique (.pure _ _) with ⟨_, _, rfl⟩
        exact .inl kept
    | noLegacyData =>
        have write := runs_writeRecord storage.backend middle
          (.fresh version migrator.edition migrator.newInstanceId)
        cases written : (storage.backend
            (recordRequest (.fresh version migrator.edition migrator.newInstanceId)) middle).1 with
        | error cause =>
            rw [written] at write
            rcases last.of_bind_error write with ⟨_, _, rfl⟩
            exact .inl ((Storage.recordObject_refused written).trans kept)
        | ok answer =>
            rw [written] at write
            rcases last.of_bind_ok write with ⟨_, _, ended⟩
            rcases ended.unique (.pure _ _) with ⟨_, _, rfl⟩
            cases Legacy.course bridged with
            | unnumbered unrecorded unnumbered _ =>
                exact .inr ⟨_, _, version, .fresh unrecorded unnumbered, Version.read_text _,
                  Storage.recordObject_written written⟩
  · cases told
    rcases last.unique (.pure _ _) with ⟨_, _, rfl⟩
    have parsed : ∃ named, record.parsedVersion = .ok named := by
      rcases has with ⟨_, _, _, _⟩
      exact ⟨_, Version.read_text _⟩
    rcases parsed with ⟨named, parsed⟩
    exact .inr ⟨_, record, named, .legacy unrecorded has, parsed, stored⟩

end Migrator

namespace Registry

theorem recorded_of_run {registry : Registry} {target : String} (spares : registry.Spares bucket)
    {result : Except MigrationError Report}
    (runs : (registry.run target).Runs storage.backend state result history after) :
    storage.recordObject after = storage.recordObject state ∨
      ∃ version stored record, Version.read target = .ok version ∧
        storage.record state = .ok record ∧ record.parsedVersion = .ok stored ∧
        storage.recordObject after = some
          (storage.encode (stamp record (Plan.make registry stored record version)).toJson) := by
  cases course runs with
  | refused invalid => exact .inl rfl
  | notRaised unraised => exact .inl (Storage.recordObject_flag true)
  | unplanned valid raised failed => exact .inl recordObject_ready
  | stopped begun steps => exact .inl (guarded_of_steps spares begun.raised steps).2.2
  | notStamped begun steps unwritten =>
      exact .inl ((Storage.recordObject_refused unwritten).trans
        (guarded_of_steps spares begun.raised steps).2.2)
  | @notLowered version record _ _ _ _ _ begun steps written unlowered =>
      rcases parsed_of_ofRecord begun.planned with ⟨stored, parsed, rfl⟩
      exact .inr ⟨version, stored, record, begun.valid, record_of_begun begun, parsed,
        (Storage.recordObject_flag false).trans (Storage.recordObject_written written)⟩
  | @completed version record _ _ _ _ begun steps written cleared =>
      rcases parsed_of_ofRecord begun.planned with ⟨stored, parsed, rfl⟩
      exact .inr ⟨version, stored, record, begun.valid, record_of_begun begun, parsed,
        (Storage.recordObject_flag false).trans (Storage.recordObject_written written)⟩

end Registry

/-- A migration leaves the record as it is, or one with the edition and the id of the record
that it started from. -/
theorem Migrator.recorded_of_run {migrator : Migrator} {target : String}
    (spares : migrator.registry.Spares bucket) {outcome : Except MigrationError MigrationOutcome}
    (runs : (migrator.run target).Runs storage.backend state outcome history after) :
    storage.recordObject after = storage.recordObject state ∨
      ∃ version source record left named,
        storage.StartsFrom migrator version state source record ∧
        left.edition = record.edition ∧ left.instanceId = record.instanceId ∧
        left.parsedVersion = .ok named ∧
        storage.entry VersionRecord.ofJson recordKey after = .ok (some left) := by
  cases Migrator.course runs with
  | refused invalid => exact .inl rfl
  | @unrecorded version _ _ _ valid failed =>
      rcases recorded_of_bootstrap failed with
        kept | ⟨source, record, named, starts, parsed, stored⟩
      · exact .inl kept
      · exact .inr ⟨version, source, record, record, named, starts, rfl, rfl, parsed,
          Storage.entry_of_recorded stored⟩
  | @recorded version _ _ _ _ middle _ valid had ran =>
      rcases recorded_of_bootstrap had with kept | ⟨source, record, named, starts, parsed, stored⟩
      · rcases Registry.recorded_of_run spares ran with
          same | ⟨asked, former, record, _, readable, _, stored⟩
        · exact .inl (same.trans kept)
        · have recorded := Storage.entry_of_record ((Storage.record_congr kept).symm.trans readable)
          exact .inr ⟨version, .existing, record,
            Registry.stamp record (.make migrator.registry former record asked), asked,
            .existing recorded, rfl, rfl, Version.read_text asked,
            Storage.entry_of_recorded stored⟩
      · rcases Registry.recorded_of_run spares ran with
          same | ⟨asked, former, found, _, readable, _, stamped⟩
        · exact .inr ⟨version, source, record, record, named, starts, rfl, rfl, parsed,
            Storage.entry_of_recorded (same.trans stored)⟩
        · cases readable.symm.trans (Storage.record_of_encoded stored)
          exact .inr ⟨version, source, record,
            Registry.stamp record (.make migrator.registry former record asked), asked, starts,
            rfl, rfl, Version.read_text asked, Storage.entry_of_recorded stamped⟩

end StoreMigration
