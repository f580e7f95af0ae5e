import StoreMigration.Proofs.Migration.Floor
import StoreMigration.Proofs.Migration.Import
import StoreMigration.Proofs.Migration.Preservation

/-! A store from before there was a version record, migrated from start to end. Every release
of the table is supported, so a number that stands in it leads to the target; a smaller number
is taken for a release that the floor holds back; any other number leaves the store alone. -/

namespace StoreMigration.Legacy

open Bookkeeping

/-! ## The table -/

theorem lookup_releases : ∀ entry ∈ releases, releases.lookup entry.1 = some entry.2 := by
  decide

theorem first_le : ∀ entry ∈ releases, 18 ≤ entry.1 := by
  decide

theorem supported_releases : ∀ entry ∈ releases, ¬ entry.2 < minimumSupportedVersion := by
  decide

theorem release_cases (number : Int64) :
    (∃ version, (number, version) ∈ releases ∧ release number = .ok version) ∨
      ((∀ entry ∈ releases, number < entry.1) ∧ release number = .ok earliestRelease) ∨
      ((∀ entry ∈ releases, entry.1 ≠ number) ∧ (∃ entry ∈ releases, entry.1 < number) ∧
        release number = .error (.unknownLegacyVersion number)) := by
  rw [release]
  cases found : releases.lookup number with
  | some version =>
      rcases List.lookup_eq_some_iff.mp found with ⟨before, after, split, _⟩
      exact .inl ⟨version, by rw [split]; simp, rfl⟩
  | none =>
      have unlisted : ∀ entry ∈ releases, entry.1 ≠ number := by
        rintro entry member rfl
        cases (lookup_releases entry member).symm.trans found
      by_cases below : number < 18
      · exact .inr (.inl ⟨fun entry member => Int64.lt_of_lt_of_le below (first_le entry member),
          if_pos below⟩)
      · have first : ((18 : Int64), Version.release 1 21 0) ∈ releases := List.mem_cons_self
        exact .inr (.inr ⟨unlisted, ⟨_, first, Int64.lt_of_le_of_ne (Int64.not_lt.mp below)
          (unlisted _ first)⟩, if_neg below⟩)

/-! ## What becomes of a store -/

structure Holds (storage : Storage σ α) (state : σ) (number edition : Int64)
    (instanceId : String) : Prop where
  unrecorded : storage.recordObject state = none
  numbered : storage.entry Json.decodeInt64 versionKey state = .ok (some number)
  edited : storage.entry Json.decodeInt64 editionKey state = .ok (some edition)
  identified : storage.entry Json.decodeString instanceKey state = .ok (some instanceId)

section Endings

variable (storage : Storage σ α) (migrator : Migrator) (target : String) (version : Version)
  (number edition : Int64) (instanceId : String) (state : σ)

inductive Ends : Prop
  | migrated {mapped : Version} {report : Report} {count : UInt32} {final : σ}
      (listed : (number, mapped) ∈ releases)
      (ran : (migrator.run target).run storage.backend state = (.ok ⟨.legacy, report⟩, final))
      (startedFrom : report.fromVersion = mapped.text)
      (recorded : storage.record final = .ok ⟨version.text, count, ⟨edition⟩, instanceId⟩)
      (lowered : storage.read final bucket updatingKey = .ok (some (.bool false)))
      (removed : ∀ key ∈ keys, storage.objects final bucket key = none) : Ends
  | turnedAway {error : MigrationError} {made : List (Exchange σ)} {middle final : σ}
      (below : ∀ entry ∈ releases, number < entry.1)
      (ran : (migrator.run target).run storage.backend state = (.error error, final))
      (tooOld : error.isTooOld = true)
      (failedStep : error.failedStep? = some Step.rejectUnsupportedName)
      (had : (migrator.bootstrap version).Runs storage.backend state (.ok .legacy) made middle)
      (calls : (migrator.run target).history storage.backend state =
        made ++ Registry.opening storage.backend middle)
      (recorded : storage.record final = .ok ⟨"1.0.0", 0, ⟨edition⟩, instanceId⟩)
      (raised : storage.IsUpdating final)
      (removed : ∀ key ∈ keys, storage.objects final bucket key = none) : Ends
  | unknown (unlisted : ∀ entry ∈ releases, entry.1 ≠ number)
      (notBelow : ∃ entry ∈ releases, entry.1 < number)
      (ran : (migrator.run target).run storage.backend state =
        (.error (.unknownLegacyVersion number), state)) : Ends

end Endings

variable {storage : Storage (Buckets α) α} {capacity : Json.Capacity} {migrator : Migrator}
  {target : String} {version : Version} {number edition : Int64} {instanceId : String}
  {state : Buckets α}

theorem sound_imported (faithful : storage.Faithful capacity) (record : VersionRecord)
    {other : String} (elsewhere : other ≠ bucket) (sound : storage.Sound capacity state other) :
    storage.Sound capacity (Storage.importedBuckets storage record state) other := by
  have replaced := replaced_importedBuckets faithful record state
  rw [faithful.shown] at replaced
  intro key stored found
  rw [replaced.elsewhere other key (.inl elsewhere)] at found
  exact sound key stored found

theorem bootstrap_of_holds (migrator : Migrator) (version : Version)
    (faithful : storage.Faithful capacity)
    (holds : Holds storage state number edition instanceId) {mapped : Version}
    (released : release number = .ok mapped) :
    (migrator.bootstrap version).run storage.backend state =
      (.ok .legacy, Storage.importedBuckets storage ⟨mapped.text, 0, ⟨edition⟩, instanceId⟩ state) := by
  have has : storage.HasLegacy state ⟨mapped.text, 0, ⟨edition⟩, instanceId⟩ :=
    .intro holds.numbered holds.edited holds.identified released
  have unrecorded := Storage.entry_of_absent VersionRecord.ofJson holds.unrecorded
  exact Action.run_bind_of_ok (faithful.bridge_of_legacy unrecorded has) _

theorem ends_of_listed (faithful : storage.Faithful capacity)
    (ships : migrator.registry = Releases.registry) (valid : Version.read target = .ok version)
    (sound : ∀ transform ∈ Releases.transforms, storage.Sound capacity state transform.bucket)
    (holds : Holds storage state number edition instanceId)
    {mapped : Version} (listed : (number, mapped) ∈ releases)
    (released : release number = .ok mapped) :
    Ends storage migrator target version number edition instanceId state := by
  let record : VersionRecord := ⟨mapped.text, 0, ⟨edition⟩, instanceId⟩
  have had := bootstrap_of_holds migrator version faithful holds released
  have replaced := replaced_importedBuckets faithful record state
  have readable : storage.record (Storage.importedBuckets storage record state) = .ok record :=
    Storage.record_of_encoded replaced.recorded
  have parsed : record.parsedVersion = .ok mapped := Version.read_text mapped
  have stillSound : ∀ transform ∈ Releases.transforms, storage.Sound capacity
      (Storage.importedBuckets storage record state) transform.bucket := fun transform member =>
    sound_imported faithful record (Releases.bucket_ne_bookkeeping member) (sound transform member)
  rcases Releases.run_of_sound faithful valid readable parsed (supported_releases _ listed)
      stillSound with ⟨report, due, reached, among, edited, ran⟩
  have kept := Releases.keepsData_of_edited faithful stillSound among
    edited (Registry.stamp record (Plan.make Releases.registry mapped record version))
  have startedFrom : report.fromVersion = mapped.text := by
    rcases Registry.executes_of_ok ran with ⟨_, _, found, _, _, _, readableToo, _, executes⟩
    cases readable.symm.trans readableToo
    have told := Except.ok.inj (congrArg Prod.fst (ran.symm.trans executes.run))
    exact congrArg Report.fromVersion told
  rw [← ships] at ran kept
  apply Ends.migrated listed (Migrator.runs_of_bootstrap valid ⟨had, rfl⟩ ⟨ran, rfl⟩).run_eq
    startedFrom
  · apply Storage.record_of_encoded
    rw [Storage.recordObject, faithful.shown]
    exact Registry.read_finished_record storage _ reached
  · have stored := Registry.read_finished_flag storage
      (Registry.stamp record (Plan.make migrator.registry mapped record version)) reached
    rw [← faithful.shown] at stored
    exact storage.read_of_encoded trivial trivial (by decide) stored
  · intro key member
    rw [faithful.shown, kept.bookkeeping key (ne_recordKey_of_mem member)
      (ne_updatingKey_of_mem member), ← faithful.shown]
    exact replaced.removed key member not_false

/-- The floor holds back the release that stands for all numbers below the table. -/
theorem ends_of_below (faithful : storage.Faithful capacity)
    (ships : migrator.registry = Releases.registry) (valid : Version.read target = .ok version)
    (holds : Holds storage state number edition instanceId)
    (below : ∀ entry ∈ releases, number < entry.1)
    (released : release number = .ok earliestRelease) :
    Ends storage migrator target version number edition instanceId state := by
  let record : VersionRecord := ⟨earliestRelease.text, 0, ⟨edition⟩, instanceId⟩
  have had := bootstrap_of_holds migrator version faithful holds released
  have replaced := replaced_importedBuckets faithful record state
  have readable : storage.record (Storage.importedBuckets storage record state) = .ok record :=
    Storage.record_of_encoded replaced.recorded
  have parsed : record.parsedVersion = .ok earliestRelease := Version.read_text earliestRelease
  have heldBack : Registry.HeldBack (.release 1 0 0) earliestRelease record.replayCount :=
    .inr ⟨rfl, rfl⟩
  have floored : migrator.registry =
      Registry.floored (.release 1 0 0) ⟨Releases.shipped.map Releases.descriptor⟩ := ships
  rcases Registry.rejected_of_heldBack faithful.servesBookkeeping valid readable parsed heldBack with
    ⟨error, final, rejected⟩
  rw [← floored] at rejected
  have runs := Migrator.runs_of_bootstrap valid ⟨had, rfl⟩ ⟨rejected.run, rejected.calls⟩
  refine .turnedAway below runs.run_eq rejected.tooOld rejected.failedStep ⟨had, rfl⟩
    runs.history_eq ?_ ?_ ?_
  · apply Storage.record_of_encoded
    rw [Storage.recordObject, rejected.objects, Objects.set_of_ne _ _ (.inr (by decide))]
    exact replaced.recorded
  · apply Storage.isUpdating_of_encoded
    rw [rejected.objects, Objects.set_same]
  · intro key member
    rw [rejected.objects, Objects.set_of_ne _ _ (.inr (ne_updatingKey_of_mem member))]
    exact replaced.removed key member not_false

theorem ends_of_unlisted (faithful : storage.Faithful capacity)
    (valid : Version.read target = .ok version)
    (holds : Holds storage state number edition instanceId)
    (unlisted : ∀ entry ∈ releases, entry.1 ≠ number) (notBelow : ∃ entry ∈ releases, entry.1 < number)
    (unreleased : release number = .error (.unknownLegacyVersion number)) :
    Ends storage migrator target version number edition instanceId state := by
  have unrecorded := Storage.entry_of_absent VersionRecord.ofJson holds.unrecorded
  have looked := faithful.run_legacy_of_entries holds.numbered holds.edited holds.identified
  rw [unreleased] at looked
  refine .unknown unlisted notBelow (Migrator.run_of_bridge_error valid ?_)
  apply (Action.run_bind_of_ok (faithful.run_found unrecorded) _).trans
  exact Action.run_bind_of_error looked _

/-- A store that holds the three keys and no record is migrated, or turned away with its record
written, or left as it is, as the number decides. -/
theorem ends (faithful : storage.Faithful capacity)
    (ships : migrator.registry = Releases.registry) (valid : Version.read target = .ok version)
    (sound : ∀ transform ∈ Releases.transforms, storage.Sound capacity state transform.bucket)
    (holds : Holds storage state number edition instanceId) :
    Ends storage migrator target version number edition instanceId state := by
  rcases release_cases number with
    ⟨mapped, listed, released⟩ | ⟨below, released⟩ | ⟨unlisted, notBelow, unreleased⟩
  · exact ends_of_listed faithful ships valid sound holds listed released
  · exact ends_of_below faithful ships valid holds below released
  · exact ends_of_unlisted faithful valid holds unlisted notBelow unreleased

def oneUser : Buckets Json :=
  unrecorded.write "users" "1" (.object [("Username", .string "admin"), ("Role", .integer 1)])

theorem ends_oneUser :
    let migrator : Migrator := ⟨Releases.registry, ⟨1⟩, "01J0000000000000000000000B"⟩
    Version.read "2.15.0" = .ok (.release 2 15 0) ∧
      (∀ transform ∈ Releases.transforms,
        Memory.storage.Sound .unlimited oneUser transform.bucket) ∧
      Holds Memory.storage oneUser 35 2 "01J0000000000000000000000A" ∧
      (35, Version.release 2 9 3) ∈ releases ∧
      Ends Memory.storage migrator "2.15.0" (.release 2 15 0) 35 2 "01J0000000000000000000000A"
        oneUser := by
  intro migrator
  have valid : Version.read "2.15.0" = .ok (.release 2 15 0) := rfl
  have sound : ∀ transform ∈ Releases.transforms,
      Memory.storage.Sound .unlimited oneUser transform.bucket := by
    intro transform _
    have small (number : Int) (low : 0 ≤ number) (high : number < 100) :
        (Json.integer number).WellFormed := by
      simp only [Json.integer, Json.WellFormed, Json.JsonNumberFits]
      omega
    have named : (Json.string "01J0000000000000000000000A").WellFormed := trivial
    apply Memory.sound_write
    · apply Memory.sound_write _ _ _ named
      apply Memory.sound_write _ _ _ (small 2 (by decide) (by decide))
      exact Memory.sound_write (Memory.sound_empty _) _ _ (small 35 (by decide) (by decide))
    · simp [Json.WellFormed, Json.WellFormedFields, Json.integer, Json.JsonNumberFits]
  have holds : Holds Memory.storage oneUser 35 2 "01J0000000000000000000000A" :=
    ⟨rfl, rfl, rfl, rfl⟩
  exact ⟨valid, sound, holds, by decide, ends Memory.faithful rfl valid sound holds⟩

end StoreMigration.Legacy
