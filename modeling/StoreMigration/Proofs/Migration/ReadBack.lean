import StoreMigration.Proofs.Version.Order
import StoreMigration.Proofs.Migration.StoredRecords

/-! Versions that are stamped are read back. The canonical text of a version is read as the
version itself (`Version.read_text`), so that two texts that are read have one canonical text just
when their versions compare equal. Hence no plan and no run is refused for the version of a record
that a migration has stored: `Version.stamped_reads_back`. -/

namespace StoreMigration

open Bookkeeping

variable {storage : Storage σ α} {state : σ} {version : Version}

/-! ## Stored versions that are read -/

def MigrationError.isCorrupt : MigrationError → Bool
  | corruptVersion _ _ => true
  | _ => false

/-- What is planned or run on the store is not refused for its stored version. -/
structure Storage.Accepts (storage : Storage σ α) (state : σ) : Prop where
  plan : ∀ migrator target error after,
    (Migrator.plan migrator target).run storage.backend state = (.error error, after) →
      error.isCorrupt = false
  migrate : ∀ migrator target error after,
    (Migrator.run migrator target).run storage.backend state = (.error error, after) →
      error.isCorrupt = false
  run : ∀ registry target error after,
    (Registry.run registry target).run storage.backend state = (.error error, after) →
      error.isCorrupt = false

theorem Storage.record_of_version (readable : storage.version state = .ok version) :
    ∃ record, storage.record state = .ok record ∧ record.parsedVersion = .ok version := by
  rw [Storage.version] at readable
  split at readable
  · cases readable
  · next record found =>
      refine ⟨record, found, ?_⟩
      cases parsed : record.parsedVersion with
      | error cause =>
          rw [parsed] at readable
          cases readable
      | ok named =>
          rw [parsed] at readable
          cases readable
          rfl

theorem Storage.version_congr {other : σ}
    (same : storage.recordObject state = storage.recordObject other) :
    storage.version state = storage.version other := by
  rw [Storage.version, Storage.version, Storage.record_congr same]

namespace Registry

/-- A run fails for the stored version only where there is one that cannot be read. -/
theorem not_corrupt_of_version {registry : Registry} {target : String} {error : MigrationError}
    {history : List (Exchange σ)} {after : σ} (readable : storage.version state = .ok version)
    (runs : (registry.run target).Runs storage.backend state (.error error) history after) :
    error.isCorrupt = false := by
  have went := course runs
  generalize told : (Except.error error : Except MigrationError Report) = outcome at went
  cases went with
  | refused invalid => cases told; rfl
  | notRaised unraised => cases told; rfl
  | @unplanned asked cause valid raised failed =>
      cases told
      rcases Storage.record_of_version readable with ⟨record, found, parsed⟩
      cases fetched : (storage.backend fetchRequest (flagged storage.backend state)).1 with
      | error refusal =>
          rw [fetched] at failed
          cases failed
          rfl
      | ok answer =>
          have same : storage.record (flagged storage.backend state) = storage.record state :=
            Storage.record_congr (Storage.recordObject_flag true)
          rw [fetched, Storage.recordOf_fetch fetched, same, found] at failed
          have planned := Plan.ofRecord_of_parsed registry asked parsed
          cases planned.symm.trans failed
  | stopped begun steps =>
      cases told
      rcases stops_of_runSteps steps with ⟨failing, cause, rfl, _⟩
      rfl
  | notStamped begun steps unwritten => cases told; rfl
  | notLowered begun steps written unlowered => cases told; rfl
  | completed begun steps written cleared => cases told

end Registry

theorem Storage.found_of_version (readable : storage.version state = .ok version)
    {outcome : Except MigrationError (Option VersionRecord)} {history : List (Exchange σ)}
    {after : σ} (find : (Action.withError MigrationError.store record?).Runs storage.backend state
      outcome history after) :
    (∃ cause, outcome = .error (.store cause)) ∨
      ∃ record, outcome = .ok (some record) ∧ record.parsedVersion = .ok version := by
  cases outcome with
  | error error =>
      rcases find.error_of_withError with ⟨cause, _, rfl⟩
      exact .inl ⟨cause, rfl⟩
  | ok found =>
      rcases Storage.record_of_version readable with ⟨record, stored, parsed⟩
      cases (Storage.entry_of_find find).symm.trans (Storage.entry_of_record stored)
      exact .inr ⟨record, rfl, parsed⟩

namespace Migrator

variable {migrator : Migrator} {target : String} {error : MigrationError}
  {history : List (Exchange σ)} {after : σ}

theorem starting_of_version (readable : storage.version state = .ok version) {asked : Version}
    {outcome : Except MigrationError (RecordSource × VersionRecord)}
    (runs : (migrator.startingRecord asked).Runs storage.backend state outcome history after) :
    (∃ cause, outcome = .error (.store cause)) ∨
      ∃ record, outcome = .ok (.existing, record) ∧ record.parsedVersion = .ok version := by
  rcases runs.bind_cases with ⟨_, find, rfl⟩ | ⟨found, _, _, _, find, onceFound, _⟩
  · rcases Storage.found_of_version readable find with ⟨cause, told⟩ | ⟨_, impossible, _⟩
    · cases told
      exact .inl ⟨cause, rfl⟩
    · cases impossible
  · rcases Storage.found_of_version readable find with ⟨_, impossible⟩ | ⟨record, told, parsed⟩
    · cases impossible
    · cases told
      exact .inr ⟨record, (onceFound.unique (.pure _ _)).1, parsed⟩

theorem not_corrupt_of_plan (readable : storage.version state = .ok version)
    (runs : (migrator.plan target).Runs storage.backend state (.error error) history after) :
    error.isCorrupt = false := by
  rcases runs.bind_cases with ⟨_, parse, told⟩ | ⟨asked, _, middle, _, parse, onceParsed, _⟩
  · cases told
    have told := (parse.unique (.ofResult rfl state)).1
    rw [Registry.parseTarget] at told
    split at told
    · cases told
    · cases told
      rfl
  rcases parse.unique (.ofResult rfl state) with ⟨_, _, rfl⟩
  rcases onceParsed.bind_cases with ⟨_, start, told⟩ | ⟨started, _, _, _, start, onceStarted, _⟩
  · cases told
    rcases starting_of_version readable start with ⟨cause, told⟩ | ⟨_, impossible, _⟩
    · cases told
      rfl
    · cases impossible
  · rcases starting_of_version readable start with ⟨_, impossible⟩ | ⟨record, told, parsed⟩
    · cases impossible
    cases told
    have made := Plan.ofRecord_of_parsed migrator.registry asked parsed
    cases (onceStarted.unique ((Action.Runs.ofResult made _).bind_ok (.pure _ _))).1

theorem refused_of_bootstrap (readable : storage.version state = .ok version) {asked : Version}
    (runs : (migrator.bootstrap asked).Runs storage.backend state (.error error) history after) :
    ∃ cause, error = .store cause := by
  rcases Storage.record_of_version readable with ⟨record, stored, _⟩
  have recorded := Storage.entry_of_record stored
  rcases runs.bind_cases with ⟨_, bridged, told⟩ | ⟨found, _, middle, _, bridged, last, _⟩
  · cases told
    rcases bridged.bind_cases with ⟨_, find, told⟩ | ⟨_, _, _, _, find, onceFound, _⟩
    · cases told
      rcases Storage.found_of_version readable find with ⟨cause, told⟩ | ⟨_, impossible, _⟩
      · cases told
        exact ⟨cause, rfl⟩
      · cases impossible
    · rcases Storage.found_of_version readable find with ⟨_, impossible⟩ | ⟨record, told, _⟩
      · cases impossible
      cases told
      rcases onceFound.bind_cases with ⟨_, look, told⟩ | ⟨_, _, _, _, _, ended, _⟩
      · cases told
        rcases look.error_of_withError with ⟨cause, _, rfl⟩
        exact ⟨cause, rfl⟩
      · rcases ended.unique (.pure _ _) with ⟨impossible, _, _⟩
        cases impossible
  · cases Legacy.course bridged with
    | versioned _ looks =>
        rcases last.unique (.pure _ _) with ⟨impossible, _, _⟩
        cases impossible
    | unnumbered unrecorded _ _ => cases recorded.symm.trans unrecorded
    | imported unrecorded _ _ _ _ => cases recorded.symm.trans unrecorded

theorem versioned_of_bootstrap (readable : storage.version state = .ok version) {asked : Version}
    {source : RecordSource}
    (runs : (migrator.bootstrap asked).Runs storage.backend state (.ok source) history after) :
    storage.version after = .ok version := by
  rcases Storage.record_of_version readable with ⟨record, stored, parsed⟩
  have recorded := Storage.entry_of_record stored
  rcases recorded_of_bootstrap runs with kept | ⟨_, _, _, starts, _, written⟩
  · exact (Storage.version_congr kept).trans readable
  · cases starts with
    | existing found =>
        cases recorded.symm.trans found
        exact Storage.version_of_parsed (Storage.record_of_encoded written) parsed
    | legacy unrecorded _ => cases recorded.symm.trans unrecorded
    | fresh unrecorded _ => cases recorded.symm.trans unrecorded

theorem not_corrupt_of_run (readable : storage.version state = .ok version)
    (runs : (migrator.run target).Runs storage.backend state (.error error) history after) :
    error.isCorrupt = false := by
  have went := Migrator.course runs
  generalize told : (Except.error error : Except MigrationError MigrationOutcome) = outcome at went
  cases went with
  | refused invalid =>
      cases told
      rfl
  | unrecorded valid failed =>
      cases told
      rcases refused_of_bootstrap readable failed with ⟨cause, rfl⟩
      rfl
  | @recorded asked source own _ _ _ _ valid had ran =>
      cases own with
      | ok report => cases told
      | error cause =>
          cases told
          exact Registry.not_corrupt_of_version (versioned_of_bootstrap readable had) ran

end Migrator

theorem Storage.accepts_of_version (readable : storage.version state = .ok version) :
    storage.Accepts state where
  plan _ _ _ _ ran := Migrator.not_corrupt_of_plan readable ⟨ran, rfl⟩
  migrate _ _ _ _ ran := Migrator.not_corrupt_of_run readable ⟨ran, rfl⟩
  run _ _ _ _ ran := Registry.not_corrupt_of_version readable ⟨ran, rfl⟩

/-! ## Reading back -/

/-- The call stores a record of some version, and as long as that record is left the version is
read and accepted. -/
def Storage.ReadsBack (storage : Storage σ α) (exchange : Exchange σ) : Prop :=
  ∃ version, exchange.Stamps version ∧ ∀ later,
    storage.recordObject later = storage.recordObject exchange.after →
      storage.version later = .ok version ∧ storage.Accepts later

theorem Storage.readsBack_of_inFull {exchange : Exchange σ} {before : σ} (inFull : exchange.InFull)
    (stores : exchange.request.StoresRecord) (granted : exchange.succeeded = true)
    (made : exchange = storage.backend.exchange exchange.request before) :
    storage.ReadsBack exchange := by
  rcases inFull stores with ⟨version, stamps⟩
  refine ⟨version, stamps, fun later same => ?_⟩
  have readable := (Storage.version_congr same).trans (stamps.version_after made granted)
  exact ⟨readable, Storage.accepts_of_version readable⟩

theorem Version.text_eq_text_iff {left right : Version} :
    left.text = right.text ↔ compare left right = .eq := by
  rw [Std.LawfulEqOrd.compare_eq_iff_eq]
  refine ⟨fun same => ?_, congrArg Version.text⟩
  have read := Version.read_text left
  rw [same, Version.read_text right] at read
  cases read
  rfl

/-- Canonical texts are read as their versions and are printed again as they are, they are the
same just for versions that compare equal, and what a migration stores as the record, the calls
of its steps apart, is read back and accepted. -/
theorem Version.stamped_reads_back :
    (∀ version : Version, Version.read version.text = .ok version) ∧
    (∀ raw version, Version.read raw = .ok version →
      Version.read version.text = .ok version ∧
        (Version.read version.text).map Version.text = .ok version.text) ∧
    (∀ raw other left right, Version.read raw = .ok left → Version.read other = .ok right →
      (left.text = right.text ↔ compare left right = .eq)) ∧
    (∀ {σ α : Type} (storage : Storage σ α) (migrator : Migrator) (target : String) (state : σ)
      (history : List (Exchange σ)),
      history = (migrator.run target).history storage.backend state ∨
        history = (migrator.registry.run target).history storage.backend state →
      ∃ before made last, history = before ++ (made ++ last) ∧
        migrator.registry.MadeBySteps storage.backend made ∧
        ∀ exchange ∈ before ++ last, exchange.request.StoresRecord → exchange.succeeded = true →
          storage.ReadsBack exchange) := by
  refine ⟨Version.read_text, fun raw version _ => ⟨Version.read_text version, ?_⟩,
    fun _ _ _ _ _ _ => Version.text_eq_text_iff, ?_⟩
  · rw [Version.read_text]
    rfl
  intro σ α storage migrator target state history told
  have stamps : migrator.registry.StampsInFull storage.backend history := by
    rcases told with rfl | rfl
    · exact Migrator.stampsInFull_of_run (Action.Runs.total _ _ _)
    · exact Registry.stampsInFull_of_run (Action.Runs.total _ _ _)
  have exchanged : ∀ exchange ∈ history,
      ∃ before, exchange = storage.backend.exchange exchange.request before := by
    rcases told with rfl | rfl <;> exact fun _ => Program.exchanged_of_mem
  rcases stamps with ⟨before, made, last, rfl, bySteps, others⟩
  refine ⟨before, made, last, rfl, bySteps, fun exchange member stores granted => ?_⟩
  have inHistory : exchange ∈ before ++ (made ++ last) := by
    rcases List.mem_append.mp member with early | late
    · exact List.mem_append_left _ early
    · exact List.mem_append_right _ (List.mem_append_right _ late)
  rcases exchanged exchange inHistory with ⟨start, own⟩
  exact Storage.readsBack_of_inFull (others exchange member) stores granted own

/-- A mark, two numbers, a hyphen in front of letters and leading zeros: the new installation at
that version has a record that is read back. -/
theorem Version.stamped_reads_back_leadingZeros :
    let version : Version := ⟨1, 2, 0, [.word ⟨"0-rc".toList, by decide⟩ (by decide),
      .word ⟨"v1".toList, by decide⟩ (by decide)], [⟨"007".toList, by decide⟩]⟩
    let migrator : Migrator := ⟨⟨[]⟩, ⟨1⟩, "01J0000000000000000000000A"⟩
    let history := (migrator.run " v1.2-0-rc.v1+007").history Memory.backend Buckets.empty
    Version.read " v1.2-0-rc.v1+007" = .ok version ∧ version.text = "1.2.0-0-rc.v1+007" ∧
      Version.read version.text = .ok version ∧
      (version.text = version.text ↔ compare version version = .eq) ∧
      ∃ exchange ∈ history,
        exchange.request = recordRequest (.fresh version migrator.edition migrator.newInstanceId) ∧
          exchange.succeeded = true ∧ Memory.storage.ReadsBack exchange := by
  intro version migrator history
  have accepted : Version.read " v1.2-0-rc.v1+007" = .ok version := rfl
  have printed : version.text = "1.2.0-0-rc.v1+007" := by decide
  obtain ⟨-, again, same, readBack⟩ := Version.stamped_reads_back
  have founded : history[2]?.map (fun made => (made.request, made.succeeded)) =
    some (recordRequest (.fresh version migrator.edition migrator.newInstanceId), true) := rfl
  obtain ⟨exchange, third, shown⟩ := Option.map_eq_some_iff.mp founded
  obtain ⟨request, granted⟩ := Prod.mk.inj shown
  obtain ⟨before, made, last, parts, bySteps, others⟩ :=
    readBack Memory.storage migrator " v1.2-0-rc.v1+007" Buckets.empty history (.inl rfl)
  have member : exchange ∈ history := List.mem_of_getElem? third
  refine ⟨accepted, printed, (again _ version accepted).1,
    same _ _ version version accepted accepted, exchange, member, request, granted, ?_⟩
  rw [parts, bySteps.eq_nil] at member
  exact others exchange member ⟨_, request⟩ granted

end StoreMigration
