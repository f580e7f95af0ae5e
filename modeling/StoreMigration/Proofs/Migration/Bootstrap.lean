import StoreMigration.Proofs.Migration.Atomicity
import StoreMigration.Proofs.Migration.FaultFree
import StoreMigration.Proofs.Migration.Startup

/-! How a migration comes by its record on a store on which nothing fails. It looks for the
record before the flag is raised, so a record or legacy keys that do not read back end it
with the store as it was; once there is a record every failure leaves the flag raised. -/

namespace StoreMigration

open Bookkeeping

/-! ## What a migration can start from -/

namespace Storage

variable (storage : Storage σ α)

def entry (decode : Json → Json.Decoded β) (key : String) (state : σ) :
    Except StoreError (Option β) :=
  Action.decodeAnswer decode bucket key (storage.read state bucket key)

inductive HasLegacy (state : σ) : VersionRecord → Prop
  | intro {number edition : Int64} {instanceId : String} {version : Version}
      (numbered : storage.entry Json.decodeInt64 Legacy.versionKey state = .ok (some number))
      (edited : storage.entry Json.decodeInt64 Legacy.editionKey state = .ok (some edition))
      (identified : storage.entry Json.decodeString Legacy.instanceKey state = .ok (some instanceId))
      (released : Legacy.release number = .ok version) :
      HasLegacy state ⟨version.text, 0, ⟨edition⟩, instanceId⟩

/-- There is a record, or legacy keys that amount to one, or neither was ever there. Beside a
record the legacy number is looked up too, but not taken for a number. -/
inductive Startable (state : σ) : Prop
  | versioned {record : VersionRecord} {residue : Option Json}
      (recorded : storage.entry VersionRecord.ofJson recordKey state = .ok (some record))
      (legible : storage.read state bucket Legacy.versionKey = .ok residue)
  | legacy {record : VersionRecord}
      (unrecorded : storage.entry VersionRecord.ofJson recordKey state = .ok none)
      (imported : storage.HasLegacy state record)
  | fresh
      (unrecorded : storage.entry VersionRecord.ofJson recordKey state = .ok none)
      (unnumbered : storage.entry Json.decodeInt64 Legacy.versionKey state = .ok none)

variable {storage} {state other : σ}

theorem entry_congr (same : storage.objects state = storage.objects other)
    (decode : Json → Json.Decoded β) (key : String) :
    storage.entry decode key state = storage.entry decode key other := by
  rw [entry, entry, read, read, same]

theorem isUpdating_iff_entry :
    storage.IsUpdating state ↔ storage.entry Json.decodeBool updatingKey state = .ok (some true) := by
  rw [IsUpdating, entry]
  cases storage.read state bucket updatingKey with
  | error error => simp [Action.decodeAnswer]
  | ok found =>
      cases found with
      | none => simp [Action.decodeAnswer]
      | some value => cases value <;> simp [Action.decodeAnswer, Json.decodeBool]

theorem Startable.congr (startable : storage.Startable other)
    (same : storage.objects state = storage.objects other) : storage.Startable state := by
  cases startable with
  | versioned recorded legible =>
      apply Startable.versioned
      · exact (entry_congr same _ _).trans recorded
      · rw [read, same]
        exact legible
  | legacy unrecorded imported =>
      rcases imported with ⟨numbered, edited, identified, released⟩
      have importedToo : storage.HasLegacy state _ :=
        .intro ((entry_congr same _ _).trans numbered) ((entry_congr same _ _).trans edited)
          ((entry_congr same _ _).trans identified) released
      exact .legacy ((entry_congr same _ _).trans unrecorded) importedToo
  | fresh unrecorded unnumbered =>
      exact .fresh ((entry_congr same _ _).trans unrecorded) ((entry_congr same _ _).trans unnumbered)

/-! ## Looking for a record -/

section Faithful

variable {storage : Storage (Buckets α) α} {capacity : Json.Capacity} {state : Buckets α}

theorem Faithful.run_getAs (faithful : storage.Faithful capacity) (decode : Json → Json.Decoded β)
    (key : String) (state : Buckets α) :
    (Action.getAs decode bucket key).run storage.backend state =
      (storage.entry decode key state, state) := by
  have looked := (Action.Runs.getAs storage.backend decode bucket key state).run_eq
  rw [faithful.get_eq] at looked
  exact looked

theorem Faithful.run_found (faithful : storage.Faithful capacity) {decode : Json → Json.Decoded β}
    {key : String} {found : Option β} (known : storage.entry decode key state = .ok found) :
    (Action.withError MigrationError.store (Action.getAs decode bucket key)).run storage.backend
      state = (.ok found, state) := by
  rw [Action.run_withError (faithful.run_getAs decode key state), known]
  rfl

theorem Faithful.run_unfound (faithful : storage.Faithful capacity) {decode : Json → Json.Decoded β}
    {key : String} {error : StoreError} (known : storage.entry decode key state = .error error) :
    (Action.withError MigrationError.store (Action.getAs decode bucket key)).run storage.backend
      state = (.error (.store error), state) := by
  rw [Action.run_withError (faithful.run_getAs decode key state), known]
  rfl

theorem Faithful.run_contains (faithful : storage.Faithful capacity) (key : String)
    (state : Buckets α) :
    (Action.withError MigrationError.store (Action.contains bucket key)).run storage.backend state =
      (((storage.read state bucket key).map Option.isSome).mapError .store, state) := by
  have looked := (Action.Runs.contains storage.backend bucket key state).withError
    MigrationError.store
  rw [faithful.get_eq] at looked
  exact looked.run_eq

theorem Faithful.run_legacy_of_unnumbered (faithful : storage.Faithful capacity)
    (unnumbered : storage.entry Json.decodeInt64 Legacy.versionKey state = .ok none) :
    Legacy.record?.run storage.backend state = (.ok none, state) :=
  Action.run_bind_of_ok (faithful.run_found unnumbered) _

/-- A key that has to be there is there, or the search ends, whatever was to follow. -/
theorem Faithful.demand_cases (faithful : storage.Faithful capacity)
    (decode : Json → Json.Decoded β) (key : String) (state : Buckets α) :
    (∃ value, storage.entry decode key state = .ok (some value)) ∨
      ∃ error, ∀ (γ : Type) (rest : β → Action MigrationError γ),
        (do
          let found ← Action.withError MigrationError.store (Action.getAs decode bucket key)
          let value ← Action.ofResult (Legacy.require key found)
          rest value).run storage.backend state = (.error error, state) := by
  cases known : storage.entry decode key state with
  | error error =>
      refine .inr ⟨.store error, fun γ rest => ?_⟩
      exact Action.run_bind_of_error (faithful.run_unfound known) _
  | ok found =>
      cases found with
      | some value => exact .inl ⟨value, rfl⟩
      | none =>
          refine .inr ⟨.missingLegacyKey key, fun γ rest => ?_⟩
          apply (Action.run_bind_of_ok (faithful.run_found known) _).trans
          exact Action.run_bind_of_error rfl rest

theorem Faithful.run_demand (faithful : storage.Faithful capacity)
    {decode : Json → Json.Decoded β} {key : String} {value : β}
    (known : storage.entry decode key state = .ok (some value))
    (rest : β → Action MigrationError γ) :
    (do
      let found ← Action.withError MigrationError.store (Action.getAs decode bucket key)
      let value ← Action.ofResult (Legacy.require key found)
      rest value).run storage.backend state = (rest value).run storage.backend state :=
  (Action.run_bind_of_ok (faithful.run_found known) _).trans (Action.run_bind_of_ok rfl rest)

theorem Faithful.run_legacy_of_entries (faithful : storage.Faithful capacity)
    {number edition : Int64} {instanceId : String}
    (numbered : storage.entry Json.decodeInt64 Legacy.versionKey state = .ok (some number))
    (edited : storage.entry Json.decodeInt64 Legacy.editionKey state = .ok (some edition))
    (identified : storage.entry Json.decodeString Legacy.instanceKey state = .ok (some instanceId)) :
    Legacy.record?.run storage.backend state = ((Legacy.release number).map fun version =>
      some ⟨version.text, 0, ⟨edition⟩, instanceId⟩, state) := by
  apply (Action.run_bind_of_ok (faithful.run_found numbered) _).trans
  apply (faithful.run_demand edited _).trans
  apply (faithful.run_demand identified _).trans
  cases Legacy.release number with
  | ok version => exact Action.run_bind_of_ok rfl _
  | error error => exact Action.run_bind_of_error rfl _

theorem Faithful.run_legacy_of_has (faithful : storage.Faithful capacity) {record : VersionRecord}
    (imported : storage.HasLegacy state record) :
    Legacy.record?.run storage.backend state = (.ok (some record), state) := by
  rcases imported with ⟨numbered, edited, identified, released⟩
  rw [faithful.run_legacy_of_entries numbered edited identified, released]
  rfl

theorem Faithful.legacy_cases (faithful : storage.Faithful capacity) (state : Buckets α) :
    storage.entry Json.decodeInt64 Legacy.versionKey state = .ok none ∨
      (∃ record, storage.HasLegacy state record) ∨
      ∃ error, Legacy.record?.run storage.backend state = (.error error, state) := by
  cases numbered : storage.entry Json.decodeInt64 Legacy.versionKey state with
  | error error =>
      exact .inr (.inr ⟨_, Action.run_bind_of_error (faithful.run_unfound numbered) _⟩)
  | ok found =>
  cases found with
  | none => exact .inl rfl
  | some number =>
  apply Or.inr
  rcases faithful.demand_cases Json.decodeInt64 Legacy.editionKey state with
    ⟨edition, edited⟩ | ⟨error, ends⟩
  · rcases faithful.demand_cases Json.decodeString Legacy.instanceKey state with
      ⟨instanceId, identified⟩ | ⟨error, ends⟩
    · cases released : Legacy.release number with
      | ok version => exact .inl ⟨_, numbered, edited, identified, released⟩
      | error error =>
          refine .inr ⟨error, ?_⟩
          rw [faithful.run_legacy_of_entries numbered edited identified, released]
          rfl
    · refine .inr ⟨error, ?_⟩
      apply (Action.run_bind_of_ok (faithful.run_found numbered) _).trans
      apply (faithful.run_demand edited _).trans
      exact ends _ _
  · refine .inr ⟨error, ?_⟩
    exact (Action.run_bind_of_ok (faithful.run_found numbered) _).trans (ends _ _)

/-! ## Replacing the legacy keys -/

def importedBuckets (storage : Storage (Buckets α) α) (record : VersionRecord)
    (buckets : Buckets α) : Buckets α :=
  (((buckets.write bucket recordKey (storage.encode record.toJson)).delete bucket
    Legacy.versionKey).delete bucket Legacy.editionKey).delete bucket Legacy.instanceKey

theorem Faithful.run_removal (faithful : storage.Faithful capacity) (key : String)
    (state : Buckets α) :
    (Action.ignoringError (Action.delete bucket key) : Action MigrationError Unit).run
      storage.backend state = (.ok (), state.delete bucket key) := by
  have removed : (Action.ignoringError (Action.delete bucket key) : Action MigrationError Unit).Runs
      storage.backend state (.ok ()) _ (storage.backend (.delete bucket key) state).2 :=
    (Action.Runs.request (.delete bucket key) state).ignoringError
  rw [faithful.delete_eq] at removed
  exact removed.run_eq

theorem Faithful.bridge_of_versioned (faithful : storage.Faithful capacity) {record : VersionRecord}
    {residue : Option Json}
    (recorded : storage.entry VersionRecord.ofJson recordKey state = .ok (some record))
    (legible : storage.read state bucket Legacy.versionKey = .ok residue) :
    Legacy.bridge.run storage.backend state = (.ok .alreadyVersioned, state) := by
  have looked := faithful.run_contains Legacy.versionKey state
  rw [legible] at looked
  apply (Action.run_bind_of_ok (faithful.run_found recorded) _).trans
  exact Action.run_bind_of_ok looked _

theorem Faithful.bridge_of_illegible (faithful : storage.Faithful capacity) {record : VersionRecord}
    {error : StoreError}
    (recorded : storage.entry VersionRecord.ofJson recordKey state = .ok (some record))
    (illegible : storage.read state bucket Legacy.versionKey = .error error) :
    Legacy.bridge.run storage.backend state = (.error (.store error), state) := by
  have looked := faithful.run_contains Legacy.versionKey state
  rw [illegible] at looked
  apply (Action.run_bind_of_ok (faithful.run_found recorded) _).trans
  exact Action.run_bind_of_error looked _

theorem Faithful.bridge_of_legacy (faithful : storage.Faithful capacity) {record : VersionRecord}
    (unrecorded : storage.entry VersionRecord.ofJson recordKey state = .ok none)
    (imported : storage.HasLegacy state record) :
    Legacy.bridge.run storage.backend state =
      (.ok (.imported record), importedBuckets storage record state) := by
  have written := (runs_writeRecord storage.backend state record).run_eq
  rw [faithful.record_eq] at written
  apply (Action.run_bind_of_ok (faithful.run_found unrecorded) _).trans
  apply (Action.run_bind_of_ok (faithful.run_legacy_of_has imported) _).trans
  apply (Action.run_bind_of_ok written _).trans
  apply (Action.run_bind_of_ok (faithful.run_removal Legacy.versionKey _) _).trans
  apply (Action.run_bind_of_ok (faithful.run_removal Legacy.editionKey _) _).trans
  exact Action.run_bind_of_ok (faithful.run_removal Legacy.instanceKey _) _

theorem Faithful.bridge_of_fresh (faithful : storage.Faithful capacity)
    (unrecorded : storage.entry VersionRecord.ofJson recordKey state = .ok none)
    (unnumbered : storage.entry Json.decodeInt64 Legacy.versionKey state = .ok none) :
    Legacy.bridge.run storage.backend state = (.ok .noLegacyData, state) :=
  (Action.run_bind_of_ok (faithful.run_found unrecorded) _).trans
    (Action.run_bind_of_ok (faithful.run_legacy_of_unnumbered unnumbered) _)

/-! ## Having a record -/

variable (migrator : Migrator) (version : Version)

theorem Faithful.bootstrap_of_fresh (faithful : storage.Faithful capacity)
    (unrecorded : storage.entry VersionRecord.ofJson recordKey state = .ok none)
    (unnumbered : storage.entry Json.decodeInt64 Legacy.versionKey state = .ok none) :
    (migrator.bootstrap version).run storage.backend state =
      (.ok .freshInstall, state.write bucket recordKey
        (storage.encode (VersionRecord.fresh version migrator.edition
          migrator.newInstanceId).toJson)) := by
  have written := (runs_writeRecord storage.backend state
    (.fresh version migrator.edition migrator.newInstanceId)).run_eq
  rw [faithful.record_eq] at written
  apply (Action.run_bind_of_ok (faithful.bridge_of_fresh unrecorded unnumbered) _).trans
  exact Action.run_bind_of_ok written _

theorem Faithful.bootstrap_of_startable (faithful : storage.Faithful capacity)
    (startable : storage.Startable state) : ∃ source middle,
      (migrator.bootstrap version).run storage.backend state = (.ok source, middle) := by
  cases startable with
  | versioned recorded legible =>
      exact ⟨_, _, Action.run_bind_of_ok (faithful.bridge_of_versioned recorded legible) _⟩
  | fresh unrecorded unnumbered =>
      exact ⟨_, _, faithful.bootstrap_of_fresh migrator version unrecorded unnumbered⟩
  | legacy unrecorded imported =>
      exact ⟨_, _, Action.run_bind_of_ok (faithful.bridge_of_legacy unrecorded imported) _⟩

theorem Faithful.startable_or_ends (faithful : storage.Faithful capacity) (state : Buckets α) :
    storage.Startable state ∨ ∃ error,
      (migrator.bootstrap version).run storage.backend state = (.error error, state) := by
  have ends : ∀ error, Legacy.bridge.run storage.backend state = (.error error, state) →
      ∃ error, (migrator.bootstrap version).run storage.backend state = (.error error, state) :=
    fun error failed => ⟨error, Action.run_bind_of_error failed _⟩
  cases recorded : storage.entry VersionRecord.ofJson recordKey state with
  | error error =>
      exact .inr (ends _ (Action.run_bind_of_error (faithful.run_unfound recorded) _))
  | ok found =>
  cases found with
  | some record =>
      cases legible : storage.read state bucket Legacy.versionKey with
      | ok residue => exact .inl (.versioned recorded legible)
      | error error =>
          exact .inr (ends (.store error) (faithful.bridge_of_illegible recorded legible))
  | none =>
      rcases faithful.legacy_cases state with unnumbered | ⟨record, imported⟩ | ⟨error, failed⟩
      · exact .inl (.fresh recorded unnumbered)
      · exact .inl (.legacy recorded imported)
      · refine .inr (ends error ?_)
        apply (Action.run_bind_of_ok (faithful.run_found recorded) _).trans
        exact Action.run_bind_of_error failed _

end Faithful

end Storage

/-! ## Running the registry -/

theorem Registry.isUpdating_of_error {storage : Storage σ α} {registry : Registry} {target : String}
    {version : Version} {state final : σ} {error : MigrationError} (spares : registry.Spares bucket)
    (valid : Version.read target = .ok version)
    (raised : (storage.backend (flagRequest true) state).1 = .ok ())
    (ran : (registry.run target).run storage.backend state = (.error error, final)) :
    storage.IsUpdating final := by
  have went := course ⟨ran, rfl⟩
  have safely := failsSafely_of_course spares went
  generalize (registry.run target).history storage.backend state = history at went safely
  have blameless : error.isInvalidTarget = false ∧ ¬ FailsToRaise history := by
    cases went with
    | refused invalid => cases valid.symm.trans invalid
    | notRaised unraised => cases raised.symm.trans unraised
    | unplanned _ _ failed =>
        rw [← List.append_nil (opening storage.backend state)]
        exact ⟨isInvalidTarget_of_unplanned failed, not_failsToRaise_opening [] _ _⟩
    | stopped _ steps =>
        rcases stops_of_runSteps steps with ⟨failing, cause, rfl, _⟩
        exact ⟨rfl, not_failsToRaise_opening _ _ _⟩
    | notStamped _ _ _ => exact ⟨rfl, not_failsToRaise_opening _ _ _⟩
    | notLowered _ _ _ _ => exact ⟨rfl, not_failsToRaise_opening _ _ _⟩
  exact safely.flag_raised blameless.1 blameless.2

/-! ## Planning -/

abbrev Action.OnlyReads (action : Action ε α) : Prop :=
  action.KeepsTo fun request => request.isWrite = false

theorem Action.keepsTo_getAs {allowed : Request → Prop} (decode : Json → Json.Decoded α)
    {bucket key : String} (permitted : allowed (.get bucket key)) :
    (getAs decode bucket key).KeepsTo allowed := by
  have fetch : (get bucket key).KeepsTo allowed := keepsTo_request permitted
  apply keepsTo_bind fetch
  intro found
  split
  · exact keepsTo_pure none
  · split
    · exact keepsTo_pure _
    · exact keepsTo_throw _

theorem Action.onlyReads_getAs (decode : Json → Json.Decoded α) (key : String) :
    (getAs decode bucket key).OnlyReads :=
  keepsTo_getAs decode rfl

theorem Action.onlyReads_find (decode : Json → Json.Decoded α) (key : String) :
    (withError MigrationError.store (getAs decode bucket key)).OnlyReads :=
  keepsTo_withError _ (onlyReads_getAs decode key)

theorem Action.onlyReads_contains (key : String) :
    (withError MigrationError.store (contains bucket key)).OnlyReads := by
  apply keepsTo_withError
  exact keepsTo_bind (keepsTo_request rfl) fun _ => keepsTo_pure _

theorem Legacy.onlyReads_record? : Legacy.record?.OnlyReads := by
  apply Action.keepsTo_bind (Action.onlyReads_find Json.decodeInt64 versionKey)
  intro number
  split
  · exact Action.keepsTo_pure none
  · apply Action.keepsTo_bind (Action.onlyReads_find Json.decodeInt64 editionKey)
    intro edition
    apply Action.keepsTo_bind (Action.keepsTo_ofResult _)
    intro edition
    apply Action.keepsTo_bind (Action.onlyReads_find Json.decodeString instanceKey)
    intro instanceId
    apply Action.keepsTo_bind (Action.keepsTo_ofResult _)
    intro instanceId
    exact Action.keepsTo_bind (Action.keepsTo_ofResult _) fun _ => Action.keepsTo_pure _

theorem Migrator.onlyReads_plan (migrator : Migrator) (target : String) :
    (migrator.plan target).OnlyReads := by
  apply Action.keepsTo_bind (Action.keepsTo_ofResult _)
  intro version
  apply Action.keepsTo_bind
  · apply Action.keepsTo_bind (Action.onlyReads_find VersionRecord.ofJson recordKey)
    intro record
    split
    · exact Action.keepsTo_pure _
    · apply Action.keepsTo_bind Legacy.onlyReads_record?
      intro record
      split
      · exact Action.keepsTo_pure _
      · exact Action.keepsTo_pure _
  · intro start
    exact Action.keepsTo_bind (Action.keepsTo_ofResult _) fun _ => Action.keepsTo_pure _

/-! ## From start to end -/

namespace Storage.Faithful

variable {storage : Storage (Buckets α) α} {capacity : Json.Capacity} {state final : Buckets α}

theorem run_onlyReads (faithful : storage.Faithful capacity) {action : Action ε β}
    (reads : action.OnlyReads) (state : Buckets α) :
    (action.run storage.backend state).2 = state := by
  have kept : ∀ request reached, request.isWrite = false → reached = state →
      (storage.backend request reached).2 = state := by
    rintro request _ harmless rfl
    cases request with
    | get bucket key => rw [faithful.get_eq]
    | listKeys bucket => rw [faithful.list_eq]
    | ensureBucket bucket => cases harmless
    | update bucket key value => cases harmless
    | delete bucket key => cases harmless
  exact ((Action.Runs.total storage.backend action state).preserved reads kept rfl).2

theorem isUpdating_of_failed (faithful : storage.Faithful capacity) {migrator : Migrator}
    {target : String} {version : Version} {error : MigrationError}
    (spares : migrator.registry.Spares bucket) (valid : Version.read target = .ok version)
    (ran : (migrator.run target).run storage.backend state = (.error error, final)) :
    (storage.Startable state → storage.IsUpdating final) ∧
      (¬ storage.Startable state → final = state) := by
  have went := Migrator.course ⟨ran, rfl⟩
  generalize (migrator.run target).history storage.backend state = history at went
  generalize told : (Except.error error : Except MigrationError MigrationOutcome) = result at went
  cases went with
  | refused invalid => cases valid.symm.trans invalid
  | @unrecorded asked cause history after read failed =>
      constructor
      · intro startable
        rcases faithful.bootstrap_of_startable migrator asked startable with ⟨source, middle, had⟩
        cases failed.run_eq.symm.trans had
      · intro unstartable
        rcases faithful.startable_or_ends migrator asked state with startable | ⟨cause, ended⟩
        · exact absurd startable unstartable
        · exact congrArg Prod.snd (failed.run_eq.symm.trans ended)
  | @recorded asked source outcome earlier later middle after read had runs =>
      cases outcome with
      | ok report => cases told
      | error cause =>
          have raised : (storage.backend (flagRequest true) middle).1 = .ok () := by
            rw [faithful.flag_eq]
          constructor
          · intro _
            exact Registry.isUpdating_of_error spares valid raised runs.run_eq
          · intro unstartable
            rcases faithful.startable_or_ends migrator asked state with startable | ⟨other, ended⟩
            · exact absurd startable unstartable
            · cases had.run_eq.symm.trans ended

end Storage.Faithful

end StoreMigration
