import StoreMigration.Proofs.Migration.DryRun
import StoreMigration.Proofs.Version.RoundTrip

/-! Which stores a plan can be made for. Whether the target is a version and whether there is a plan
have nothing to do with each other: where the record is no trouble, a plan for a version fails
exactly for stores that nothing can be planned for, and its error is never put down to the target
(`Storage.Faithful.plan_cases`). -/

namespace StoreMigration

open Bookkeeping

/-! ## Errors of an action -/

namespace Action

variable {backend : Backend σ} {kind : ε → Prop}

def FailsOnly (backend : Backend σ) (kind : ε → Prop) (action : Action ε α) : Prop :=
  ∀ state error history after, action.Runs backend state (.error error) history after → kind error

theorem failsOnly_pure (result : α) : (pure result : Action ε α).FailsOnly backend kind := by
  intro state error history after runs
  cases (runs.unique (.pure result state)).1

theorem failsOnly_ofResult {result : Except ε α}
    (known : ∀ error, result = .error error → kind error) :
    (ofResult result).FailsOnly backend kind := by
  intro state error history after runs
  exact known error (runs.unique (.ofResult rfl state)).1.symm

theorem failsOnly_withError {action : Action ε' α} {change : ε' → ε}
    (changed : ∀ error, kind (change error)) :
    (action.withError change).FailsOnly backend kind := by
  intro state error history after runs
  rcases runs.error_of_withError with ⟨cause, _, rfl⟩
  exact changed cause

theorem failsOnly_bind {action : Action ε α} {rest : α → Action ε β}
    (first : action.FailsOnly backend kind)
    (second : ∀ result, (rest result).FailsOnly backend kind) :
    (action >>= rest).FailsOnly backend kind := by
  intro state error history after runs
  rcases runs.bind_cases with ⟨cause, only, same⟩ | ⟨result, _, middle, later, _, others, _⟩
  · cases same
    exact first state error history after only
  · exact second result middle error later after others

end Action

/-- Legacy keys that do not amount to a record are never put down to the target. -/
theorem Legacy.failsOnly_record? (backend : Backend σ) :
    record?.FailsOnly backend fun error => error.blamesTarget = false := by
  have looked : ∀ {β : Type} (decode : Json → Json.Decoded β) (key : String),
      (Action.withError MigrationError.store (Action.getAs decode bucket key)).FailsOnly backend
        fun error => error.blamesTarget = false :=
    fun _ _ => Action.failsOnly_withError fun _ => rfl
  have demanded : ∀ {β : Type} (key : String) (found : Option β),
      (Action.ofResult (require key found)).FailsOnly backend
        fun error => error.blamesTarget = false := by
    intro β key found
    apply Action.failsOnly_ofResult
    intro error missing
    cases found <;> cases missing
    rfl
  have mapped : ∀ number : Int64, (Action.ofResult (release number)).FailsOnly backend
      fun error => error.blamesTarget = false := by
    intro number
    apply Action.failsOnly_ofResult
    intro error unreleased
    rw [release] at unreleased
    split at unreleased
    · cases unreleased
    split at unreleased
    · cases unreleased
    · cases unreleased
      rfl
  -- The entries in the order in which they are looked for.
  apply Action.failsOnly_bind (looked Json.decodeInt64 versionKey)
  intro number
  cases number with
  | none => exact Action.failsOnly_pure none
  | some number =>
      apply Action.failsOnly_bind (looked Json.decodeInt64 editionKey)
      intro edition
      apply Action.failsOnly_bind (demanded editionKey edition)
      intro edition
      apply Action.failsOnly_bind (looked Json.decodeString instanceKey)
      intro instanceId
      apply Action.failsOnly_bind (demanded instanceKey instanceId)
      intro instanceId
      exact Action.failsOnly_bind (mapped number) fun version => Action.failsOnly_pure _

/-! ## Plans -/

theorem Migrator.run_plan_of_invalid {migrator : Migrator} {target : String} {cause : VersionError}
    {backend : Backend σ} {state : σ} (invalid : Version.read target = .error cause) :
    (migrator.plan target).run backend state = (.error (.invalidTarget target cause), state) := by
  have unread : (Action.ofResult (Registry.parseTarget target)).run backend state =
      (.error (.invalidTarget target cause), state) :=
    congrArg (·, state) (Registry.parseTarget_error invalid)
  exact Action.run_bind_of_error unread _

namespace Storage

/-- No plan can be made for a store, whatever the target: the version in its record does not read,
or there is no record and the legacy keys are there but do not amount to one. -/
inductive Unplannable (storage : Storage σ α) (state : σ) : Prop
  | corrupt {record : VersionRecord} {cause : VersionError}
      (recorded : storage.entry VersionRecord.ofJson recordKey state = .ok (some record))
      (unread : record.parsedVersion = .error cause)
  | legacy (unrecorded : storage.entry VersionRecord.ofJson recordKey state = .ok none)
      (numbered : storage.entry Json.decodeInt64 Legacy.versionKey state ≠ .ok none)
      (incomplete : ∀ record, ¬ storage.HasLegacy state record)

variable {migrator : Migrator} {target : String} {version stored : Version} {source : RecordSource}
  {record : VersionRecord}

theorem Unplannable.congr {storage : Storage σ α} {state other : σ}
    (unplannable : storage.Unplannable other)
    (same : storage.objects state = storage.objects other) : storage.Unplannable state := by
  cases unplannable with
  | corrupt recorded unread => exact .corrupt ((entry_congr same _ _).trans recorded) unread
  | legacy unrecorded numbered incomplete =>
      refine .legacy ((entry_congr same _ _).trans unrecorded) ?_ ?_
      · rwa [entry_congr same]
      · exact fun record has => incomplete record (has.congr same.symm)

theorem StartsFrom.plannable {storage : Storage σ α} {state : σ}
    (starts : storage.StartsFrom migrator version state source record)
    (parsed : record.parsedVersion = .ok stored) : ¬ storage.Unplannable state := by
  intro unplannable
  cases unplannable with
  | corrupt recorded unread =>
      cases starts with
      | existing recordedToo =>
          cases recorded.symm.trans recordedToo
          cases parsed.symm.trans unread
      | legacy unrecorded _ => cases recorded.symm.trans unrecorded
      | fresh unrecorded _ => cases recorded.symm.trans unrecorded
  | legacy unrecorded numbered incomplete =>
      cases starts with
      | existing recorded => cases recorded.symm.trans unrecorded
      | legacy _ has => exact incomplete _ has
      | fresh _ unnumbered => exact numbered unnumbered

theorem HasLegacy.parsed {storage : Storage σ α} {state : σ}
    (has : storage.HasLegacy state record) : ∃ stored, record.parsedVersion = .ok stored := by
  rcases has with ⟨_, _, _, _⟩
  exact ⟨_, Version.read_text _⟩

namespace Faithful

variable {storage : Storage (Buckets α) α} {capacity : Json.Capacity} {state : Buckets α}
  {found : Option VersionRecord}

theorem planned_of_startsFrom (faithful : storage.Faithful capacity)
    (valid : Version.read target = .ok version)
    (starts : storage.StartsFrom migrator version state source record)
    (parsed : ∃ stored, record.parsedVersion = .ok stored) :
    ¬ storage.Unplannable state ∧
      ∃ planned, (migrator.plan target).run storage.backend state = (.ok planned, state) := by
  rcases parsed with ⟨stored, parsed⟩
  have planned := Plan.ofRecord_of_parsed migrator.registry version parsed
  exact ⟨starts.plannable parsed, _, faithful.run_plan valid starts planned⟩

theorem unplanned_of_corrupt (faithful : storage.Faithful capacity) (migrator : Migrator)
    {cause : VersionError} (valid : Version.read target = .ok version)
    (recorded : storage.entry VersionRecord.ofJson recordKey state = .ok (some record))
    (unread : record.parsedVersion = .error cause) :
    (migrator.plan target).run storage.backend state =
      (.error (.corruptVersion record.schemaVersion cause), state) := by
  have starts : storage.StartsFrom migrator version state .existing record := .existing recorded
  have unmade : Plan.ofRecord migrator.registry record version =
      .error (.corruptVersion record.schemaVersion cause) := by
    rw [Plan.ofRecord, unread]
  apply (Action.run_bind_of_ok (congrArg (·, state) (Registry.parseTarget_ok valid)) _).trans
  apply (Action.run_bind_of_ok (faithful.run_startingRecord starts) _).trans
  exact Action.run_bind_of_error (congrArg (·, state) unmade) _

theorem unplanned_of_legacy (faithful : storage.Faithful capacity) (migrator : Migrator)
    {error : MigrationError} (valid : Version.read target = .ok version)
    (unrecorded : storage.entry VersionRecord.ofJson recordKey state = .ok none)
    (failed : Legacy.record?.run storage.backend state = (.error error, state)) :
    (migrator.plan target).run storage.backend state = (.error error, state) := by
  have unstarted : (migrator.startingRecord version).run storage.backend state =
      (.error error, state) :=
    (Action.run_bind_of_ok (faithful.run_found unrecorded) _).trans
      (Action.run_bind_of_error failed _)
  apply (Action.run_bind_of_ok (congrArg (·, state) (Registry.parseTarget_ok valid)) _).trans
  exact Action.run_bind_of_error unstarted _

/-- Where the record is no trouble, a plan for a version is made exactly for stores for which one
can be made, and it is never the target that keeps it from being made. -/
theorem plan_cases (faithful : storage.Faithful capacity) (migrator : Migrator)
    (readable : storage.entry VersionRecord.ofJson recordKey state = .ok found)
    (valid : Version.read target = .ok version) :
    (¬ storage.Unplannable state ∧
        ∃ planned, (migrator.plan target).run storage.backend state = (.ok planned, state)) ∨
      storage.Unplannable state ∧ ∃ error, error.blamesTarget = false ∧
        (migrator.plan target).run storage.backend state = (.error error, state) := by
  cases found with
  | some record =>
      cases parsed : record.parsedVersion with
      | ok stored =>
          exact .inl (faithful.planned_of_startsFrom valid (.existing readable) ⟨stored, parsed⟩)
      | error cause =>
          have unplanned := faithful.unplanned_of_corrupt migrator valid readable parsed
          exact .inr ⟨.corrupt readable parsed, _, rfl, unplanned⟩
  | none =>
      rcases faithful.legacy_cases state with unnumbered | ⟨record, has⟩ | ⟨error, failed⟩
      · exact .inl (faithful.planned_of_startsFrom valid (.fresh readable unnumbered)
          ⟨version, Version.read_text version⟩)
      · exact .inl (faithful.planned_of_startsFrom valid (.legacy readable has) has.parsed)
      · have blameless := Legacy.failsOnly_record? storage.backend state error _ state ⟨failed, rfl⟩
        have unplanned := faithful.unplanned_of_legacy migrator valid readable failed
        refine .inr ⟨.legacy readable ?_ ?_, error, blameless, unplanned⟩
        · intro unnumbered
          cases failed.symm.trans (faithful.run_legacy_of_unnumbered unnumbered)
        · intro record has
          cases failed.symm.trans (faithful.run_legacy_of_has has)

end Faithful

end Storage

end StoreMigration
