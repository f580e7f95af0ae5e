import StoreMigration.Proofs.Migration.Bridge
import StoreMigration.Proofs.Migration.Rerun

/-! What the flag tells of all that was done to a store before. Operations are performed one
after the other, each on the store that the one before it left, and any of their calls may
fail. Only a migration that gets past its record touches the flag, so where it was raised and
is down again, the last migration that raised it has completed and what it stamped is stored. -/

namespace StoreMigration

open Bookkeeping

/-! ## Operations -/

/-- What a user of a store can ask for. The edition and the id are told from the record. -/
inductive Operation where
  | migrate (migrator : Migrator) (target : String)
  | plan (migrator : Migrator) (target : String)
  | setInstanceId (instanceId : String)
  | prepare
  | record
  | record?
  | isUpdating

namespace Operation

def action : Operation → Action MigrationError (Option Report)
  | migrate migrator target => do return some (← migrator.run target).report
  | plan migrator target => do let _ ← migrator.plan target; return none
  | setInstanceId instanceId => do let _ ← Bookkeeping.setInstanceId instanceId; return none
  | prepare => do Migrator.prepare; return none
  | record => do let _ ← Bookkeeping.record; return none
  | record? => do let _ ← Action.withError .store Bookkeeping.record?; return none
  | isUpdating => do let _ ← Action.withError .store Bookkeeping.isUpdating; return none

def Spares (bucket : String) : Operation → Prop
  | migrate migrator _ => migrator.registry.Spares bucket
  | _ => True

end Operation

structure Performed (σ : Type) where
  operation : Operation
  outcome : Except MigrationError (Option Report)
  history : List (Exchange σ)
  after : σ

namespace Performed

def Raises (performed : Performed σ) : Prop :=
  ∃ exchange ∈ performed.history, exchange.request = flagRequest true ∧ exchange.succeeded = true

def Completes (performed : Performed σ) : Prop :=
  ∃ report, performed.outcome = .ok (some report)

end Performed

inductive Session (backend : Backend σ) : σ → List (Performed σ) → σ → Prop
  | none {state : σ} : Session backend state [] state
  | next {operation : Operation} {outcome : Except MigrationError (Option Report)}
      {history : List (Exchange σ)} {state middle final : σ} {rest : List (Performed σ)}
      (first : operation.action.Runs backend state outcome history middle)
      (others : Session backend middle rest final) :
      Session backend state (⟨operation, outcome, history, middle⟩ :: rest) final

theorem Session.split {backend : Backend σ} {start final : σ} {earlier later : List (Performed σ)}
    (session : Session backend start (earlier ++ later) final) :
    ∃ middle, Session backend start earlier middle ∧ Session backend middle later final := by
  induction earlier generalizing start with
  | nil => exact ⟨start, .none, session⟩
  | cons one rest induction =>
      cases session with
      | next first others =>
          rcases induction others with ⟨middle, front, back⟩
          exact ⟨middle, .next first front, back⟩

/-! ## What a session promises -/

def Storage.IsLowered (storage : Storage σ α) (state : σ) : Prop :=
  ∃ flag, storage.entry Json.decodeBool updatingKey state = .ok flag ∧ flag.getD false = false

inductive Stamped (storage : Storage σ α) : Performed σ → VersionRecord → Prop
  | intro {migrator : Migrator} {target : String} {version : Version} {report : Report}
      {record : VersionRecord} {history : List (Exchange σ)} {after : σ}
      (valid : Version.read target = .ok version)
      (versioned : record.schemaVersion = version.text)
      (counted : record.replayCount = report.replayCount)
      (stored : storage.recordObject after = some (storage.encode record.toJson)) :
      Stamped storage ⟨.migrate migrator target, .ok (some report), history, after⟩ record

/-- The flag is up after each call but the last one of a migration that completes. -/
structure KeepsRaised (storage : Storage σ α) (performed : Performed σ) : Prop where
  throughout : ∀ before exchange rest, performed.history = before ++ exchange :: rest →
    storage.IsUpdating exchange.after ∨ (rest = [] ∧ performed.Completes)
  left : ¬ performed.Completes → storage.IsUpdating performed.after

structure Honest (storage : Storage σ α) (performed : List (Performed σ)) (final : σ) : Prop where
  lowered : (∃ one ∈ performed, one.Raises) → storage.IsLowered final →
    ∃ earlier last later record instanceId, performed = earlier ++ last :: later ∧
      last.Raises ∧ (∀ other ∈ later, ¬ other.Raises) ∧ Stamped storage last record ∧
      storage.recordObject final =
        some (storage.encode { record with instanceId := instanceId }.toJson)
  raised : ∀ earlier failed later, performed = earlier ++ failed :: later →
    failed.Raises → ¬ failed.Completes →
      storage.IsUpdating failed.after ∧
        ∀ between next rest, later = between ++ next :: rest →
          (∀ other ∈ between, ¬ other.Completes) → KeepsRaised storage next

/-! ## Operations that leave the flag alone -/

section Leaving

theorem leaves_of_onlyReads {action : Action ε β} {other key : String} (reads : action.OnlyReads) :
    action.KeepsTo (Request.Leaves other key) :=
  Program.keepsTo_mono reads fun _ => Request.leaves_of_harmless other key

theorem leavesFlag_writeRecord (record : VersionRecord) :
    (persist recordKey (writeRecord record)).KeepsTo (Request.Leaves bucket updatingKey) := by
  have apart : (recordRequest record).Leaves bucket updatingKey := .inr (by decide)
  exact Action.keepsTo_withError _ (Action.keepsTo_request apart)

theorem onlyReads_record : Bookkeeping.record.OnlyReads := by
  apply Action.keepsTo_bind (Action.onlyReads_find VersionRecord.ofJson recordKey)
  intro found
  split
  · exact Action.keepsTo_pure _
  · exact Action.keepsTo_throw _

theorem onlyReads_isUpdating : Bookkeeping.isUpdating.OnlyReads :=
  Action.keepsTo_bind (Action.onlyReads_getAs Json.decodeBool updatingKey)
    fun _ => Action.keepsTo_pure _

theorem leavesFlag_removal (key : String) (other : key ≠ updatingKey) :
    (Action.ignoringError (Action.delete bucket key) : Action MigrationError Unit).KeepsTo
      (Request.Leaves bucket updatingKey) := by
  have apart : (Request.delete bucket key).Leaves bucket updatingKey := .inr other
  exact Action.keepsTo_ignoringError (Action.keepsTo_request apart)

theorem Legacy.leavesFlag_bridge : Legacy.bridge.KeepsTo (Request.Leaves bucket updatingKey) := by
  apply Action.keepsTo_bind
    (leaves_of_onlyReads (Action.onlyReads_find VersionRecord.ofJson recordKey))
  intro found
  split
  · apply Action.keepsTo_bind (leaves_of_onlyReads (Action.onlyReads_contains versionKey))
    exact fun _ => Action.keepsTo_pure _
  · apply Action.keepsTo_bind (leaves_of_onlyReads onlyReads_record?)
    intro legacy
    split
    · exact Action.keepsTo_pure _
    · apply Action.keepsTo_bind (leavesFlag_writeRecord _)
      intro _
      apply Action.keepsTo_bind (leavesFlag_removal versionKey (by decide))
      intro _
      apply Action.keepsTo_bind (leavesFlag_removal editionKey (by decide))
      intro _
      apply Action.keepsTo_bind (leavesFlag_removal instanceKey (by decide))
      exact fun _ => Action.keepsTo_pure _

theorem Migrator.leavesFlag_bootstrap (migrator : Migrator) (version : Version) :
    (migrator.bootstrap version).KeepsTo (Request.Leaves bucket updatingKey) := by
  apply Action.keepsTo_bind Legacy.leavesFlag_bridge
  intro outcome
  cases outcome with
  | alreadyVersioned => exact Action.keepsTo_pure _
  | imported record => exact Action.keepsTo_pure _
  | noLegacyData =>
      exact Action.keepsTo_bind (leavesFlag_writeRecord _) fun _ => Action.keepsTo_pure _

theorem Operation.leavesFlag {operation : Operation}
    (other : ∀ migrator target, operation ≠ .migrate migrator target) :
    operation.action.KeepsTo (Request.Leaves bucket updatingKey) := by
  cases operation with
  | migrate migrator target => exact absurd rfl (other migrator target)
  | plan migrator target =>
      exact Action.keepsTo_bind (leaves_of_onlyReads (migrator.onlyReads_plan target))
        fun _ => Action.keepsTo_pure _
  | setInstanceId instanceId =>
      have changes : (Bookkeeping.setInstanceId instanceId).KeepsTo
          (Request.Leaves bucket updatingKey) := by
        apply Action.keepsTo_bind (leaves_of_onlyReads onlyReads_record)
        intro record
        exact Action.keepsTo_bind (leavesFlag_writeRecord _) fun _ => Action.keepsTo_pure _
      exact Action.keepsTo_bind changes fun _ => Action.keepsTo_pure _
  | prepare =>
      have ensures : Migrator.prepare.KeepsTo (Request.Leaves bucket updatingKey) :=
        Action.keepsTo_withError _ (Action.keepsTo_request trivial)
      exact Action.keepsTo_bind ensures fun _ => Action.keepsTo_pure _
  | record =>
      exact Action.keepsTo_bind (leaves_of_onlyReads onlyReads_record)
        fun _ => Action.keepsTo_pure _
  | record? =>
      exact Action.keepsTo_bind
        (leaves_of_onlyReads (Action.onlyReads_find VersionRecord.ofJson recordKey))
        fun _ => Action.keepsTo_pure _
  | isUpdating =>
      exact Action.keepsTo_bind (leaves_of_onlyReads (Action.keepsTo_withError _ onlyReads_isUpdating))
        fun _ => Action.keepsTo_pure _

end Leaving

/-! ## With the flag up -/

section Updating

variable {storage : Storage σ α} {state after : σ} {history : List (Exchange σ)}

theorem runs_of_migrate {backend : Backend σ} {migrator : Migrator} {target : String}
    {outcome : Except MigrationError (Option Report)}
    (runs : (Operation.migrate migrator target).action.Runs backend state outcome history after) :
    ∃ own, (migrator.run target).Runs backend state own history after ∧
      outcome = own.map fun migrated => some migrated.report := by
  rcases runs.bind_cases with ⟨error, ran, rfl⟩ | ⟨result, made, middle, later, ran, last, rfl⟩
  · exact ⟨_, ran, rfl⟩
  · rcases last.unique (.pure _ _) with ⟨rfl, rfl, rfl⟩
    rw [List.append_nil]
    exact ⟨_, ran, rfl⟩

theorem Registry.isUpdating_of_failure {registry : Registry} {target : String}
    {error : MigrationError} (spares : registry.Spares bucket)
    (course : Registry.Course storage.backend registry target state (.error error) history after)
    (updating : storage.IsUpdating state) : storage.IsUpdating after := by
  have safely := failsSafely_of_course spares course
  by_cases idle : error.isInvalidTarget = true ∨ FailsToRaise history
  · exact Storage.isUpdating_congr (congrFun (congrFun (safely.untouched idle) bucket) updatingKey)
      updating
  · rw [not_or, Bool.not_eq_true] at idle
    exact safely.flag_raised idle.1 idle.2

theorem keepsRaised_of_leftAlone {operation : Operation}
    {outcome : Except MigrationError (Option Report)} (updating : storage.IsUpdating state)
    (throughout : ∀ exchange ∈ history, storage.objects exchange.after bucket updatingKey =
      storage.objects state bucket updatingKey)
    (left : storage.objects after bucket updatingKey = storage.objects state bucket updatingKey) :
    KeepsRaised storage ⟨operation, outcome, history, after⟩ := by
  constructor
  · rintro before exchange rest rfl
    exact .inl (Storage.isUpdating_congr (throughout exchange List.mem_append_cons_self) updating)
  · intro _
    exact Storage.isUpdating_congr left updating

theorem keepsRaised_of_migrate {migrator : Migrator} {target : String}
    {outcome : Except MigrationError (Option Report)} (spares : migrator.registry.Spares bucket)
    (updating : storage.IsUpdating state)
    (runs : (Operation.migrate migrator target).action.Runs storage.backend state outcome history
      after) :
    KeepsRaised storage ⟨.migrate migrator target, outcome, history, after⟩ := by
  rcases runs_of_migrate runs with ⟨own, ran, rfl⟩
  cases Migrator.course ran with
  | refused invalid =>
      exact keepsRaised_of_leftAlone updating (fun _ member => absurd member List.not_mem_nil) rfl
  | @unrecorded version error history after valid failed =>
      rcases storage.leftAlone (migrator.leavesFlag_bootstrap version) failed with ⟨throughout, left⟩
      exact keepsRaised_of_leftAlone updating throughout left
  | @recorded version source result earlier later middle after valid had run =>
      rcases storage.leftAlone (migrator.leavesFlag_bootstrap version) had with ⟨throughout, left⟩
      have updatingStill : storage.IsUpdating middle := Storage.isUpdating_congr left updating
      constructor
      · intro before exchange rest split
        rcases split_of_append split.symm with ⟨between, rfl, _⟩ | ⟨front, _, inLater⟩
        · have kept := throughout exchange List.mem_append_cons_self
          exact .inl (Storage.isUpdating_congr kept updating)
        · rcases Registry.guarded_of_course spares (Registry.course run) inLater with
            unchanged | up | ⟨last, report, rfl⟩
          · exact .inl (Storage.isUpdating_congr
              (congrFun (congrFun unchanged bucket) updatingKey) updatingStill)
          · exact .inl up
          · exact .inr ⟨last, report, rfl⟩
      · intro incomplete
        cases result with
        | ok report => exact absurd ⟨report, rfl⟩ incomplete
        | error error =>
            exact Registry.isUpdating_of_failure spares (Registry.course run) updatingStill

theorem keepsRaised_of_updating {operation : Operation}
    {outcome : Except MigrationError (Option Report)} (spares : operation.Spares bucket)
    (updating : storage.IsUpdating state)
    (runs : operation.action.Runs storage.backend state outcome history after) :
    KeepsRaised storage ⟨operation, outcome, history, after⟩ := by
  by_cases other : ∀ migrator target, operation ≠ .migrate migrator target
  · rcases storage.leftAlone (Operation.leavesFlag other) runs with ⟨throughout, left⟩
    exact keepsRaised_of_leftAlone updating throughout left
  · cases operation with
    | migrate migrator target => exact keepsRaised_of_migrate spares updating runs
    | _ => exact absurd nofun other

end Updating

/-! ## Raising the flag -/

section Raising

variable {storage : Storage σ α} {state after : σ} {history : List (Exchange σ)}
  {operation : Operation} {outcome : Except MigrationError (Option Report)}

theorem succeeded_of_granted {backend : Backend σ} {request : Request} {answer : request.Answer}
    (granted : (backend request state).1 = .ok answer) :
    (backend.exchange request state).succeeded = true := by
  simp only [Exchange.succeeded, Backend.exchange, granted]

theorem raises_of_opening {backend : Backend σ}
    (raised : (backend (flagRequest true) state).1 = .ok ()) (later : List (Exchange σ)) :
    ∃ exchange ∈ Registry.opening backend state ++ later,
      exchange.request = flagRequest true ∧ exchange.succeeded = true :=
  ⟨_, List.mem_append_left later List.mem_cons_self, rfl, succeeded_of_granted raised⟩

/-- A registry run raises the flag with its first call or not at all. -/
theorem Registry.raised_or_unchanged {registry : Registry} {target : String}
    {result : Except MigrationError Report}
    (course : Registry.Course storage.backend registry target state result history after) :
    ((storage.backend (flagRequest true) state).1 = .ok () ∧
      ∃ exchange ∈ history, exchange.request = flagRequest true ∧ exchange.succeeded = true) ∨
    ((∀ exchange ∈ history, exchange.request = flagRequest true → exchange.succeeded = false) ∧
      storage.objects after = storage.objects state) := by
  cases course with
  | refused invalid => exact .inr ⟨fun _ member => absurd member List.not_mem_nil, rfl⟩
  | notRaised unraised =>
      refine .inr ⟨?_, storage.refused unraised⟩
      intro exchange member _
      cases List.mem_singleton.mp member
      simp only [Exchange.succeeded, Backend.exchange, unraised]
  | unplanned valid raised failed =>
      rw [← List.append_nil (Registry.opening storage.backend state)]
      exact .inl ⟨raised, raises_of_opening raised []⟩
  | stopped begun steps =>
      exact .inl ⟨begun.raised, raises_of_opening begun.raised _⟩
  | notStamped begun steps unwritten =>
      exact .inl ⟨begun.raised, raises_of_opening begun.raised _⟩
  | notLowered begun steps written unlowered =>
      exact .inl ⟨begun.raised, raises_of_opening begun.raised _⟩
  | completed begun steps written cleared =>
      exact .inl ⟨begun.raised, raises_of_opening begun.raised _⟩

theorem not_raises_of_leaving {action : Action ε β} {backend : Backend σ} {result : Except ε β}
    (leaves : action.KeepsTo (Request.Leaves bucket updatingKey))
    (runs : action.Runs backend state result history after) {exchange : Exchange σ}
    (member : exchange ∈ history) : exchange.request ≠ flagRequest true := by
  intro raises
  have allowed := runs.keepsTo leaves member
  rw [raises] at allowed
  rcases allowed with elsewhere | other
  · exact elsewhere rfl
  · exact other rfl

theorem isUpdating_of_raised (spares : operation.Spares bucket)
    (runs : operation.action.Runs storage.backend state outcome history after)
    (raises : Performed.Raises ⟨operation, outcome, history, after⟩)
    (incomplete : ¬ Performed.Completes ⟨operation, outcome, history, after⟩) :
    storage.IsUpdating after := by
  rcases raises with ⟨exchange, member, raises, granted⟩
  by_cases other : ∀ migrator target, operation ≠ .migrate migrator target
  · exact absurd raises (not_raises_of_leaving (Operation.leavesFlag other) runs member)
  cases operation with
  | migrate migrator target =>
      rcases runs_of_migrate runs with ⟨own, ran, rfl⟩
      cases Migrator.course ran with
      | refused invalid => cases member
      | unrecorded valid failed =>
          exact absurd raises (not_raises_of_leaving (migrator.leavesFlag_bootstrap _) failed member)
      | @recorded version source result earlier later middle after valid had run =>
          have inLater : exchange ∈ later := by
            rcases List.mem_append.mp member with inEarlier | inLater
            · exact absurd raises
                (not_raises_of_leaving (migrator.leavesFlag_bootstrap _) had inEarlier)
            · exact inLater
          cases result with
          | ok report => exact absurd ⟨report, rfl⟩ incomplete
          | error error =>
              rcases Registry.raised_or_unchanged (Registry.course run) with
                ⟨raised, _⟩ | ⟨unraised, _⟩
              · exact Registry.isUpdating_of_error spares valid raised run.run_eq
              · rw [unraised exchange inLater raises] at granted
                cases granted
  | _ => exact absurd nofun other

theorem runs_of_untold {backend : Backend σ} {action : Action MigrationError β}
    (runs : (action >>= fun _ => pure none : Action MigrationError (Option Report)).Runs backend
      state outcome history after) :
    (∃ own, action.Runs backend state own history after) ∧ ∀ report, outcome ≠ .ok (some report) := by
  rcases runs.bind_cases with ⟨error, ran, rfl⟩ | ⟨result, made, middle, later, ran, last, rfl⟩
  · exact ⟨⟨_, ran⟩, nofun⟩
  · rcases last.unique (.pure _ _) with ⟨rfl, rfl, rfl⟩
    rw [List.append_nil]
    exact ⟨⟨_, ran⟩, nofun⟩

theorem stamped_of_completed (runs : operation.action.Runs storage.backend state outcome history after)
    (completes : Performed.Completes ⟨operation, outcome, history, after⟩) :
    ∃ record, Stamped storage ⟨operation, outcome, history, after⟩ record := by
  rcases completes with ⟨report, rfl⟩
  cases operation with
  | migrate migrator target =>
      rcases runs_of_migrate runs with ⟨own, ran, told⟩
      cases own with
      | error error => cases told
      | ok migrated =>
          cases told
          rcases Migrator.ran_of_ok ran.run_eq with ⟨middle, completed⟩
          rcases Registry.finished_of_ok completed with
            ⟨version, record, plan, _, _, reached, begun, _, _, written, cleared, rfl, reported⟩
          rcases Registry.parsed_of_ofRecord begun.planned with ⟨stored, _, rfl⟩
          refine ⟨Registry.stamp record (Plan.make migrator.registry stored record version),
            .intro begun.valid rfl (congrArg Report.replayCount reported).symm ?_⟩
          exact (Storage.recordObject_flag false).trans (Storage.recordObject_written written)
  | plan migrator target => exact absurd rfl ((runs_of_untold runs).2 report)
  | setInstanceId instanceId => exact absurd rfl ((runs_of_untold runs).2 report)
  | prepare => exact absurd rfl ((runs_of_untold runs).2 report)
  | record => exact absurd rfl ((runs_of_untold runs).2 report)
  | record? => exact absurd rfl ((runs_of_untold runs).2 report)
  | isUpdating => exact absurd rfl ((runs_of_untold runs).2 report)

end Raising

/-! ## With the flag as it is -/

section Unraised

variable {storage : Storage σ α} {state after : σ} {history : List (Exchange σ)}
  {operation : Operation} {outcome : Except MigrationError (Option Report)} {record : VersionRecord}

theorem flag_of_unraised (runs : operation.action.Runs storage.backend state outcome history after)
    (unraised : ¬ Performed.Raises ⟨operation, outcome, history, after⟩) :
    storage.objects after bucket updatingKey = storage.objects state bucket updatingKey := by
  by_cases other : ∀ migrator target, operation ≠ .migrate migrator target
  · exact (storage.leftAlone (Operation.leavesFlag other) runs).2
  cases operation with
  | migrate migrator target =>
      rcases runs_of_migrate runs with ⟨own, ran, rfl⟩
      cases Migrator.course ran with
      | refused invalid => rfl
      | unrecorded valid failed =>
          exact (storage.leftAlone (migrator.leavesFlag_bootstrap _) failed).2
      | @recorded version source result earlier later middle after valid had run =>
          have kept := (storage.leftAlone (migrator.leavesFlag_bootstrap _) had).2
          rcases Registry.raised_or_unchanged (Registry.course run) with
            ⟨_, exchange, member, raises, granted⟩ | ⟨_, unchanged⟩
          · exact absurd ⟨exchange, List.mem_append_right earlier member, raises, granted⟩ unraised
          · rw [unchanged]
            exact kept
  | _ => exact absurd nofun other

theorem looks_of_bootstrap {migrator : Migrator} {version : Version}
    {result : Except MigrationError RecordSource}
    (recorded : storage.entry VersionRecord.ofJson recordKey state = .ok (some record))
    (runs : (migrator.bootstrap version).Runs storage.backend state result history after) :
    storage.Looks state history after := by
  rcases runs.bind_cases with ⟨error, bridged, rfl⟩ | ⟨found, made, middle, later, bridged, last, rfl⟩
  · cases Legacy.course bridged with
    | failed looks => exact looks
    | notPersisted unrecorded _ _ _ => cases recorded.symm.trans unrecorded
  · cases Legacy.course bridged with
    | versioned _ looks =>
        rcases last.unique (.pure _ _) with ⟨rfl, rfl, rfl⟩
        rw [List.append_nil]
        exact looks
    | unnumbered unrecorded _ _ => cases recorded.symm.trans unrecorded
    | imported unrecorded _ _ _ _ => cases recorded.symm.trans unrecorded

theorem changed_of_setInstanceId {instanceId : String}
    {result : Except MigrationError VersionRecord}
    (runs : (Bookkeeping.setInstanceId instanceId).Runs storage.backend state result history after) :
    ((∃ error, result = .error error) ∧ storage.recordObject after = storage.recordObject state) ∨
      ∃ record, result = .ok { record with instanceId := instanceId } ∧
        storage.record state = .ok record ∧
        storage.recordObject after =
          some (storage.encode { record with instanceId := instanceId }.toJson) := by
  rcases runs.bind_cases with
    ⟨error, fetch, rfl⟩ | ⟨found, made, middle, later, fetch, onceFound, rfl⟩
  · exact .inl ⟨⟨error, rfl⟩, (Storage.looks_of_onlyReads onlyReads_record fetch).recordObject⟩
  have looks := Storage.looks_of_onlyReads onlyReads_record fetch
  have readable : storage.record state = .ok found := by
    rcases fetch.unique (runs_record storage.backend state) with ⟨told, _, _⟩
    cases response : (storage.backend fetchRequest state).1 with
    | error error =>
        rw [response] at told
        cases told
    | ok answer =>
        rw [response, Storage.recordOf_fetch response] at told
        exact told.symm
  have write := runs_writeRecord storage.backend middle { found with instanceId := instanceId }
  cases written : (storage.backend
      (recordRequest { found with instanceId := instanceId }) middle).1 with
  | error cause =>
      rw [written] at write
      rcases onceFound.of_bind_error write with ⟨rfl, rfl, rfl⟩
      exact .inl ⟨⟨_, rfl⟩, (Storage.recordObject_refused written).trans looks.recordObject⟩
  | ok answer =>
      rw [written] at write
      rcases onceFound.of_bind_ok write with ⟨_, rfl, last⟩
      rcases last.unique (.pure _ _) with ⟨rfl, rfl, rfl⟩
      exact .inr ⟨found, rfl, readable, Storage.recordObject_written written⟩

theorem record_of_setInstanceId {instanceId : String}
    {result : Except MigrationError VersionRecord}
    (stored : storage.recordObject state = some (storage.encode record.toJson))
    (runs : (Bookkeeping.setInstanceId instanceId).Runs storage.backend state result history after) :
    ∃ changed, storage.recordObject after =
      some (storage.encode { record with instanceId := changed }.toJson) := by
  rcases changed_of_setInstanceId runs with ⟨_, kept⟩ | ⟨found, _, readable, written⟩
  · exact ⟨record.instanceId, kept.trans stored⟩
  · cases readable.symm.trans (Storage.record_of_encoded stored)
    exact ⟨instanceId, written⟩

/-- An operation that does not raise the flag changes of a stored record at most the id. -/
theorem record_of_unraised
    (stored : storage.recordObject state = some (storage.encode record.toJson))
    (runs : operation.action.Runs storage.backend state outcome history after)
    (unraised : ¬ Performed.Raises ⟨operation, outcome, history, after⟩) :
    ∃ instanceId, storage.recordObject after =
      some (storage.encode { record with instanceId := instanceId }.toJson) := by
  have unchanged : storage.recordObject after = storage.recordObject state →
      ∃ instanceId, storage.recordObject after =
        some (storage.encode { record with instanceId := instanceId }.toJson) :=
    fun same => ⟨record.instanceId, same.trans stored⟩
  have onlyLooks : ∀ {β : Type} {action : Action MigrationError β}, action.OnlyReads →
      (∃ own, action.Runs storage.backend state own history after) →
        storage.recordObject after = storage.recordObject state := by
    rintro β action reads ⟨own, ran⟩
    exact (Storage.looks_of_onlyReads reads ran).recordObject
  cases operation with
  | migrate migrator target =>
      apply unchanged
      rcases runs_of_migrate runs with ⟨own, ran, rfl⟩
      have recorded := Storage.entry_of_recorded stored
      cases Migrator.course ran with
      | refused invalid => rfl
      | unrecorded valid failed =>
          exact (looks_of_bootstrap recorded failed).recordObject
      | @recorded version source result earlier later middle after valid had run =>
          -- A run that did not get to raise the flag has written nothing at all.
          rcases Registry.raised_or_unchanged (Registry.course run) with
            ⟨_, exchange, member, raises, granted⟩ | ⟨_, same⟩
          · exact absurd ⟨exchange, List.mem_append_right earlier member, raises, granted⟩ unraised
          · rw [Storage.recordObject, same, (looks_of_bootstrap recorded had).left]
            rfl
  | setInstanceId instanceId =>
      rcases (runs_of_untold runs).1 with ⟨own, ran⟩
      exact record_of_setInstanceId stored ran
  | prepare =>
      rcases (runs_of_untold runs).1 with ⟨own, ran⟩
      have leaves : Migrator.prepare.KeepsTo (Request.Leaves bucket recordKey) :=
        Action.keepsTo_withError _ (Action.keepsTo_request trivial)
      exact unchanged (storage.leftAlone leaves ran).2
  | plan migrator target =>
      exact unchanged (onlyLooks (migrator.onlyReads_plan target) (runs_of_untold runs).1)
  | record => exact unchanged (onlyLooks onlyReads_record (runs_of_untold runs).1)
  | record? =>
      exact unchanged (onlyLooks (Action.onlyReads_find VersionRecord.ofJson recordKey)
        (runs_of_untold runs).1)
  | isUpdating =>
      exact unchanged (onlyLooks (Action.keepsTo_withError _ onlyReads_isUpdating)
        (runs_of_untold runs).1)

end Unraised

/-! ## Whole sessions -/

namespace Session

variable {storage : Storage σ α} {start final : σ} {performed : List (Performed σ)}

theorem flag_of_unraised (session : Session storage.backend start performed final)
    (unraised : ∀ one ∈ performed, ¬ one.Raises) :
    storage.objects final bucket updatingKey = storage.objects start bucket updatingKey := by
  induction session with
  | none => rfl
  | next first others induction =>
      have kept := StoreMigration.flag_of_unraised first (unraised _ List.mem_cons_self)
      exact (induction fun one member => unraised one (List.mem_cons_of_mem _ member)).trans kept

theorem record_of_unraised {record : VersionRecord}
    (session : Session storage.backend start performed final)
    (unraised : ∀ one ∈ performed, ¬ one.Raises)
    (stored : storage.recordObject start = some (storage.encode record.toJson)) :
    ∃ instanceId, storage.recordObject final =
      some (storage.encode { record with instanceId := instanceId }.toJson) := by
  induction session generalizing record with
  | none => exact ⟨record.instanceId, stored⟩
  | next first others induction =>
      rcases StoreMigration.record_of_unraised stored first (unraised _ List.mem_cons_self) with
        ⟨_, storedThen⟩
      have later := induction (fun one member => unraised one (List.mem_cons_of_mem _ member))
        storedThen
      exact later

theorem isUpdating_of_incomplete (session : Session storage.backend start performed final)
    (spares : ∀ one ∈ performed, one.operation.Spares bucket)
    (incomplete : ∀ one ∈ performed, ¬ one.Completes) (updating : storage.IsUpdating start) :
    storage.IsUpdating final := by
  induction session with
  | none => exact updating
  | next first others induction =>
      have kept := keepsRaised_of_updating (spares _ List.mem_cons_self) updating first
      have updatingThen := kept.left (incomplete _ List.mem_cons_self)
      exact induction (fun one member => spares one (List.mem_cons_of_mem _ member))
        (fun one member => incomplete one (List.mem_cons_of_mem _ member)) updatingThen

theorem keepsRaised {earlier later : List (Performed σ)} {next : Performed σ}
    (session : Session storage.backend start (earlier ++ next :: later) final)
    (spares : ∀ one ∈ earlier ++ next :: later, one.operation.Spares bucket)
    (incomplete : ∀ one ∈ earlier, ¬ one.Completes) (updating : storage.IsUpdating start) :
    KeepsRaised storage next := by
  rcases session.split with ⟨middle, front, back⟩
  have updatingThen := front.isUpdating_of_incomplete
    (fun one member => spares one (List.mem_append_left _ member)) incomplete updating
  cases back with
  | next first others =>
      exact keepsRaised_of_updating (spares _ List.mem_append_cons_self) updatingThen first

theorem exists_last_raise (raises : ∃ one ∈ performed, one.Raises) :
    ∃ earlier last later, performed = earlier ++ last :: later ∧ last.Raises ∧
      ∀ other ∈ later, ¬ other.Raises := by
  induction performed with
  | nil =>
      rcases raises with ⟨one, member, _⟩
      cases member
  | cons head rest induction =>
      by_cases among : ∃ one ∈ rest, one.Raises
      · rcases induction among with ⟨earlier, last, later, rfl, raised, after⟩
        exact ⟨head :: earlier, last, later, rfl, raised, after⟩
      · rcases raises with ⟨one, member, raised⟩
        rcases List.mem_cons.mp member with rfl | member
        · exact ⟨[], one, rest, rfl, raised, fun other late raisedToo => among ⟨other, late, raisedToo⟩⟩
        · exact absurd ⟨one, member, raised⟩ among

theorem not_isUpdating_of_lowered (lowered : storage.IsLowered final) :
    ¬ storage.IsUpdating final := by
  rw [Storage.isUpdating_iff_entry]
  rcases lowered with ⟨flag, known, down⟩
  intro up
  cases known.symm.trans up
  cases down

/-- Whatever was done to a store, its flag tells the truth about it. -/
theorem honest (session : Session storage.backend start performed final)
    (spares : ∀ one ∈ performed, one.operation.Spares bucket) :
    Honest storage performed final := by
  constructor
  · intro raises lowered
    -- After the last raise nothing moves the flag but the run that raised it. Had that run not
    -- completed, the flag would be up.
    rcases exists_last_raise raises with ⟨earlier, last, later, rfl, raised, unraised⟩
    rcases session.split with ⟨before, _, back⟩
    cases back with
    | @next operation outcome history _ middle _ _ first others =>
        have completes : Performed.Completes ⟨operation, outcome, history, middle⟩ := by
          by_contra incomplete
          have up := isUpdating_of_raised (spares _ List.mem_append_cons_self) first raised incomplete
          apply not_isUpdating_of_lowered lowered
          exact Storage.isUpdating_congr (others.flag_of_unraised unraised) up
        rcases stamped_of_completed first completes with ⟨record, stamped⟩
        have stored : storage.recordObject middle = some (storage.encode record.toJson) := by
          cases stamped with
          | intro _ _ _ stored => exact stored
        rcases others.record_of_unraised unraised stored with ⟨instanceId, storedStill⟩
        exact ⟨earlier, _, later, record, instanceId, rfl, raised, unraised, stamped, storedStill⟩
  · rintro earlier failed later rfl raised incomplete
    rcases session.split with ⟨before, _, back⟩
    cases back with
    | next first others =>
        have up := isUpdating_of_raised (spares _ List.mem_append_cons_self) first raised incomplete
        refine ⟨up, ?_⟩
        rintro between next rest rfl incompleteBetween
        have sparesThen : ∀ one ∈ between ++ next :: rest, one.operation.Spares bucket :=
          fun one member => spares one
            (List.mem_append_right earlier (List.mem_cons_of_mem _ member))
        exact others.keepsRaised sparesThen incompleteBetween up

end Session

def oneRelease : Migrator :=
  ⟨Registry.inert [(.release 2 0 0, ["add_role"])], ⟨1⟩, "01J0000000000000000000000A"⟩

/-- The fifth call fails, with which the first migration stamps the record. -/
def failingStamp : Disturbance Nat :=
  failingAt fun number => if number = 4 then some (.backend (.reported "disk full")) else none

/-- A migration fails, the id is changed, the migration is tried again and completes, and another
is refused. -/
theorem honest_retried :
    ∃ performed final,
      Session (Memory.storage.disturbed failingStamp).backend
        (0, Memory.versioned ⟨"1.0.0", 0, ⟨1⟩, "01J0000000000000000000000A"⟩) performed final ∧
      performed.map Performed.operation =
        [.migrate oneRelease "2.0.0", .setInstanceId "01J0000000000000000000000B",
          .migrate oneRelease "2.0.0", .migrate oneRelease "two"] ∧
      (∃ one ∈ performed, one.Raises) ∧
      (Memory.storage.disturbed failingStamp).IsLowered final ∧
      (Memory.storage.disturbed failingStamp).recordObject final =
        some (VersionRecord.toJson ⟨"2.0.0", 0, ⟨1⟩, "01J0000000000000000000000B"⟩) ∧
      Honest (Memory.storage.disturbed failingStamp) performed final := by
  have session : Session (Memory.storage.disturbed failingStamp).backend
      (0, Memory.versioned ⟨"1.0.0", 0, ⟨1⟩, "01J0000000000000000000000A"⟩) _ _ :=
    .next (.total _ (Operation.migrate oneRelease "2.0.0").action _)
      (.next (.total _ (Operation.setInstanceId "01J0000000000000000000000B").action _)
        (.next (.total _ (Operation.migrate oneRelease "2.0.0").action _)
          (.next (.total _ (Operation.migrate oneRelease "two").action _) .none)))
  refine ⟨_, _, session, rfl, ⟨_, List.mem_cons_self, ?_⟩, ⟨some false, rfl, rfl⟩, rfl, ?_⟩
  · exact ⟨_, .tail _ (.tail _ (.head _)), rfl, rfl⟩
  apply session.honest
  intro one member
  simp only [List.mem_cons, List.not_mem_nil, or_false] at member
  rcases member with rfl | rfl | rfl | rfl
  · exact Registry.spares_inert _ _
  · trivial
  · exact Registry.spares_inert _ _
  · exact Registry.spares_inert _ _

end StoreMigration
