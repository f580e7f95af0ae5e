import StoreMigration.Proofs.Migration.Recording
import StoreMigration.Proofs.Migration.Targets

/-! The calls of a migration that store a record. Apart from what steps store themselves there
are three of them: the import of the legacy keys, the record of a new installation and the stamp
at the end of a run. Each of these writes its version in full. -/

namespace StoreMigration

open Bookkeeping

variable {storage : Storage σ α} {state after : σ} {version : Version}
  {history : List (Exchange σ)} {exchange : Exchange σ}

theorem Program.exchanged_of_mem {program : Program β} {backend : Backend σ}
    (member : exchange ∈ program.history backend state) :
    ∃ before, exchange = backend.exchange exchange.request before := by
  induction program generalizing state with
  | done result => cases member
  | call request next induction =>
      rw [history_call] at member
      rcases List.mem_cons.mp member with rfl | member
      · exact ⟨state, rfl⟩
      · exact induction _ member

/-! ## Calls that store a record -/

def Request.StoresRecord (request : Request) : Prop :=
  ∃ value, request = .update Bookkeeping.bucket recordKey value

theorem Request.not_storesRecord_of_harmless {request : Request}
    (harmless : request.isWrite = false) : ¬ request.StoresRecord := by
  rintro ⟨value, rfl⟩
  cases harmless

theorem Request.not_storesRecord_of_flag (flag : Bool) : ¬ (flagRequest flag).StoresRecord := by
  rintro ⟨value, stores⟩
  injection stores with _ keys
  exact absurd keys (by decide)

def Exchange.Stamps (exchange : Exchange σ) (version : Version) : Prop :=
  ∃ record, exchange.request = recordRequest record ∧ record.schemaVersion = version.text

theorem Exchange.Stamps.version_after (stamps : exchange.Stamps version) {before : σ}
    (made : exchange = storage.backend.exchange exchange.request before)
    (granted : exchange.succeeded = true) : storage.version exchange.after = .ok version := by
  rcases stamps with ⟨record, request, named⟩
  rw [request] at made
  subst made
  cases written : (storage.backend (recordRequest record) before).1 with
  | error error => simp only [succeeded, Backend.exchange, written] at granted; cases granted
  | ok answer =>
      have stored := Storage.recordObject_written written
      refine Storage.version_of_parsed (Storage.record_of_encoded stored) ?_
      rw [VersionRecord.parsedVersion, named]
      exact Version.read_text version

/-- The call stores no record but one with its version written in full. -/
def Exchange.InFull (exchange : Exchange σ) : Prop :=
  exchange.request.StoresRecord → ∃ version, exchange.Stamps version

theorem Exchange.inFull_of_harmless (harmless : exchange.request.isWrite = false) :
    exchange.InFull := fun stores =>
  absurd stores (Request.not_storesRecord_of_harmless harmless)

/-! ## The import of the legacy keys -/

namespace Legacy

variable {listed : List String}

theorem Removes.inFull {backend : Backend σ} (removes : Removes backend listed state history after)
    (member : exchange ∈ history) : exchange.InFull := by
  induction removes with
  | nil => cases member
  | cons others induction =>
      rcases List.mem_cons.mp member with rfl | member
      · rintro ⟨value, impossible⟩
        cases impossible
      · exact induction member

theorem HasLegacy.inFull {record : VersionRecord} (has : storage.HasLegacy state record)
    (request : exchange.request = recordRequest record) : exchange.InFull := by
  rcases has with ⟨_, _, _, _⟩
  exact fun _ => ⟨_, _, request, rfl⟩

theorem inFull_of_bridge {outcome : Except MigrationError Outcome}
    (runs : bridge.Runs storage.backend state outcome history after)
    (member : exchange ∈ history) : exchange.InFull := by
  have looking {made : List (Exchange σ)} {middle : σ} (looks : storage.Looks state made middle)
      (inMade : exchange ∈ made) : exchange.InFull :=
    Exchange.inFull_of_harmless (looks.harmless exchange inMade)
  cases course runs with
  | failed looks => exact looking looks member
  | versioned _ looks => exact looking looks member
  | unnumbered _ _ looks => exact looking looks member
  | notPersisted _ has looks unwritten =>
      rcases List.mem_append.mp member with inMade | last
      · exact looking looks inMade
      · exact HasLegacy.inFull has (congrArg Exchange.request (List.mem_singleton.mp last))
  | imported _ has looks written removes =>
      rcases List.mem_append.mp member with inMade | later
      · exact looking looks inMade
      rcases List.mem_cons.mp later with own | removed
      · exact HasLegacy.inFull has (congrArg Exchange.request own)
      · exact removes.inFull removed

end Legacy

/-! ## A new installation -/

theorem Migrator.inFull_of_bootstrap {migrator : Migrator}
    {result : Except MigrationError RecordSource}
    (runs : (migrator.bootstrap version).Runs storage.backend state result history after)
    (member : exchange ∈ history) : exchange.InFull := by
  rcases runs.bind_cases with ⟨_, bridged, _⟩ | ⟨found, made, middle, later, bridged, last, rfl⟩
  · exact Legacy.inFull_of_bridge bridged member
  rcases List.mem_append.mp member with inMade | inLater
  · exact Legacy.inFull_of_bridge bridged inMade
  cases found with
  | alreadyVersioned =>
      rcases last.unique (.pure _ _) with ⟨_, rfl, _⟩
      cases inLater
  | imported record =>
      rcases last.unique (.pure _ _) with ⟨_, rfl, _⟩
      cases inLater
  | noLegacyData =>
      have write := runs_writeRecord storage.backend middle
        (.fresh version migrator.edition migrator.newInstanceId)
      have own : exchange = storage.backend.exchange
          (recordRequest (.fresh version migrator.edition migrator.newInstanceId)) middle := by
        rcases last.bind_cases with ⟨_, wrote, _⟩ | ⟨_, calls, _, _, wrote, ended, rfl⟩
        · rcases wrote.unique write with ⟨_, rfl, _⟩
          exact List.mem_singleton.mp inLater
        · rcases wrote.unique write with ⟨_, rfl, rfl⟩
          rcases ended.unique (.pure _ _) with ⟨_, rfl, _⟩
          exact List.mem_singleton.mp inLater
      exact fun _ => ⟨version, _, congrArg Exchange.request own, rfl⟩

/-! ## Runs -/

namespace Registry

variable {backend : Backend σ} {registry : Registry} {target : String}

def MadeBySteps (registry : Registry) (backend : Backend σ) (made : List (Exchange σ)) : Prop :=
  ∃ steps start outcome reached,
    (∀ step ∈ steps, ∃ descriptor ∈ registry.descriptors, step ∈ descriptor.steps) ∧
      (runSteps steps).Runs backend start outcome made reached

/-- The calls are those of steps, and around them calls that store no record but ones with their
versions written in full. -/
def StampsInFull (registry : Registry) (backend : Backend σ) (history : List (Exchange σ)) : Prop :=
  ∃ before made last, history = before ++ (made ++ last) ∧ registry.MadeBySteps backend made ∧
    ∀ exchange ∈ before ++ last, exchange.InFull

theorem madeBySteps_nil (registry : Registry) (backend : Backend σ) (start : σ) :
    registry.MadeBySteps backend [] :=
  ⟨[], start, _, _, ⟨List.forall_mem_nil _, .pure [] start⟩⟩

theorem MadeBySteps.eq_nil {made : List (Exchange σ)} (bySteps : MadeBySteps ⟨[]⟩ backend made) :
    made = [] := by
  rcases bySteps with ⟨steps, start, outcome, reached, registered, runs⟩
  obtain rfl : steps = [] := List.eq_nil_iff_forall_not_mem.mpr fun step member => by
    rcases registered step member with ⟨_, impossible, _⟩
    cases impossible
  exact (runs.unique (.pure [] start)).2.1

theorem madeBySteps_of_pending {plan : Plan} {outcome : Except MigrationError (List String)}
    (steps : (runSteps (registry.pending plan)).Runs backend state outcome history after) :
    registry.MadeBySteps backend history :=
  have registered : ∀ step ∈ registry.pending plan,
      ∃ descriptor ∈ registry.descriptors, step ∈ descriptor.steps := fun _ member => by
    rcases mem_selectSteps member with ⟨descriptor, inRegistry, inSteps⟩
    exact ⟨descriptor, inRegistry, inSteps⟩
  ⟨_, state, outcome, after, registered, steps⟩

theorem stampsInFull_of_all (start : σ) (inFull : ∀ exchange ∈ history, exchange.InFull) :
    registry.StampsInFull backend history :=
  ⟨history, [], [], by rw [List.append_nil, List.append_nil],
    madeBySteps_nil registry backend start, by rwa [List.append_nil]⟩

theorem StampsInFull.append {earlier : List (Exchange σ)}
    (stamps : registry.StampsInFull backend history)
    (inFull : ∀ exchange ∈ earlier, exchange.InFull) :
    registry.StampsInFull backend (earlier ++ history) := by
  rcases stamps with ⟨before, made, last, rfl, bySteps, others⟩
  refine ⟨earlier ++ before, made, last, by rw [List.append_assoc], bySteps, ?_⟩
  rw [List.append_assoc]
  exact List.forall_mem_append.mpr ⟨inFull, others⟩

theorem inFull_of_opening (member : exchange ∈ opening backend state) : exchange.InFull := by
  rcases List.mem_cons.mp member with rfl | member
  · exact fun stores => absurd stores (Request.not_storesRecord_of_flag true)
  · cases List.mem_singleton.mp member
    exact Exchange.inFull_of_harmless rfl

theorem inFull_of_closing {record : VersionRecord} {plan : Plan}
    (planned : Plan.ofRecord registry record version = .ok plan)
    (member : exchange ∈ closing backend (stamp record plan) state) : exchange.InFull := by
  rcases parsed_of_ofRecord planned with ⟨stored, _, rfl⟩
  rcases List.mem_cons.mp member with rfl | lowers
  · exact fun _ => ⟨version, _, rfl, rfl⟩
  · cases List.mem_singleton.mp lowers
    exact fun stores => absurd stores (Request.not_storesRecord_of_flag false)

theorem stampsInFull_of_begun {record : VersionRecord} {plan : Plan} {made : List (Exchange σ)}
    {outcome : Except MigrationError (List String)} {reached : σ} {last : List (Exchange σ)}
    (begun : Begun backend registry target state version record plan)
    (steps : (runSteps (registry.pending plan)).Runs backend (ready backend state) outcome made
      reached)
    (own : last <+: closing backend (stamp record plan) reached) :
    registry.StampsInFull backend (opening backend state ++ (made ++ last)) := by
  refine ⟨_, made, last, rfl, madeBySteps_of_pending steps, List.forall_mem_append.mpr ⟨?_, ?_⟩⟩
  · exact fun exchange => inFull_of_opening
  · exact fun exchange member => inFull_of_closing begun.planned (own.mem member)

theorem stampsInFull_of_run {outcome : Except MigrationError Report}
    (runs : (registry.run target).Runs backend state outcome history after) :
    registry.StampsInFull backend history := by
  cases course runs with
  | refused invalid => exact stampsInFull_of_all state (List.forall_mem_nil _)
  | notRaised unraised =>
      refine stampsInFull_of_all state fun exchange member stores => ?_
      cases List.mem_singleton.mp member
      exact absurd stores (Request.not_storesRecord_of_flag true)
  | unplanned valid raised failed => exact stampsInFull_of_all state fun _ => inFull_of_opening
  | @stopped _ _ _ _ made _ begun steps =>
      rw [← List.append_nil made]
      exact stampsInFull_of_begun begun steps List.nil_prefix
  | notStamped begun steps unwritten =>
      exact stampsInFull_of_begun begun steps (List.prefix_append [_] _)
  | notLowered begun steps written unlowered =>
      exact stampsInFull_of_begun begun steps (List.prefix_refl _)
  | completed begun steps written cleared =>
      exact stampsInFull_of_begun begun steps (List.prefix_refl _)

end Registry

/-- Apart from its steps a migration stores no record but ones with their versions written in
full. -/
theorem Migrator.stampsInFull_of_run {migrator : Migrator} {target : String}
    {outcome : Except MigrationError MigrationOutcome}
    (runs : (migrator.run target).Runs storage.backend state outcome history after) :
    migrator.registry.StampsInFull storage.backend history := by
  cases Migrator.course runs with
  | refused invalid =>
      exact Registry.stampsInFull_of_all state (List.forall_mem_nil _)
  | unrecorded valid failed =>
      exact Registry.stampsInFull_of_all state fun _ => inFull_of_bootstrap failed
  | recorded valid had ran =>
      exact (Registry.stampsInFull_of_run ran).append fun _ => inFull_of_bootstrap had

end StoreMigration
