import StoreMigration.Proofs.Migration.Stages
import StoreMigration.Proofs.Migration.Transforms

/-! What a run leaves behind when it breaks off. Whichever calls fail, the flag is up from
before the first change to the store until the run has succeeded, and the record is
replaced only when every step is done. -/

namespace StoreMigration.Registry

open Bookkeeping

def FailsToRaise (history : List (Exchange σ)) : Prop :=
  ∃ cause after, history = [⟨flagRequest true, .error cause, after⟩]

def FailsToLower (history : List (Exchange σ)) : Prop :=
  ∃ calls cause after, history = calls ++ [⟨flagRequest false, .error cause, after⟩]

structure FailsSafely (storage : Storage σ α) (registry : Registry) (target : String) (state : σ)
    (error : MigrationError) (history : List (Exchange σ)) (final : σ) : Prop where
  record_kept : ¬ FailsToLower history → storage.recordObject final = storage.recordObject state
  record_replaced : FailsToLower history → ∃ version record plan,
    Version.read target = .ok version ∧ storage.record state = .ok record ∧
      Plan.ofRecord registry record version = .ok plan ∧
      storage.recordObject final = some (storage.encode (stamp record plan).toJson)
  flag_raised : error.isInvalidTarget = false → ¬ FailsToRaise history → storage.IsUpdating final
  untouched : error.isInvalidTarget = true ∨ FailsToRaise history →
    storage.objects final = storage.objects state
  same_plan : ¬ FailsToLower history →
    storage.plan registry target final = storage.plan registry target state

structure RunsAtomically (storage : Storage σ α) (registry : Registry) (target : String)
    (state : σ) : Prop where
  guarded : ∀ before exchange after,
    (registry.run target).history storage.backend state = before ++ exchange :: after →
      storage.objects exchange.after = storage.objects state ∨
      storage.IsUpdating exchange.after ∨
      (after = [] ∧ ∃ report, ((registry.run target).run storage.backend state).1 = .ok report)
  failure : ∀ error final, (registry.run target).run storage.backend state = (.error error, final) →
    FailsSafely storage registry target state error
      ((registry.run target).history storage.backend state) final

variable {storage : Storage σ α} {registry : Registry} {target : String} {state : σ}

/-- The steps of a registry that spares the bookkeeping leave the flag up and the record
alone, wherever they break off. -/
theorem guarded_of_steps (spares : registry.Spares bucket)
    (raised : (storage.backend (flagRequest true) state).1 = .ok ()) {plan : Plan}
    {outcome : Except MigrationError (List String)} {made : List (Exchange σ)} {reached : σ}
    (steps : (runSteps (registry.pending plan)).Runs storage.backend (ready storage.backend state)
      outcome made reached) :
    (∀ exchange ∈ opening storage.backend state ++ made, storage.IsUpdating exchange.after) ∧
      storage.IsUpdating reached ∧
      storage.recordObject reached = storage.recordObject state := by
  rcases storage.spared (keepsTo_pending spares plan) steps with ⟨throughout, atEnd⟩
  have up : storage.IsUpdating (ready storage.backend state) := isUpdating_ready raised
  refine ⟨?_, ?_, ?_⟩
  · intro exchange member
    rcases List.mem_append.mp member with member | member
    · exact isUpdating_opening raised member
    · exact Storage.isUpdating_congr (congrFun (throughout exchange member) updatingKey) up
  · exact Storage.isUpdating_congr (congrFun atEnd updatingKey) up
  · exact (congrFun atEnd recordKey).trans recordObject_ready

/-! ## Telling the failures apart -/

theorem lower_mem {history : List (Exchange σ)} (fails : FailsToLower history) :
    ∃ exchange ∈ history, exchange.request = flagRequest false := by
  rcases fails with ⟨calls, cause, after, rfl⟩
  exact ⟨_, List.mem_append_right calls List.mem_cons_self, rfl⟩

theorem not_failsToRaise_opening (later : List (Exchange σ)) (backend : Backend σ) (state : σ) :
    ¬ FailsToRaise (opening backend state ++ later) := by
  rintro ⟨cause, after, same⟩
  have sizes := congrArg List.length same
  simp [opening] at sizes

theorem not_lower_opening {backend : Backend σ} {state : σ} {exchange : Exchange σ}
    (member : exchange ∈ opening backend state) : exchange.request ≠ flagRequest false := by
  intro lower
  rcases List.mem_cons.mp member with rfl | member
  · cases lower
  · cases List.mem_singleton.mp member
    cases lower

theorem recordRequest_ne_lower (record : VersionRecord) : recordRequest record ≠ flagRequest false := by
  intro same
  injection same with _ keys
  exact absurd keys (by decide)

theorem not_lower_steps (spares : registry.Spares bucket) {backend : Backend σ} {plan : Plan}
    {outcome : Except MigrationError (List String)} {made : List (Exchange σ)} {start reached : σ}
    (steps : (runSteps (registry.pending plan)).Runs backend start outcome made reached)
    {exchange : Exchange σ} (member : exchange ∈ made) : exchange.request ≠ flagRequest false := by
  intro lower
  have allowed := steps.keepsTo (keepsTo_pending spares plan) member
  rw [lower] at allowed
  exact allowed rfl

theorem isInvalidTarget_of_unplanned {answer : Except StoreError (Option Json)} {version : Version}
    {error : MigrationError}
    (failed : (recordOf answer >>= fun record => Plan.ofRecord registry record version) =
      .error error) : error.isInvalidTarget = false := by
  cases found : recordOf answer with
  | ok record =>
      rw [found] at failed
      change Plan.ofRecord registry record version = .error error at failed
      rw [Plan.ofRecord] at failed
      split at failed
      · cases failed
      · cases failed
        rfl
  | error cause =>
      rw [found] at failed
      cases failed
      rw [recordOf] at found
      split at found
      · cases found
        rfl
      · cases found
        rfl
      · cases found

/-! ## Every way a run can go -/

theorem failsSafely_of_kept {error : MigrationError} {later : List (Exchange σ)} {final : σ}
    (kept : storage.recordObject final = storage.recordObject state)
    (up : storage.IsUpdating final) (blameless : error.isInvalidTarget = false)
    (notLower : ∀ exchange ∈ opening storage.backend state ++ later,
      exchange.request ≠ flagRequest false) :
    FailsSafely storage registry target state error (opening storage.backend state ++ later)
      final where
  record_kept _ := kept
  record_replaced fails := by
    rcases lower_mem fails with ⟨exchange, member, lower⟩
    exact absurd lower (notLower exchange member)
  flag_raised _ _ := up
  untouched cases := by
    rcases cases with blamed | unraised
    · rw [blameless] at blamed
      cases blamed
    · exact absurd unraised (not_failsToRaise_opening later storage.backend state)
  same_plan _ := Storage.plan_congr kept registry target

theorem closing_eq_append (backend : Backend σ) (state : σ) (made : List (Exchange σ))
    (record : VersionRecord) (reached : σ) :
    opening backend state ++ (made ++ closing backend record reached) =
      opening backend state ++ (made ++ [backend.exchange (recordRequest record) reached]) ++
        [backend.exchange (flagRequest false) (stamped backend record reached)] := by
  simp [closing]

section Executed

variable {version : Version} {record : VersionRecord} {plan : Plan} {names : List String}
  {made : List (Exchange σ)} {reached : σ}

/-- The flag is up until all steps are done and the record was written, or was not. -/
theorem isUpdating_of_mem_written (spares : registry.Spares bucket)
    (begun : Begun storage.backend registry target state version record plan)
    (steps : (runSteps (registry.pending plan)).Runs storage.backend
      (ready storage.backend state) (.ok names) made reached)
    {exchange : Exchange σ}
    (member : exchange ∈ opening storage.backend state ++
      (made ++ [storage.backend.exchange (recordRequest (stamp record plan)) reached])) :
    storage.IsUpdating exchange.after := by
  rcases guarded_of_steps spares begun.raised steps with ⟨throughout, up, _⟩
  rw [← List.append_assoc] at member
  rcases List.mem_append.mp member with member | member
  · exact throughout exchange member
  · cases List.mem_singleton.mp member
    exact Storage.isUpdating_record up

theorem failsSafely_of_notLowered (spares : registry.Spares bucket) {cause : StoreError}
    (begun : Begun storage.backend registry target state version record plan)
    (steps : (runSteps (registry.pending plan)).Runs storage.backend
      (ready storage.backend state) (.ok names) made reached)
    (written : (storage.backend (recordRequest (stamp record plan)) reached).1 = .ok ())
    (unlowered : (storage.backend (flagRequest false)
      (stamped storage.backend (stamp record plan) reached)).1 = .error cause) :
    FailsSafely storage registry target state (.notPersisted updatingKey cause)
      (opening storage.backend state ++
        (made ++ closing storage.backend (stamp record plan) reached))
      (lowered storage.backend (stamp record plan) reached) := by
  have unchanged : storage.objects (lowered storage.backend (stamp record plan) reached) =
      storage.objects (stamped storage.backend (stamp record plan) reached) :=
    storage.refused unlowered
  have fails : FailsToLower (opening storage.backend state ++
      (made ++ closing storage.backend (stamp record plan) reached)) := by
    have refusal : storage.backend.exchange (flagRequest false)
        (stamped storage.backend (stamp record plan) reached) =
          ⟨flagRequest false, .error cause, lowered storage.backend (stamp record plan) reached⟩ := by
      rw [← unlowered]
      rfl
    rw [closing_eq_append, refusal]
    exact ⟨_, cause, _, rfl⟩
  constructor
  · intro keeps
    exact absurd fails keeps
  · intro _
    exact ⟨version, record, plan, begun.valid, record_of_begun begun, begun.planned,
      (Storage.recordObject_flag false).trans (Storage.recordObject_written written)⟩
  · intro _ _
    have up : storage.IsUpdating (stamped storage.backend (stamp record plan) reached) :=
      Storage.isUpdating_record (guarded_of_steps spares begun.raised steps).2.1
    exact Storage.isUpdating_congr (congrFun (congrFun unchanged bucket) updatingKey) up
  · rintro (blamed | unraised)
    · cases blamed
    · exact absurd unraised (not_failsToRaise_opening _ storage.backend state)
  · intro keeps
    exact absurd fails keeps

end Executed

theorem failsSafely_of_course (spares : registry.Spares bucket) {error : MigrationError}
    {history : List (Exchange σ)} {final : σ}
    (course : Course storage.backend registry target state (.error error) history final) :
    FailsSafely storage registry target state error history final := by
  cases course with
  | refused invalid =>
      have noCalls : ¬ FailsToLower ([] : List (Exchange σ)) := by
        intro fails
        rcases lower_mem fails with ⟨exchange, member, _⟩
        cases member
      exact ⟨fun _ => rfl, fun fails => absurd fails noCalls, fun blamed => (by cases blamed),
        fun _ => rfl, fun _ => rfl⟩
  | notRaised unraised =>
      have unchanged : storage.objects (flagged storage.backend state) = storage.objects state :=
        storage.refused unraised
      have kept : storage.recordObject (flagged storage.backend state) =
          storage.recordObject state := Storage.recordObject_flag true
      refine ⟨fun _ => kept, ?_, ?_, fun _ => unchanged,
        fun _ => Storage.plan_congr kept registry target⟩
      · intro fails
        rcases lower_mem fails with ⟨exchange, member, lower⟩
        cases List.mem_singleton.mp member
        cases lower
      · intro _ raised
        apply absurd _ raised
        exact ⟨_, flagged storage.backend state, by rw [← unraised]; rfl⟩
  | unplanned valid raised failed =>
      rw [← List.append_nil (opening storage.backend state)]
      apply failsSafely_of_kept recordObject_ready (isUpdating_ready raised)
        (isInvalidTarget_of_unplanned failed)
      intro exchange member
      rw [List.append_nil] at member
      exact not_lower_opening member
  | stopped begun steps =>
      rcases guarded_of_steps spares begun.raised steps with ⟨_, up, kept⟩
      -- The steps spare the bookkeeping: the flag that the opening raised is up, the record stands.
      rcases stops_of_runSteps steps with ⟨failing, cause, rfl, _⟩
      apply failsSafely_of_kept kept up rfl
      intro exchange member
      rcases List.mem_append.mp member with member | member
      · exact not_lower_opening member
      · exact not_lower_steps spares steps member
  | @notStamped version record plan names made reached cause begun steps unwritten =>
      rcases guarded_of_steps spares begun.raised steps with ⟨_, up, kept⟩
      have unchanged : storage.objects
          (stamped storage.backend (stamp record plan) reached) = storage.objects reached :=
        storage.refused unwritten
      apply failsSafely_of_kept
      · rw [← kept, Storage.recordObject, unchanged]
        rfl
      · exact Storage.isUpdating_record up
      · rfl
      · intro exchange member
        rcases List.mem_append.mp member with member | member
        · exact not_lower_opening member
        · rcases List.mem_append.mp member with member | member
          · exact not_lower_steps spares steps member
          · cases List.mem_singleton.mp member
            exact recordRequest_ne_lower (stamp record plan)
  | notLowered begun steps written unlowered =>
      exact failsSafely_of_notLowered spares begun steps written unlowered

/-- Every call of a run is made with the flag up, but for a refused first one and for the
last one of a run that succeeds. -/
theorem guarded_of_course (spares : registry.Spares bucket)
    {outcome : Except MigrationError Report} {history : List (Exchange σ)} {final : σ}
    (course : Course storage.backend registry target state outcome history final)
    {before after : List (Exchange σ)} {exchange : Exchange σ}
    (split : history = before ++ exchange :: after) :
    storage.objects exchange.after = storage.objects state ∨
      storage.IsUpdating exchange.after ∨ (after = [] ∧ ∃ report, outcome = .ok report) := by
  have member : exchange ∈ history := by
    rw [split]
    exact List.mem_append_right before List.mem_cons_self
  cases course with
  | refused invalid => cases member
  | notRaised unraised =>
      cases List.mem_singleton.mp member
      exact .inl (storage.refused unraised)
  | unplanned valid raised failed => exact .inr (.inl (isUpdating_opening raised member))
  | stopped begun steps =>
      exact .inr (.inl ((guarded_of_steps spares begun.raised steps).1 exchange member))
  | notStamped begun steps unwritten =>
      exact .inr (.inl (isUpdating_of_mem_written spares begun steps member))
  | @notLowered version record plan names made reached cause begun steps written unlowered =>
      rw [closing_eq_append] at member
      rcases List.mem_append.mp member with member | member
      · exact .inr (.inl (isUpdating_of_mem_written spares begun steps member))
      · cases List.mem_singleton.mp member
        have up : storage.IsUpdating (stamped storage.backend (stamp record plan) reached) :=
          Storage.isUpdating_record (guarded_of_steps spares begun.raised steps).2.1
        have unchanged := storage.refused unlowered
        exact .inr (.inl (Storage.isUpdating_congr
          (congrFun (congrFun unchanged bucket) updatingKey) up))
  | @completed version record plan names made reached begun steps written cleared =>
      rw [closing_eq_append] at split
      rcases List.eq_nil_or_concat after with rfl | ⟨others, last, rfl⟩
      · exact .inr (.inr ⟨rfl, _, rfl⟩)
      · have earlier : opening storage.backend state ++ (made ++
              [storage.backend.exchange (recordRequest (stamp record plan)) reached]) =
            before ++ exchange :: others := by
          rw [List.concat_eq_append, ← List.cons_append, ← List.append_assoc before] at split
          exact List.append_inj_left' split rfl
        have inEarlier : exchange ∈ opening storage.backend state ++ (made ++
            [storage.backend.exchange (recordRequest (stamp record plan)) reached]) := by
          rw [earlier]
          exact List.mem_append_right before List.mem_cons_self
        exact .inr (.inl (isUpdating_of_mem_written spares begun steps inEarlier))

theorem runsAtomically (storage : Storage σ α) {registry : Registry}
    (spares : registry.Spares bucket) (target : String) (state : σ) :
    registry.RunsAtomically storage target state := by
  have runs := Action.Runs.total storage.backend (registry.run target) state
  constructor
  · intro before exchange after split
    exact guarded_of_course spares (course runs) split
  · intro error final ran
    have fails := course runs
    rw [ran] at fails
    exact failsSafely_of_course spares fails

/-- The releases, on a versioned store whose fifth call fails. -/
theorem releases_runAtomically :
    Releases.registry.Spares bucket ∧
      Releases.registry.RunsAtomically
        (Memory.storage.disturbed (failingAt fun number =>
          if number = 4 then some (.backend (.reported "disk full")) else none))
        "2.16.0"
        (0, Memory.versioned ⟨"2.9.0", 0, ⟨1⟩, "01J0000000000000000000000A"⟩) :=
  ⟨Releases.registry_spares, runsAtomically _ Releases.registry_spares _ _⟩

end StoreMigration.Registry
