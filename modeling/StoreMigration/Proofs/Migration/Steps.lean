import StoreMigration.Proofs.Migration.Course
import StoreMigration.Proofs.Store.Sparing

/-! Steps run in turn. `Completes` says that every step of a list ran once, on the store
that the one before it left; `Stops` says that one of them failed and that those after it
did not run. Running a list does one or the other. -/

namespace StoreMigration

/-- Every step ran and succeeded; `history` holds the calls of each in turn. -/
inductive Completes (backend : Backend σ) : List Step → σ → List (Exchange σ) → σ → Prop
  | nil {state : σ} : Completes backend [] state [] state
  | cons {step : Step} {rest : List Step} {state middle final : σ}
      {made later : List (Exchange σ)}
      (first : step.body.Runs backend state (.ok ()) made middle)
      (others : Completes backend rest middle later final) :
      Completes backend (step :: rest) state (made ++ later) final

/-- The steps before `failing` ran and succeeded, and `failing` failed. -/
def Stops (backend : Backend σ) (steps : List Step) (state : σ) (failing : Step)
    (cause : StepError) (history : List (Exchange σ)) (final : σ) : Prop :=
  ∃ before rest middle made own,
    steps = before ++ failing :: rest ∧ history = made ++ own ∧
      Completes backend before state made middle ∧
      failing.body.Runs backend middle (.error cause) own final

namespace Registry

variable {backend : Backend σ} {steps : List Step} {state after : σ}
  {history : List (Exchange σ)}

theorem runSteps_cons (step : Step) (rest : List Step) :
    runSteps (step :: rest) =
      (step.body.withError (.stepFailed step.name) >>= fun _ =>
        runSteps rest >>= fun names => pure (step.name :: names)) := rfl

theorem completes_of_runSteps {names : List String}
    (runs : (runSteps steps).Runs backend state (.ok names) history after) :
    Completes backend steps state history after ∧ names = steps.map Step.name := by
  induction steps generalizing state history names with
  | nil =>
      rcases runs.unique (.pure [] state) with ⟨same, rfl, rfl⟩
      cases same
      exact ⟨.nil, rfl⟩
  | cons step rest induction =>
      rw [runSteps_cons] at runs
      rcases runs.bind_cases with ⟨_, _, impossible⟩ | ⟨_, made, middle, later, own, others, rfl⟩
      · cases impossible
      rcases others.bind_cases with ⟨_, _, impossible⟩ | ⟨told, calls, reached, _, ran, last, rfl⟩
      · cases impossible
      rcases last.unique (.pure _ _) with ⟨same, rfl, rfl⟩
      cases same
      rcases induction ran with ⟨completes, rfl⟩
      rw [List.append_nil]
      exact ⟨.cons own.ok_of_withError completes, rfl⟩

theorem stops_of_runSteps {error : MigrationError}
    (runs : (runSteps steps).Runs backend state (.error error) history after) :
    ∃ failing cause, error = .stepFailed failing.name cause ∧
      Stops backend steps state failing cause history after := by
  induction steps generalizing state history with
  | nil =>
      rcases runs.unique (.pure [] state) with ⟨impossible, _⟩
      cases impossible
  | cons step rest induction =>
      rw [runSteps_cons] at runs
      rcases runs.bind_cases with ⟨_, own, same⟩ | ⟨_, made, middle, later, own, others, rfl⟩
      · cases same
        rcases own.error_of_withError with ⟨cause, body, rfl⟩
        exact ⟨step, cause, rfl, ⟨[], rest, state, [], history, rfl, rfl, .nil, body⟩⟩
      rcases others.bind_cases with ⟨_, ran, same⟩ | ⟨_, _, _, _, _, last, _⟩
      · cases same
        rcases induction ran with ⟨failing, cause, rfl, ⟨before, more, place, calls, last, rfl,
          rfl, completes, failed⟩⟩
        refine ⟨failing, cause, rfl, ⟨step :: before, more, place, made ++ calls, last, rfl, ?_,
          .cons own.ok_of_withError completes, failed⟩⟩
        exact (List.append_assoc made calls last).symm
      · rcases last.unique (.pure _ _) with ⟨impossible, _⟩
        cases impossible

/-! ## Sparing a bucket -/

def Spares (registry : Registry) (bucket : String) : Prop :=
  ∀ descriptor ∈ registry.descriptors, ∀ step ∈ descriptor.steps,
    step.body.KeepsTo (Request.Spares bucket)

theorem keepsTo_runSteps {allowed : Request → Prop}
    (keeps : ∀ step ∈ steps, step.body.KeepsTo allowed) : (runSteps steps).KeepsTo allowed := by
  induction steps with
  | nil => exact Action.keepsTo_pure []
  | cons step rest induction =>
      have first : (step.body.withError (MigrationError.stepFailed step.name)).KeepsTo allowed :=
        Action.keepsTo_withError _ (keeps step List.mem_cons_self)
      have others : (runSteps rest).KeepsTo allowed :=
        induction fun other member => keeps other (List.mem_cons_of_mem step member)
      rw [runSteps_cons]
      apply Action.keepsTo_bind first
      intro _
      apply Action.keepsTo_bind others
      intro names
      exact Action.keepsTo_pure (step.name :: names)

theorem mem_selectSteps {descriptors : List Descriptor} {planned : List PlannedDescriptor}
    {step : Step} (member : step ∈ Plan.selectSteps descriptors planned) :
    ∃ descriptor ∈ descriptors, step ∈ descriptor.steps := by
  induction descriptors generalizing planned with
  | nil => cases member
  | cons head rest induction =>
      cases planned with
      | nil => cases member
      | cons decision more =>
          rw [Plan.selectSteps] at member
          rcases List.mem_append.mp member with member | member
          · split at member
            · cases member
            · exact ⟨head, List.mem_cons_self, member⟩
          · rcases induction member with ⟨descriptor, inRest, inSteps⟩
            exact ⟨descriptor, List.mem_cons_of_mem head inRest, inSteps⟩

theorem keepsTo_pending {registry : Registry} {bucket : String} (spares : registry.Spares bucket)
    (plan : Plan) : (runSteps (registry.pending plan)).KeepsTo (Request.Spares bucket) := by
  apply keepsTo_runSteps
  intro step member
  rcases mem_selectSteps member with ⟨descriptor, inRegistry, inSteps⟩
  exact spares descriptor inRegistry step inSteps

end Registry

end StoreMigration
