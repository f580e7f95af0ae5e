import StoreMigration.Proofs.Store.Running
import StoreMigration.Proofs.Store.Storage

/-! Programs that keep to some calls. What each allowed call preserves, a whole run
preserves (`Program.preserved`), and so a program that never writes to a bucket leaves
its objects as they are, whichever of its calls fail. -/

namespace StoreMigration

namespace Program

def KeepsTo (allowed : Request → Prop) : Program α → Prop
  | done _ => True
  | call request next => allowed request ∧ ∀ response, (next response).KeepsTo allowed

theorem keepsTo_bind {allowed : Request → Prop} {program : Program α} {rest : α → Program β}
    (first : program.KeepsTo allowed) (second : ∀ result, (rest result).KeepsTo allowed) :
    (program.bind rest).KeepsTo allowed := by
  induction program with
  | done result => exact second result
  | call request next induction =>
      exact ⟨first.1, fun response => induction response (first.2 response)⟩

theorem keepsTo_mono {allowed wider : Request → Prop} {program : Program α}
    (keeps : program.KeepsTo allowed) (widen : ∀ request, allowed request → wider request) :
    program.KeepsTo wider := by
  induction program with
  | done result => trivial
  | call request next induction =>
      exact ⟨widen request keeps.1, fun response => induction response (keeps.2 response)⟩

theorem allowed_of_mem_history {allowed : Request → Prop} {program : Program α}
    (keeps : program.KeepsTo allowed) (backend : Backend σ) (state : σ) {exchange : Exchange σ}
    (member : exchange ∈ program.history backend state) : allowed exchange.request := by
  induction program generalizing state with
  | done result => cases member
  | call request next induction =>
      rw [history_call] at member
      rcases List.mem_cons.mp member with equal | member
      · exact equal ▸ keeps.1
      · exact induction _ (keeps.2 _) _ member

/-- What every allowed call preserves holds after each call of a run and at its end. -/
theorem preserved {allowed : Request → Prop} {backend : Backend σ} {invariant : σ → Prop}
    (kept : ∀ request state, allowed request → invariant state →
      invariant (backend request state).2)
    {program : Program α} (keeps : program.KeepsTo allowed) {state : σ} (holds : invariant state) :
    (∀ exchange ∈ program.history backend state, invariant exchange.after) ∧
      invariant (program.run backend state).2 := by
  induction program generalizing state with
  | done result =>
      refine ⟨?_, holds⟩
      intro exchange member
      cases member
  | call request next induction =>
      have afterCall := kept request state keeps.1 holds
      have later := induction _ (keeps.2 (backend request state).1) afterCall
      refine ⟨?_, later.2⟩
      intro exchange member
      rw [history_call] at member
      rcases List.mem_cons.mp member with equal | member
      · exact equal ▸ afterCall
      · exact later.1 exchange member

end Program

namespace Action

def KeepsTo (allowed : Request → Prop) (action : Action ε α) : Prop :=
  action.toProgram.KeepsTo allowed

variable {allowed : Request → Prop}

theorem keepsTo_pure (result : α) : (pure result : Action ε α).KeepsTo allowed := trivial

theorem keepsTo_throw (error : ε) : (throw error : Action ε α).KeepsTo allowed := trivial

theorem keepsTo_ofResult (result : Except ε α) : (ofResult result).KeepsTo allowed := trivial

theorem keepsTo_request {request : Request} (permitted : allowed request) :
    (Action.request request).KeepsTo allowed :=
  ⟨permitted, fun _ => trivial⟩

theorem keepsTo_bind {action : Action ε α} {rest : α → Action ε β}
    (first : action.KeepsTo allowed) (second : ∀ result, (rest result).KeepsTo allowed) :
    (action >>= rest).KeepsTo allowed := by
  refine Program.keepsTo_bind first fun outcome => ?_
  cases outcome with
  | ok result => exact second result
  | error error => trivial

theorem keepsTo_withError (change : ε → ε') {action : Action ε α} (keeps : action.KeepsTo allowed) :
    (action.withError change).KeepsTo allowed :=
  Program.keepsTo_bind keeps fun _ => trivial

theorem keepsTo_ignoringError {action : Action ε Unit} (keeps : action.KeepsTo allowed) :
    (action.ignoringError : Action ε' Unit).KeepsTo allowed :=
  Program.keepsTo_bind keeps fun _ => trivial

theorem keepsTo_attempt {action : Action ε α} (keeps : action.KeepsTo allowed) :
    (action.attempt : Action ε' (Except ε α)).KeepsTo allowed :=
  Program.keepsTo_bind keeps fun _ => trivial

theorem keepsTo_map (change : α → β) {action : Action ε α} (keeps : action.KeepsTo allowed) :
    (change <$> action).KeepsTo allowed := by
  refine Program.keepsTo_bind keeps fun outcome => ?_
  cases outcome <;> trivial

theorem Runs.keepsTo {backend : Backend σ} {action : Action ε α} {state after : σ}
    {outcome : Except ε α} {history : List (Exchange σ)} {exchange : Exchange σ}
    (runs : Runs backend action state outcome history after) (keeps : action.KeepsTo allowed)
    (member : exchange ∈ history) : allowed exchange.request := by
  rw [← runs.history_eq] at member
  exact Program.allowed_of_mem_history keeps backend state member

theorem Runs.preserved {backend : Backend σ} {action : Action ε α} {state after : σ}
    {outcome : Except ε α} {history : List (Exchange σ)} {invariant : σ → Prop}
    (runs : Runs backend action state outcome history after) (keeps : action.KeepsTo allowed)
    (kept : ∀ request state, allowed request → invariant state →
      invariant (backend request state).2)
    (holds : invariant state) :
    (∀ exchange ∈ history, invariant exchange.after) ∧ invariant after := by
  have throughout := Program.preserved kept keeps holds
  have finished : (action.toProgram.run backend state).2 = after := congrArg Prod.snd runs.run_eq
  have made : action.toProgram.history backend state = history := runs.history_eq
  rw [finished, made] at throughout
  exact throughout

end Action

/-! ## Leaving an object alone -/

def Request.Leaves (bucket key : String) : Request → Prop
  | update otherBucket otherKey _ => otherBucket ≠ bucket ∨ otherKey ≠ key
  | delete otherBucket otherKey => otherBucket ≠ bucket ∨ otherKey ≠ key
  | _ => True

theorem Request.leaves_of_harmless (bucket key : String) {request : Request}
    (harmless : request.isWrite = false) : request.Leaves bucket key := by
  cases request with
  | update otherBucket otherKey value => cases harmless
  | delete otherBucket otherKey => cases harmless
  | _ => trivial

theorem Request.effect_of_leaves {bucket key : String} {request : Request}
    (leaves : request.Leaves bucket key) (encode : Json → α) (objects : Objects α) :
    request.effect encode objects bucket key = objects bucket key := by
  cases request with
  | update otherBucket otherKey value => exact objects.set_of_ne _ (leaves.imp Ne.symm Ne.symm)
  | delete otherBucket otherKey => exact objects.set_of_ne _ (leaves.imp Ne.symm Ne.symm)
  | ensureBucket bucket => rfl
  | get bucket key => rfl
  | listKeys bucket => rfl

theorem Storage.leftAlone (storage : Storage σ α) {bucket key : String} {action : Action ε β}
    {state after : σ} {outcome : Except ε β} {history : List (Exchange σ)}
    (leaves : action.KeepsTo (Request.Leaves bucket key))
    (runs : action.Runs storage.backend state outcome history after) :
    (∀ exchange ∈ history,
        storage.objects exchange.after bucket key = storage.objects state bucket key) ∧
      storage.objects after bucket key = storage.objects state bucket key := by
  have kept : ∀ request reached, Request.Leaves bucket key request →
      storage.objects reached bucket key = storage.objects state bucket key →
        storage.objects (storage.backend request reached).2 bucket key =
          storage.objects state bucket key := by
    intro request reached allowed holds
    rw [← holds]
    exact storage.objects_of_untouched request reached fun objects =>
      Request.effect_of_leaves allowed storage.encode objects
  exact runs.preserved leaves kept rfl

/-! ## Leaving a bucket alone -/

def Request.Spares (spared : String) : Request → Prop
  | update bucket _ _ => bucket ≠ spared
  | delete bucket _ => bucket ≠ spared
  | _ => True

theorem Request.leaves_of_spares {spared : String} (key : String) {request : Request}
    (spares : request.Spares spared) : request.Leaves spared key := by
  cases request with
  | update bucket otherKey value => exact .inl spares
  | delete bucket otherKey => exact .inl spares
  | ensureBucket bucket => trivial
  | get bucket otherKey => trivial
  | listKeys bucket => trivial

theorem Storage.spared (storage : Storage σ α) {spared : String} {action : Action ε β}
    {state after : σ} {outcome : Except ε β} {history : List (Exchange σ)}
    (spares : action.KeepsTo (Request.Spares spared))
    (runs : action.Runs storage.backend state outcome history after) :
    (∀ exchange ∈ history, storage.objects exchange.after spared = storage.objects state spared) ∧
      storage.objects after spared = storage.objects state spared := by
  have alone : ∀ key, (∀ exchange ∈ history,
      storage.objects exchange.after spared key = storage.objects state spared key) ∧
        storage.objects after spared key = storage.objects state spared key :=
    fun key => storage.leftAlone
      (Program.keepsTo_mono spares fun _ => Request.leaves_of_spares key) runs
  exact ⟨fun exchange member => funext fun key => (alone key).1 exchange member,
    funext fun key => (alone key).2⟩

end StoreMigration
