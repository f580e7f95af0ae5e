import StoreMigration.Store.Program

/-! Runs of actions on a backend: the result, the calls that were made and the store
that is left. A run of a composed action splits into the runs of its parts, which is
how everything that a longer action can do is read off its text. -/

namespace StoreMigration

def Backend.exchange (backend : Backend σ) (request : Request) (state : σ) : Exchange σ :=
  ⟨request, (backend request state).1, (backend request state).2⟩

theorem split_of_append {first second before later : List α} {made : α}
    (split : before ++ made :: later = first ++ second) :
    (∃ between, first = before ++ made :: between ∧ later = between ++ second) ∨
      ∃ between, before = first ++ between ∧ second = between ++ made :: later := by
  rcases List.append_eq_append_iff.mp split with
    ⟨between, inFirst, joined⟩ | ⟨between, inBefore, joined⟩
  · cases between with
    | nil => exact .inr ⟨[], by simpa using inFirst.symm, joined.symm⟩
    | cons head rest =>
        cases joined
        exact .inl ⟨rest, inFirst, rfl⟩
  · exact .inr ⟨between, inBefore, joined⟩

namespace Action

/-- The action ends with `outcome` and leaves `after`, having made the calls of
`history`. -/
structure Runs (backend : Backend σ) (action : Action ε α) (state : σ)
    (outcome : Except ε α) (history : List (Exchange σ)) (after : σ) : Prop where
  run_eq : action.run backend state = (outcome, after)
  history_eq : action.history backend state = history

namespace Runs

variable {backend : Backend σ} {state after : σ} {history : List (Exchange σ)}

theorem total (backend : Backend σ) (action : Action ε α) (state : σ) :
    Runs backend action state (action.run backend state).1 (action.history backend state)
      (action.run backend state).2 :=
  ⟨rfl, rfl⟩

theorem exist (backend : Backend σ) (action : Action ε α) (state : σ) :
    ∃ outcome history after, Runs backend action state outcome history after :=
  ⟨_, _, _, total backend action state⟩

theorem request (request : Request) (state : σ) :
    Runs backend (Action.request request) state (backend request state).1
      [backend.exchange request state] (backend request state).2 :=
  ⟨rfl, rfl⟩

theorem ofResult {result outcome : Except ε α} (known : result = outcome) (state : σ) :
    Runs backend (Action.ofResult result) state outcome [] state :=
  ⟨by rw [← known]; rfl, rfl⟩

theorem pure (result : α) (state : σ) :
    Runs backend (Pure.pure result : Action ε α) state (.ok result) [] state :=
  ⟨rfl, rfl⟩

theorem throw (error : ε) (state : σ) :
    Runs backend (MonadExcept.throw error : Action ε α) state (.error error) [] state :=
  ⟨rfl, rfl⟩

theorem withError {action : Action ε α} {outcome : Except ε α} (change : ε → ε')
    (runs : Runs backend action state outcome history after) :
    Runs backend (action.withError change) state (outcome.mapError change) history after := by
  rcases runs with ⟨ran, made⟩
  constructor
  · show (Program.bind _ _).run backend state = _
    rw [Program.run_bind]
    rw [Action.run] at ran
    rw [ran]
    rfl
  · show (Program.bind _ _).history backend state = _
    rw [Program.history_bind]
    rw [Action.history] at made
    rw [made]
    exact List.append_nil history

theorem ignoringError {action : Action ε Unit} {outcome : Except ε Unit}
    (runs : Runs backend action state outcome history after) :
    Runs backend (action.ignoringError : Action ε' Unit) state (.ok ()) history after := by
  rcases runs with ⟨ran, made⟩
  rw [Action.run] at ran
  rw [Action.history] at made
  constructor
  · show (Program.bind _ _).run backend state = _
    rw [Program.run_bind, ran]
    rfl
  · show (Program.bind _ _).history backend state = _
    rw [Program.history_bind, made]
    exact List.append_nil history

/-! ## Composed actions -/

private theorem toProgram_bind (action : Action ε α) (rest : α → Action ε β) :
    (action >>= rest).toProgram =
      action.toProgram.bind fun
        | .ok result => (rest result).toProgram
        | .error error => .done (.error error) := rfl

theorem bind_ok {action : Action ε α} {rest : α → Action ε β} {result : α}
    {outcome : Except ε β} {middle : σ} {later : List (Exchange σ)}
    (first : Runs backend action state (.ok result) history middle)
    (second : Runs backend (rest result) middle outcome later after) :
    Runs backend (action >>= rest) state outcome (history ++ later) after := by
  have ran : action.toProgram.run backend state = (.ok result, middle) := first.run_eq
  constructor
  · show (action >>= rest).toProgram.run backend state = _
    rw [toProgram_bind, Program.run_bind, ran]
    exact second.run_eq
  · show (action >>= rest).toProgram.history backend state = _
    rw [toProgram_bind, Program.history_bind, ran]
    exact congr (congrArg _ first.history_eq) second.history_eq

theorem bind_error {action : Action ε α} (rest : α → Action ε β) {error : ε}
    (first : Runs backend action state (.error error) history after) :
    Runs backend (action >>= rest) state (.error error) history after := by
  have ran : action.toProgram.run backend state = (.error error, after) := first.run_eq
  constructor
  · show (action >>= rest).toProgram.run backend state = _
    rw [toProgram_bind, Program.run_bind, ran]
    rfl
  · show (action >>= rest).toProgram.history backend state = _
    rw [toProgram_bind, Program.history_bind, ran]
    exact (List.append_nil _).trans first.history_eq

theorem unique {action : Action ε α} {left right : Except ε α}
    {leftHistory rightHistory : List (Exchange σ)} {leftAfter rightAfter : σ}
    (first : Runs backend action state left leftHistory leftAfter)
    (second : Runs backend action state right rightHistory rightAfter) :
    left = right ∧ leftHistory = rightHistory ∧ leftAfter = rightAfter := by
  have same := first.run_eq.symm.trans second.run_eq
  exact ⟨congrArg Prod.fst same, first.history_eq.symm.trans second.history_eq,
    congrArg Prod.snd same⟩

theorem of_withError {action : Action ε α} {change : ε → ε'} {outcome : Except ε' α}
    (runs : Runs backend (action.withError change) state outcome history after) :
    ∃ own, Runs backend action state own history after ∧ outcome = own.mapError change := by
  have ran := total backend action state
  rcases runs.unique (ran.withError change) with ⟨rfl, rfl, rfl⟩
  exact ⟨_, ran, rfl⟩

theorem ok_of_withError {action : Action ε α} {change : ε → ε'} {result : α}
    (runs : Runs backend (action.withError change) state (.ok result) history after) :
    Runs backend action state (.ok result) history after := by
  rcases runs.of_withError with ⟨own, ran, told⟩
  cases own with
  | error cause => cases told
  | ok _ =>
      cases told
      exact ran

theorem error_of_withError {action : Action ε α} {change : ε → ε'} {error : ε'}
    (runs : Runs backend (action.withError change) state (.error error) history after) :
    ∃ cause, Runs backend action state (.error cause) history after ∧ error = change cause := by
  rcases runs.of_withError with ⟨own, ran, told⟩
  cases own with
  | error cause => exact ⟨cause, ran, Except.error.inj told⟩
  | ok _ => cases told

theorem of_bind_error {action : Action ε α} {rest : α → Action ε β} {error : ε}
    {outcome : Except ε β} {made : List (Exchange σ)} {middle : σ}
    (runs : Runs backend (action >>= rest) state outcome history after)
    (first : Runs backend action state (.error error) made middle) :
    outcome = .error error ∧ history = made ∧ after = middle :=
  runs.unique (bind_error rest first)

theorem of_bind_ok {action : Action ε α} {rest : α → Action ε β} {result : α}
    {outcome : Except ε β} {made : List (Exchange σ)} {middle : σ}
    (runs : Runs backend (action >>= rest) state outcome history after)
    (first : Runs backend action state (.ok result) made middle) :
    ∃ later, history = made ++ later ∧ Runs backend (rest result) middle outcome later after := by
  have second := total backend (rest result) middle
  rcases runs.unique (bind_ok first second) with ⟨rfl, rfl, rfl⟩
  exact ⟨_, rfl, second⟩

/-- A composed action failed in its first part, or went on from what that came to. -/
theorem bind_cases {action : Action ε α} {rest : α → Action ε β} {outcome : Except ε β}
    (runs : Runs backend (action >>= rest) state outcome history after) :
    (∃ error, Runs backend action state (.error error) history after ∧ outcome = .error error) ∨
      ∃ result made middle later, Runs backend action state (.ok result) made middle ∧
        Runs backend (rest result) middle outcome later after ∧ history = made ++ later := by
  rcases exist backend action state with ⟨result, made, middle, first⟩
  cases result with
  | error error =>
      rcases runs.of_bind_error first with ⟨rfl, rfl, rfl⟩
      exact .inl ⟨error, first, rfl⟩
  | ok result =>
      rcases runs.of_bind_ok first with ⟨later, rfl, second⟩
      exact .inr ⟨result, made, middle, later, first, second, rfl⟩

end Runs

/-! ## Results of composed actions -/

section Results

variable {backend : Backend σ} {action : Action ε α} {state middle : σ}

theorem run_bind_of_ok {result : α} (first : action.run backend state = (.ok result, middle))
    (rest : α → Action ε β) :
    (action >>= rest).run backend state = (rest result).run backend middle :=
  (Runs.bind_ok ⟨first, rfl⟩ (Runs.total backend (rest result) middle)).run_eq

theorem run_bind_of_error {error : ε} (first : action.run backend state = (.error error, middle))
    (rest : α → Action ε β) : (action >>= rest).run backend state = (.error error, middle) :=
  (Runs.bind_error rest ⟨first, rfl⟩).run_eq

theorem fst_run_bind {result : Except ε α} (first : action.run backend state = (result, state))
    (rest : α → Action ε β) :
    ((action >>= rest).run backend state).1 =
      result >>= fun value => ((rest value).run backend state).1 := by
  cases result with
  | ok value => exact congrArg Prod.fst (run_bind_of_ok first rest)
  | error error => exact congrArg Prod.fst (run_bind_of_error first rest)

theorem run_withError {outcome : Except ε α} (ran : action.run backend state = (outcome, middle))
    (change : ε → ε') :
    (action.withError change).run backend state = (outcome.mapError change, middle) :=
  (Runs.withError change ⟨ran, rfl⟩).run_eq

theorem run_attempt {outcome : Except ε α} (ran : action.run backend state = (outcome, middle)) :
    (action.attempt : Action ε' (Except ε α)).run backend state = (.ok outcome, middle) := by
  show (Program.bind _ _).run backend state = _
  rw [Action.run] at ran
  rw [Program.run_bind, ran]
  rfl

end Results

/-! ## Look-ups of a known type -/

def decodeAnswer (decode : Json → Json.Decoded α) (bucket key : String) :
    Except StoreError (Option Json) → Except StoreError (Option α)
  | .error error => .error error
  | .ok none => .ok none
  | .ok (some value) =>
      match decode value with
      | .ok decoded => .ok (some decoded)
      | .error cause => .error (.encoding bucket key (.undecodable cause))

theorem Runs.getAs (backend : Backend σ) (decode : Json → Json.Decoded α) (bucket key : String)
    (state : σ) :
    Runs backend (Action.getAs decode bucket key) state
      (decodeAnswer decode bucket key (backend (.get bucket key) state).1)
      [backend.exchange (.get bucket key) state] (backend (.get bucket key) state).2 := by
  have asked : Runs backend (get bucket key) state (backend (.get bucket key) state).1
      [backend.exchange (.get bucket key) state] (backend (.get bucket key) state).2 :=
    Runs.request (.get bucket key) state
  cases response : (backend (.get bucket key) state).1 with
  | error error =>
      rw [response] at asked
      exact asked.bind_error _
  | ok found =>
      rw [response] at asked
      cases found with
      | none => exact asked.bind_ok (Runs.pure none _)
      | some value =>
          refine asked.bind_ok ?_
          cases decoded : decode value with
          | ok result =>
              simp only [decodeAnswer, decoded]
              exact Runs.pure (some result) _
          | error cause =>
              simp only [decodeAnswer, decoded]
              exact Runs.throw (StoreError.encoding bucket key (.undecodable cause)) _

theorem Runs.contains (backend : Backend σ) (bucket key : String) (state : σ) :
    Runs backend (Action.contains bucket key) state
      ((backend (.get bucket key) state).1.map Option.isSome)
      [backend.exchange (.get bucket key) state] (backend (.get bucket key) state).2 := by
  have asked : Runs backend (get bucket key) state (backend (.get bucket key) state).1
      [backend.exchange (.get bucket key) state] (backend (.get bucket key) state).2 :=
    Runs.request (.get bucket key) state
  cases response : (backend (.get bucket key) state).1 with
  | error error =>
      rw [response] at asked
      exact asked.bind_error _
  | ok found =>
      rw [response] at asked
      exact asked.bind_ok (Runs.pure found.isSome _)

end Action

end StoreMigration
