import StoreMigration.Store.Call

/-! Programs over a store. A program is the tree of the calls it makes, where each
call is followed by one branch for every result that it can have. It knows nothing
of the store it runs on: the same program runs on any backend, with or without
failing calls, and every call that it makes can be observed. -/

namespace StoreMigration

inductive Program (α : Type) where
  | done (result : α)
  | call (request : Request) (next : Response request → Program α)

structure Exchange (σ : Type) where
  request : Request
  response : Response request
  after : σ

namespace Program

def bind : Program α → (α → Program β) → Program β
  | done result, rest => rest result
  | call request next, rest => call request fun response => (next response).bind rest

instance : Monad Program where
  pure := done
  bind := bind

@[simp] theorem bind_done (result : α) (rest : α → Program β) :
    (done result).bind rest = rest result := rfl

theorem bind_pure (program : Program α) : program.bind done = program := by
  induction program with
  | done result => rfl
  | call request next induction => exact congrArg (call request) (funext induction)

theorem bind_assoc (program : Program α) (second : α → Program β) (third : β → Program γ) :
    (program.bind second).bind third = program.bind fun result => (second result).bind third := by
  induction program with
  | done result => rfl
  | call request next induction => exact congrArg (call request) (funext induction)

instance : LawfulMonad Program :=
  LawfulMonad.mk' Program bind_pure (fun _ _ => rfl) bind_assoc

/-! ## Running -/

def run (backend : Backend σ) : Program α → σ → α × σ
  | done result, state => (result, state)
  | call request next, state =>
      let (response, after) := backend request state
      (next response).run backend after

def history (backend : Backend σ) : Program α → σ → List (Exchange σ)
  | done _, _ => []
  | call request next, state =>
      let (response, after) := backend request state
      ⟨request, response, after⟩ :: (next response).history backend after

@[simp] theorem run_done (backend : Backend σ) (result : α) (state : σ) :
    (done result).run backend state = (result, state) := rfl

@[simp] theorem run_call (backend : Backend σ) (request : Request)
    (next : Response request → Program α) (state : σ) :
    (call request next).run backend state =
      (next (backend request state).1).run backend (backend request state).2 := rfl

theorem history_call (backend : Backend σ) (request : Request)
    (next : Response request → Program α) (state : σ) :
    (call request next).history backend state =
      ⟨request, (backend request state).1, (backend request state).2⟩ ::
        (next (backend request state).1).history backend (backend request state).2 := rfl

theorem run_bind (backend : Backend σ) (program : Program α) (rest : α → Program β) (state : σ) :
    (program.bind rest).run backend state =
      (rest (program.run backend state).1).run backend (program.run backend state).2 := by
  induction program generalizing state with
  | done result => rfl
  | call request next induction => exact induction _ _

theorem history_bind (backend : Backend σ) (program : Program α) (rest : α → Program β)
    (state : σ) :
    (program.bind rest).history backend state =
      program.history backend state ++
        (rest (program.run backend state).1).history backend (program.run backend state).2 := by
  induction program generalizing state with
  | done result => rfl
  | call request next induction =>
      exact congrArg (_ :: ·) (induction _ _)

end Program

/-! ## Programs that can fail -/

abbrev Action (ε α : Type) := ExceptT ε Program α

namespace Action

def ofProgram (program : Program (Except ε α)) : Action ε α := ExceptT.mk program

def toProgram (action : Action ε α) : Program (Except ε α) := ExceptT.run action

def ofResult (result : Except ε α) : Action ε α := ofProgram (.done result)

def withError (change : ε → ε') (action : Action ε α) : Action ε' α :=
  ofProgram (action.toProgram.bind fun result => .done (result.mapError change))

def ignoringError (action : Action ε Unit) : Action ε' Unit :=
  ofProgram (action.toProgram.bind fun _ => .done (.ok ()))

def attempt (action : Action ε α) : Action ε' (Except ε α) :=
  ofProgram (action.toProgram.bind fun result => .done (.ok result))

def run (backend : Backend σ) (action : Action ε α) (state : σ) : Except ε α × σ :=
  action.toProgram.run backend state

def history (backend : Backend σ) (action : Action ε α) (state : σ) : List (Exchange σ) :=
  action.toProgram.history backend state

/-! ## The calls -/

def request (request : Request) : Action StoreError request.Answer :=
  ofProgram (.call request .done)

def ensureBucket (bucket : String) : Action StoreError Unit :=
  request (.ensureBucket bucket)

def get (bucket key : String) : Action StoreError (Option Json) :=
  request (.get bucket key)

def update (bucket key : String) (value : Json) : Action StoreError Unit :=
  request (.update bucket key value)

def delete (bucket key : String) : Action StoreError Unit :=
  request (.delete bucket key)

def listKeys (bucket : String) : Action StoreError (List String) :=
  request (.listKeys bucket)

/-- An object taken for a value of a known type; `none` where there is no object. -/
def getAs (decode : Json → Json.Decoded α) (bucket key : String) :
    Action StoreError (Option α) := do
  match ← get bucket key with
  | none => return none
  | some value =>
      match decode value with
      | .ok decoded => return some decoded
      | .error cause => throw (.encoding bucket key (.undecodable cause))

/-- Whether there is an object at all, be it `null`. -/
def contains (bucket key : String) : Action StoreError Bool := do
  return (← get bucket key).isSome

end Action

end StoreMigration
