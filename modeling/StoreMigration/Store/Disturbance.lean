import StoreMigration.Store.Program

/-! Stores on which calls fail. A disturbance decides before each call whether the
call fails; a call that fails never reaches the store. -/

namespace StoreMigration

/-- Decides about the next call: the error with which it fails, if it does, and
what is decided with from then on. -/
abbrev Disturbance (φ : Type) := Request → φ → Option StoreError × φ

def Backend.disturbed (backend : Backend σ) (disturbance : Disturbance φ) : Backend (φ × σ) :=
  fun request state =>
    match disturbance request state.1 with
    | (some error, later) => (.error error, (later, state.2))
    | (none, later) =>
        let (response, after) := backend request state.2
        (response, (later, after))

theorem Backend.disturbed_of_failure (backend : Backend σ) {disturbance : Disturbance φ}
    {request : Request} {plan : φ} {error : StoreError}
    (fails : (disturbance request plan).1 = some error) (state : σ) :
    backend.disturbed disturbance request (plan, state) =
      (.error error, ((disturbance request plan).2, state)) := by
  cases decided : disturbance request plan with
  | mk outcome later =>
      rw [decided] at fails
      simp only at fails
      subst fails
      simp [Backend.disturbed, decided]

theorem Backend.disturbed_of_success (backend : Backend σ) {disturbance : Disturbance φ}
    {request : Request} {plan : φ} (succeeds : (disturbance request plan).1 = none)
    (state : σ) :
    backend.disturbed disturbance request (plan, state) =
      ((backend request state).1, ((disturbance request plan).2, (backend request state).2)) := by
  cases decided : disturbance request plan with
  | mk outcome later =>
      rw [decided] at succeeds
      simp only at succeeds
      subst succeeds
      simp [Backend.disturbed, decided]

/-! ## Patterns over the number of the call -/

def failingAt (pattern : Nat → Option StoreError) : Disturbance Nat :=
  fun _ number => (pattern number, number + 1)

def undisturbed : Disturbance Unit := fun _ _ => (none, ())

/-! ## Faults that match calls -/

inductive CallKind where
  | ensureBucket
  | get
  | update
  | delete
  | listKeys
  deriving DecidableEq, Repr

def Request.kind : Request → CallKind
  | .ensureBucket _ => .ensureBucket
  | .get _ _ => .get
  | .update _ _ _ => .update
  | .delete _ _ => .delete
  | .listKeys _ => .listKeys

/-- A fault that lets the first `skip` calls it matches pass and fails those after
them, `times` calls or all. -/
structure Fault where
  kind : CallKind
  bucket : Option String
  key : Option String
  message : String
  skip : Nat
  times : Option Nat
  deriving Repr

namespace Fault

def Matches (fault : Fault) (request : Request) : Bool :=
  fault.kind = request.kind && (fault.bucket.isNone || fault.bucket = some request.bucket) &&
    (fault.key.isNone || fault.key = request.key?)

/-- Try the faults in order. A fault that lets a call pass leaves it to the faults
after it. -/
def disturb (request : Request) : List Fault → Option StoreError × List Fault
  | [] => (none, [])
  | fault :: rest =>
      if !fault.Matches request then
        let (outcome, rest) := disturb request rest
        (outcome, fault :: rest)
      else
        match fault.skip, fault.times with
        | skip + 1, _ =>
            let (outcome, rest) := disturb request rest
            (outcome, { fault with skip := skip } :: rest)
        | 0, some 0 =>
            let (outcome, rest) := disturb request rest
            (outcome, fault :: rest)
        | 0, some (times + 1) =>
            (some (.backend (.reported fault.message)),
              { fault with times := some times } :: rest)
        | 0, none => (some (.backend (.reported fault.message)), fault :: rest)

def disturbance : Disturbance (List Fault) := disturb

end Fault

/-! ## Writes of a run -/

namespace Exchange

def succeeded (exchange : Exchange σ) : Bool :=
  match exchange.response with
  | .ok _ => true
  | .error _ => false

def writes (history : List (Exchange σ)) : List (Request × Bool) :=
  (history.filter fun exchange => exchange.request.isWrite).map fun exchange =>
    (exchange.request, exchange.succeeded)

end Exchange

end StoreMigration
