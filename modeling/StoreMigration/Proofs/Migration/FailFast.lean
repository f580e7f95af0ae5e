import StoreMigration.Proofs.Migration.Bridge
import StoreMigration.Proofs.Migration.Transforms
import StoreMigration.Proofs.Store.Overlooking

/-! What comes of a call that fails. An action fails fast from a store when a call that fails,
unless it is excused, is the last that it makes, and its error is the one that the call is to
blame for. What is to blame is told of the calls that were made before, so that the parts of an
action can be followed to the step that was running. -/

namespace StoreMigration

open Bookkeeping

namespace Action

/-! ## Failing fast -/

/-- Which error a call that was made after some others and failed is to blame for. -/
abbrev Blame (σ ε : Type) := List (Exchange σ) → Exchange σ → StoreError → ε → Prop

/-- The same for what is left of a run once the calls of `made` were made. -/
abbrev Blame.after (blames : Blame σ ε) (made : List (Exchange σ)) : Blame σ ε :=
  fun before => blames (made ++ before)

/-- A call that fails and is not excused is the last, and what it is to blame for is the error. -/
structure FailsFast (backend : Backend σ) (excused : Request → Prop) (blames : Blame σ ε)
    (action : Action ε α) (state : σ) : Prop where
  last : ∀ {outcome before exchange later after fault},
    action.Runs backend state outcome (before ++ exchange :: later) after →
    exchange.response = .error fault → ¬ excused exchange.request →
      later = [] ∧ ∃ error, outcome = .error error ∧ blames before exchange fault error

abbrev PassesOn (backend : Backend σ) (excused : Request → Prop) (action : Action StoreError α) :
    Prop :=
  ∀ state, action.FailsFast backend excused (fun _ _ fault error => error = fault) state

variable {backend : Backend σ} {excused : Request → Prop} {blames : Blame σ ε} {state : σ}

theorem FailsFast.mono {action : Action ε α} {others : Blame σ ε}
    (fast : action.FailsFast backend excused others state)
    (more : ∀ before exchange fault error,
      others before exchange fault error → blames before exchange fault error) :
    action.FailsFast backend excused blames state := by
  constructor
  intro outcome before exchange later after fault runs failed counts
  rcases fast.last runs failed counts with ⟨last, error, told, blamed⟩
  exact ⟨last, error, told, more before exchange fault error blamed⟩

theorem failsFast_of_excused {action : Action ε α} (keeps : action.KeepsTo excused) :
    action.FailsFast backend excused blames state := by
  constructor
  intro outcome before exchange later after fault runs _ counts
  exact absurd (runs.keepsTo keeps List.mem_append_cons_self) counts

theorem FailsFast.bind {action : Action ε α} {rest : α → Action ε β}
    (first : action.FailsFast backend excused blames state)
    (second : ∀ {result made middle}, action.Runs backend state (.ok result) made middle →
      (rest result).FailsFast backend excused (blames.after made) middle) :
    (action >>= rest).FailsFast backend excused blames state := by
  constructor
  intro outcome before exchange later after fault runs failed counts
  rcases runs.bind_cases with ⟨error, only, rfl⟩ | ⟨result, made, middle, more, own, others, split⟩
  · rcases first.last only failed counts with ⟨last, same, told, blamed⟩
    cases told
    exact ⟨last, error, rfl, blamed⟩
  · rcases split_of_append split with ⟨between, rfl, _⟩ | ⟨earlier, rfl, rfl⟩
    · rcases first.last own failed counts with ⟨_, error, impossible, _⟩
      cases impossible
    · exact (second own).last others failed counts

theorem PassesOn.withError {action : Action StoreError α} {allowed : Request → Prop}
    {change : StoreError → ε} (passesOn : action.PassesOn backend excused)
    (keeps : action.KeepsTo allowed)
    (blamed : ∀ before exchange fault, allowed exchange.request →
      blames before exchange fault (change fault)) :
    (action.withError change).FailsFast backend excused blames state := by
  constructor
  intro outcome before exchange later after fault runs failed counts
  rcases runs.of_withError with ⟨own, ran, rfl⟩
  rcases (passesOn state).last ran failed counts with ⟨last, error, rfl, rfl⟩
  exact ⟨last, change error, rfl,
    blamed before exchange error (ran.keepsTo keeps List.mem_append_cons_self)⟩

/-! ## Passing errors on -/

theorem passesOn_request (request : Request) :
    (Action.request request).PassesOn backend excused := by
  intro state
  constructor
  intro outcome before exchange later after fault runs failed _
  rcases runs.unique (.request request state) with ⟨rfl, only, rfl⟩
  rcases List.append_eq_singleton_iff.mp only with ⟨rfl, only⟩ | ⟨_, impossible⟩
  · cases only
    exact ⟨rfl, fault, failed, rfl⟩
  · cases impossible

theorem passesOn_bind {action : Action StoreError α} {rest : α → Action StoreError β}
    (first : action.PassesOn backend excused)
    (second : ∀ result, (rest result).PassesOn backend excused) :
    (action >>= rest).PassesOn backend excused :=
  fun state => (first state).bind fun {result _ middle} _ => second result middle

theorem passesOn_pure (result : α) :
    (pure result : Action StoreError α).PassesOn backend excused :=
  fun _ => failsFast_of_excused (keepsTo_pure result)

theorem passesOn_throw (error : StoreError) :
    (throw error : Action StoreError α).PassesOn backend excused :=
  fun _ => failsFast_of_excused (keepsTo_throw error)

theorem passesOn_getAs (decode : Json → Json.Decoded α) (bucket key : String) :
    (getAs decode bucket key).PassesOn backend excused := by
  apply passesOn_bind (passesOn_request (.get bucket key))
  intro found
  split
  · exact passesOn_pure none
  · split
    · exact passesOn_pure _
    · exact passesOn_throw _

theorem passesOn_contains (bucket key : String) : (contains bucket key).PassesOn backend excused :=
  passesOn_bind (passesOn_request (.get bucket key)) fun _ => passesOn_pure _

theorem PassesOn.succeeded {action : Action StoreError α}
    (passesOn : action.PassesOn backend fun _ => False) {state after : σ}
    {outcome : Except StoreError α} {earlier : List (Exchange σ)} {last : Exchange σ}
    (runs : action.Runs backend state outcome (earlier ++ [last]) after) :
    ∀ exchange ∈ earlier, exchange.succeeded = true := by
  intro exchange member
  rcases List.append_of_mem member with ⟨before, later, rfl⟩
  cases response : exchange.response with
  | ok answer => rw [Exchange.succeeded, response]
  | error fault =>
      rw [List.append_assoc, List.cons_append] at runs
      have ends := ((passesOn state).last runs response not_false).1
      cases (List.append_eq_nil_iff.mp ends).2

/-! ## Failing by a call -/

/-- The action has no error of its own: it fails with that of its last call. -/
def FailsByCall (backend : Backend σ) (action : Action StoreError α) : Prop :=
  ∀ state error history after, action.Runs backend state (.error error) history after →
    ∃ earlier failing, history = earlier ++ [failing] ∧ failing.response = .error error

theorem failsByCall_pure (result : α) :
    (pure result : Action StoreError α).FailsByCall backend := by
  intro state error history after runs
  cases (runs.unique (.pure result state)).1

theorem failsByCall_request (request : Request) : (Action.request request).FailsByCall backend := by
  intro state error history after runs
  rcases runs.unique (.request request state) with ⟨failed, rfl, _⟩
  exact ⟨[], backend.exchange request state, rfl, failed.symm⟩

theorem failsByCall_bind {action : Action StoreError α} {rest : α → Action StoreError β}
    (first : action.FailsByCall backend) (second : ∀ result, (rest result).FailsByCall backend) :
    (action >>= rest).FailsByCall backend := by
  intro state error history after runs
  rcases runs.bind_cases with ⟨failure, only, same⟩ | ⟨result, made, middle, more, own, others, rfl⟩
  · cases same
    exact first state error history after only
  · rcases second result middle error more after others with ⟨earlier, failing, rfl, failed⟩
    exact ⟨made ++ earlier, failing, (List.append_assoc made earlier [failing]).symm, failed⟩

end Action

/-! ## Steps -/

section Steps

variable {backend : Backend σ} {excused : Request → Prop} {state : σ}

namespace FieldEdit

variable (edit : FieldEdit) (bucket : String)

theorem passesOn_editKey (key : String) : (edit.editKey bucket key).PassesOn backend excused := by
  apply Action.passesOn_bind (Action.passesOn_request (.get bucket key))
  intro found
  split
  · split
    · exact Action.passesOn_request _
    · exact Action.passesOn_pure ()
  · exact Action.passesOn_pure ()

theorem passesOn_editKeys (keys : List String) :
    (edit.editKeys bucket keys).PassesOn backend excused := by
  induction keys with
  | nil => exact Action.passesOn_pure ()
  | cons key rest induction =>
      exact Action.passesOn_bind (edit.passesOn_editKey bucket key) fun _ => induction

theorem failsByCall_editKey (key : String) : (edit.editKey bucket key).FailsByCall backend := by
  apply Action.failsByCall_bind (Action.failsByCall_request (.get bucket key))
  intro found
  split
  · split
    · exact Action.failsByCall_request _
    · exact Action.failsByCall_pure ()
  · exact Action.failsByCall_pure ()

theorem passesOn_editBucket : (edit.editBucket bucket).PassesOn backend excused := by
  apply Action.passesOn_bind (Action.passesOn_request (.ensureBucket bucket))
  intro _
  apply Action.passesOn_bind (Action.passesOn_request (.listKeys bucket))
  intro keys
  exact edit.passesOn_editKeys bucket keys

end FieldEdit

namespace Step

/-- A step that is made for some bucket other than the bookkeeping's, or the step of a floor. -/
inductive Routine : Step → Prop
  | editing (name : String) {bucket : String} (edit : FieldEdit)
      (elsewhere : bucket ≠ Bookkeeping.bucket) : Routine (editing name bucket edit)
  | deleteKey (name : String) {bucket : String} (key : String)
      (elsewhere : bucket ≠ Bookkeeping.bucket) : Routine (deleteKey name bucket key)
  | floor : Routine rejectUnsupported

variable {step : Step}

theorem Routine.elsewhere (routine : step.Routine) :
    step.body.KeepsTo fun request => request.bucket ≠ Bookkeeping.bucket := by
  have within {bucket : String} (elsewhere : bucket ≠ Bookkeeping.bucket)
      (keeps : step.Within [bucket]) :
      step.body.KeepsTo fun request => request.bucket ≠ Bookkeeping.bucket := by
    apply Program.keepsTo_mono keeps
    intro request named
    rw [List.mem_singleton.mp named]
    exact elsewhere
  cases routine with
  | editing name edit elsewhere =>
      exact within elsewhere (within_editing name edit List.mem_cons_self)
  | deleteKey name key elsewhere =>
      exact within elsewhere (within_deleteKey name key List.mem_cons_self)
  | floor => exact Action.keepsTo_throw _

theorem Routine.failsFast (routine : step.Routine) :
    step.body.FailsFast backend excused (fun _ _ fault error => error = .store fault) state := by
  have ofStore {body : Action StoreError Unit} (passesOn : body.PassesOn backend excused)
      (keeps : body.KeepsTo fun _ => True) : (body.withError StepError.store).FailsFast backend
        excused (fun _ _ fault error => error = .store fault) state :=
    passesOn.withError keeps fun _ _ _ _ => rfl
  have anywhere {body : Action StoreError Unit} {bucket : String}
      (keeps : body.KeepsTo fun request => request.bucket = bucket) : body.KeepsTo fun _ => True :=
    Program.keepsTo_mono keeps fun _ _ => trivial
  cases routine with
  | editing name edit elsewhere =>
      exact ofStore (edit.passesOn_editBucket _) (anywhere (edit.keepsTo_editBucket _))
  | deleteKey name key elsewhere =>
      apply ofStore
      · exact Action.passesOn_bind (Action.passesOn_request _) fun _ => Action.passesOn_request _
      · exact Action.keepsTo_bind (Action.keepsTo_request trivial) fun _ =>
          Action.keepsTo_request trivial
  | floor => exact Action.failsFast_of_excused (Action.keepsTo_throw _)

end Step

end Steps

/-! ## Migrations -/

def Legacy.Place (place label : String) : Prop :=
  place = bucket ∧ label ∈ keys

abbrev Legacy.Deletes (request : Request) : Prop :=
  request.Drops Place

inductive Bookkeeping.Blames (exchange : Exchange σ) (fault : StoreError) : MigrationError → Prop
  | prepared (request : exchange.request = .ensureBucket bucket) :
      Blames exchange fault (.store fault)
  | looked {key : String} (request : exchange.request = .get bucket key) :
      Blames exchange fault (.store fault)
  | wrote {key : String} {value : Json} (among : key = recordKey ∨ key = updatingKey)
      (request : exchange.request = .update bucket key value) :
      Blames exchange fault (.notPersisted key fault)

/-- Which error of a run a call is to blame for. A call outside the bookkeeping is one of the
step that was running: the run had made its plan from the record that it fetched, the steps of
the plan before that one were completed, and this one fails with the call. -/
inductive Registry.Blames (backend : Backend σ) (registry : Registry) (target : String)
    (state : σ) : Action.Blame σ MigrationError
  | bookkeeping {before : List (Exchange σ)} {exchange : Exchange σ} {fault : StoreError}
      {error : MigrationError} (told : Bookkeeping.Blames exchange fault error) :
      Blames backend registry target state before exchange fault error
  | step {version : Version} {record : VersionRecord} {plan : Plan} {done rest : List Step}
      {running : Step} {made own : List (Exchange σ)} {exchange : Exchange σ}
      {fault : StoreError} {middle after : σ}
      (begun : Begun backend registry target state version record plan)
      (planned : registry.unskipped plan = done ++ running :: rest)
      (completed : Completes backend done (ready backend state) made middle)
      (body : running.body.Runs backend middle (.error (.store fault)) (own ++ [exchange]) after)
      (elsewhere : exchange.request.bucket ≠ bucket) :
      Blames backend registry target state (opening backend state ++ (made ++ own)) exchange fault
        (.stepFailed running.name (.store fault))

/-- Which error of a migration a call is to blame for. A call that the registry makes comes after
those by which the migration got its record. -/
inductive Migrator.Blames (backend : Backend σ) (migrator : Migrator) (target : String)
    (state : σ) : Action.Blame σ MigrationError
  | bookkeeping {before : List (Exchange σ)} {exchange : Exchange σ} {fault : StoreError}
      {error : MigrationError} (told : Bookkeeping.Blames exchange fault error) :
      Blames backend migrator target state before exchange fault error
  | registry {version : Version} {source : RecordSource} {made calls between : List (Exchange σ)}
      {reached entry : σ} {exchange : Exchange σ} {fault : StoreError} {error : MigrationError}
      (valid : Version.read target = .ok version)
      (prepared : prepare.Runs backend state (.ok ()) made reached)
      (bootstrapped : (migrator.bootstrap version).Runs backend reached (.ok source) calls entry)
      (blamed : migrator.registry.Blames backend target entry between exchange fault error) :
      Blames backend migrator target state (made ++ (calls ++ between)) exchange fault error

def Registry.Routine (registry : Registry) : Prop :=
  ∀ descriptor ∈ registry.descriptors, ∀ step ∈ descriptor.steps, step.Routine

def Registry.KeepsOutOf (registry : Registry) (bucket : String) : Prop :=
  ∀ descriptor ∈ registry.descriptors, ∀ step ∈ descriptor.steps,
    step.body.KeepsTo fun request => request.bucket ≠ bucket

theorem Registry.Routine.keepsOut {registry : Registry} (routine : registry.Routine) :
    registry.KeepsOutOf bucket := fun descriptor inRegistry step inSteps =>
  (routine descriptor inRegistry step inSteps).elsewhere

section Migrations

variable {backend : Backend σ} {excused : Request → Prop} {registry : Registry} {target : String}
  {state : σ}

/-! ### One error for each call -/

theorem Bookkeeping.Blames.within {exchange : Exchange σ} {fault : StoreError}
    {error : MigrationError} (told : Blames exchange fault error) :
    exchange.request.bucket = bucket := by
  cases told with
  | prepared request => rw [request]; rfl
  | looked request => rw [request]; rfl
  | wrote among request => rw [request]; rfl

theorem Bookkeeping.Blames.unique {exchange : Exchange σ} {fault : StoreError}
    {one other : MigrationError} (told : Blames exchange fault one)
    (toldToo : Blames exchange fault other) : one = other := by
  cases told with
  | prepared request =>
      cases toldToo with
      | prepared _ => rfl
      | looked _ => rfl
      | wrote _ requestToo => cases request.symm.trans requestToo
  | looked request =>
      cases toldToo with
      | prepared _ => rfl
      | looked _ => rfl
      | wrote _ requestToo => cases request.symm.trans requestToo
  | wrote among request =>
      cases toldToo with
      | prepared requestToo => cases request.symm.trans requestToo
      | looked requestToo => cases request.symm.trans requestToo
      | wrote _ requestToo =>
          cases request.symm.trans requestToo
          rfl

/-- The step that fails first of some is the only one that can be said to. -/
theorem Completes.running_unique {done doneToo rest restToo : List Step} {running other : Step}
    {made madeToo own ownToo : List (Exchange σ)} {middle middleToo after afterToo : σ}
    {cause causeToo : StepError} (completed : Completes backend done state made middle)
    (fails : running.body.Runs backend middle (.error cause) own after)
    (completedToo : Completes backend doneToo state madeToo middleToo)
    (failsToo : other.body.Runs backend middleToo (.error causeToo) ownToo afterToo)
    (same : done ++ running :: rest = doneToo ++ other :: restToo) : running = other := by
  -- A step that completes in one account cannot be the one that fails in the other, since it
  -- runs from the same state in both.
  induction completed generalizing doneToo madeToo with
  | nil =>
      cases completedToo with
      | nil => exact (List.cons.inj same).1
      | cons first _ =>
          cases (List.cons.inj same).1
          cases (fails.unique first).1
  | cons first _ induction =>
      cases completedToo with
      | nil =>
          cases (List.cons.inj same).1
          cases (first.unique failsToo).1
      | cons firstToo othersToo =>
          cases (List.cons.inj same).1
          rcases first.unique firstToo with ⟨_, _, rfl⟩
          exact induction fails othersToo (List.cons.inj same).2

theorem Bookkeeping.Blames.only {before : List (Exchange σ)} {exchange : Exchange σ}
    {fault : StoreError} {one other : MigrationError} (told : Blames exchange fault one)
    (blamed : registry.Blames backend target state before exchange fault other) : one = other := by
  cases blamed with
  | bookkeeping toldToo => exact told.unique toldToo
  | step _ _ _ _ elsewhere => exact absurd told.within elsewhere

theorem Registry.Blames.unique {before beforeToo : List (Exchange σ)} {exchange : Exchange σ}
    {fault : StoreError} {one other : MigrationError}
    (blamed : registry.Blames backend target state before exchange fault one)
    (blamedToo : registry.Blames backend target state beforeToo exchange fault other) :
    one = other := by
  cases blamed with
  | bookkeeping told => exact told.only blamedToo
  | step begun planned completed body elsewhere =>
      cases blamedToo with
      | bookkeeping toldToo => exact absurd toldToo.within elsewhere
      | step begunToo plannedToo completedToo bodyToo _ =>
          rcases begun.unique begunToo with ⟨rfl, rfl, rfl⟩
          rw [completed.running_unique body completedToo bodyToo (planned.symm.trans plannedToo)]

/-- Where a migration came from and the call that failed leave no choice of the error. -/
theorem Migrator.Blames.unique {migrator : Migrator} {before beforeToo : List (Exchange σ)}
    {exchange : Exchange σ} {fault : StoreError} {one other : MigrationError}
    (blamed : migrator.Blames backend target state before exchange fault one)
    (blamedToo : migrator.Blames backend target state beforeToo exchange fault other) :
    one = other := by
  cases blamed with
  | bookkeeping told =>
      cases blamedToo with
      | bookkeeping toldToo => exact told.unique toldToo
      | registry _ _ _ blamedToo => exact told.only blamedToo
  | registry valid prepared bootstrapped blamed =>
      cases blamedToo with
      | bookkeeping toldToo => exact (toldToo.only blamed).symm
      | registry validToo preparedToo bootstrappedToo blamedToo =>
          rcases prepared.unique preparedToo with ⟨_, rfl, rfl⟩
          cases valid.symm.trans validToo
          rcases bootstrapped.unique bootstrappedToo with ⟨_, rfl, rfl⟩
          exact blamed.unique blamedToo

namespace Registry

/-! ### The calls of the bookkeeping -/

abbrev byKind : Action.Blame σ MigrationError :=
  fun _ => Bookkeeping.Blames

theorem failsFast_pure {blames : Action.Blame σ MigrationError} (result : α) :
    (pure result : Action MigrationError α).FailsFast backend excused blames state :=
  Action.failsFast_of_excused (Action.keepsTo_pure result)

theorem failsFast_throw {blames : Action.Blame σ MigrationError} (error : MigrationError) :
    (throw error : Action MigrationError α).FailsFast backend excused blames state :=
  Action.failsFast_of_excused (Action.keepsTo_throw error)

theorem failsFast_ofResult {blames : Action.Blame σ MigrationError}
    (result : Except MigrationError α) :
    (Action.ofResult result).FailsFast backend excused blames state :=
  Action.failsFast_of_excused (Action.keepsTo_ofResult result)

theorem failsFast_find (decode : Json → Json.Decoded α) (key : String) :
    (Action.withError MigrationError.store (Action.getAs decode bucket key)).FailsFast backend
      excused byKind state := by
  have looks : (Action.getAs decode bucket key).KeepsTo (· = .get bucket key) :=
    Action.keepsTo_getAs decode rfl
  exact Action.PassesOn.withError (Action.passesOn_getAs decode bucket key) looks
    fun _ _ _ request => .looked request

theorem failsFast_contains (key : String) :
    (Action.withError MigrationError.store (Action.contains bucket key)).FailsFast backend excused
      byKind state := by
  have looks : (Action.contains bucket key).KeepsTo (· = .get bucket key) :=
    Action.keepsTo_bind (Action.keepsTo_request rfl) fun _ => Action.keepsTo_pure _
  exact Action.PassesOn.withError (Action.passesOn_contains bucket key) looks
    fun _ _ _ request => .looked request

theorem failsFast_persist {key : String} (among : key = recordKey ∨ key = updatingKey)
    (value : Json) : (persist key (Action.update bucket key value)).FailsFast backend excused
      byKind state := by
  have writes : (Action.update bucket key value).KeepsTo (· = .update bucket key value) :=
    Action.keepsTo_request rfl
  exact Action.PassesOn.withError (Action.passesOn_request _) writes
    fun _ _ _ request => .wrote among request

theorem failsFast_writeRecord (record : VersionRecord) :
    (persist recordKey (writeRecord record)).FailsFast backend excused byKind state :=
  failsFast_persist (.inl rfl) record.toJson

theorem failsFast_setUpdating (flag : Bool) :
    (persist updatingKey (setUpdating flag)).FailsFast backend excused byKind state :=
  failsFast_persist (.inr rfl) (.bool flag)

theorem failsFast_record : record.FailsFast backend excused byKind state := by
  apply (failsFast_find VersionRecord.ofJson recordKey).bind
  intro found _ _ _
  split
  · exact failsFast_pure _
  · exact failsFast_throw _

/-! ### The registry -/

theorem responded_of_completes {steps : List Step} {state after : σ}
    {history : List (Exchange σ)} (completes : Completes backend steps state history after)
    (routine : ∀ step ∈ steps, step.Routine) :
    ∀ exchange ∈ history, ∀ fault, exchange.response ≠ .error fault := by
  induction completes with
  | nil => nofun
  | @cons step rest state _ _ _ _ body _ induction =>
      intro exchange member fault failed
      rcases List.mem_append.mp member with own | later
      · rcases List.append_of_mem own with ⟨before, behind, rfl⟩
        have fast : step.body.FailsFast backend (fun _ => False)
            (fun _ _ fault error => error = .store fault) state :=
          (routine step List.mem_cons_self).failsFast
        rcases fast.last body failed not_false with ⟨_, _, impossible, _⟩
        cases impossible
      · have routineRest : ∀ other ∈ rest, other.Routine := fun other member =>
          routine other (List.mem_cons_of_mem step member)
        exact induction routineRest exchange later fault failed

/-- A call that fails ends the steps with the one that was running. -/
theorem last_of_runSteps {steps : List Step} (routine : ∀ step ∈ steps, step.Routine)
    {state after : σ} {outcome : Except MigrationError (List String)}
    {before later : List (Exchange σ)} {exchange : Exchange σ} {fault : StoreError}
    (runs : (runSteps steps).Runs backend state outcome (before ++ exchange :: later) after)
    (failed : exchange.response = .error fault) :
    later = [] ∧ ∃ done running rest made middle own, steps = done ++ running :: rest ∧
      before = made ++ own ∧ outcome = .error (.stepFailed running.name (.store fault)) ∧
      Completes backend done state made middle ∧
      running.body.Runs backend middle (.error (.store fault)) (own ++ [exchange]) after := by
  cases outcome with
  | ok names =>
      have responded := responded_of_completes (completes_of_runSteps runs).1 routine
      exact absurd failed (responded exchange List.mem_append_cons_self fault)
  | error error =>
      rcases stops_of_runSteps runs with
        ⟨running, cause, rfl, done, rest, middle, made, own, rfl, split, completes, body⟩
      -- The steps before the one that stopped were completed, so the call is not one of theirs.
      rcases split_of_append split with ⟨between, rfl, _⟩ | ⟨earlier, rfl, rfl⟩
      · have routineDone : ∀ step ∈ done, step.Routine := fun step member =>
          routine step (List.mem_append_left _ member)
        have responded := responded_of_completes completes routineDone
        exact absurd failed (responded exchange List.mem_append_cons_self fault)
      · have fast : running.body.FailsFast backend (fun _ => False)
            (fun _ _ fault error => error = .store fault) middle :=
          (routine running List.mem_append_cons_self).failsFast
        rcases fast.last body failed not_false with ⟨rfl, _, same, rfl⟩
        cases same
        exact ⟨rfl, done, running, rest, made, middle, earlier, rfl, rfl, rfl, completes, body⟩

theorem failsFast_pending (routine : registry.Routine) {version : Version}
    {record : VersionRecord} {plan : Plan}
    (begun : Begun backend registry target state version record plan) :
    (runSteps (registry.pending plan)).FailsFast backend excused
      ((registry.Blames backend target state).after (opening backend state))
      (ready backend state) := by
  have routineToo : ∀ step ∈ registry.pending plan, step.Routine := by
    intro step member
    rcases mem_selectSteps member with ⟨descriptor, registered, listed⟩
    exact routine descriptor registered step listed
  constructor
  intro outcome before exchange later after fault runs failed _
  rcases last_of_runSteps routineToo runs failed with
    ⟨last, done, running, rest, made, middle, own, split, rfl, told, completed, body⟩
  have listed : running ∈ registry.pending plan := by
    rw [split]
    exact List.mem_append_cons_self
  have elsewhere := body.keepsTo (routineToo running listed).elsewhere List.mem_append_cons_self
  rw [pending_eq_unskipped] at split
  exact ⟨last, _, told, .step begun split completed body elsewhere⟩

theorem failsFast_carryOut (routine : registry.Routine) {version : Version}
    {record : VersionRecord} {plan : Plan}
    (begun : Begun backend registry target state version record plan) :
    (registry.carryOut record plan).FailsFast backend excused
      ((registry.Blames backend target state).after (opening backend state))
      (ready backend state) := by
  apply (failsFast_pending routine begun).bind
  intro names _ _ _
  apply ((failsFast_writeRecord _).mono fun _ _ _ _ told => .bookkeeping told).bind
  intro _ _ _ _
  apply ((failsFast_setUpdating false).mono fun _ _ _ _ told => .bookkeeping told).bind
  intro _ _ _ _
  exact failsFast_pure _

theorem failsFast_run (routine : registry.Routine) (target : String) (state : σ) :
    (registry.run target).FailsFast backend excused (registry.Blames backend target state)
      state := by
  apply (failsFast_ofResult _).bind
  intro version made middle parse
  rcases parse.unique (.ofResult rfl state) with ⟨parsed, rfl, reached⟩
  subst reached
  apply ((failsFast_setUpdating true).mono fun _ _ _ _ told => .bookkeeping told).bind
  intro answer made flagged raise
  rcases raise.unique (runs_setUpdating backend middle true) with ⟨told, rfl, rfl⟩
  have raised : (backend (flagRequest true) middle).1 = .ok () := by
    cases response : (backend (flagRequest true) middle).1 with
    | ok _ => rfl
    | error cause =>
        rw [response] at told
        cases told
  apply (failsFast_record.mono fun _ _ _ _ told => .bookkeeping told).bind
  intro record made fetched fetch
  rcases fetch.unique (runs_record backend _) with ⟨found, rfl, rfl⟩
  apply (failsFast_ofResult _).bind
  intro plan made ready make
  rcases make.unique (.ofResult rfl _) with ⟨planned, rfl, rfl⟩
  exact failsFast_carryOut routine
    ⟨valid_of_parseTarget parsed.symm, raised, found.symm, planned.symm⟩

end Registry

/-! ### The record -/

namespace Legacy

theorem failsFast_record? : record?.FailsFast backend excused Registry.byKind state := by
  apply (Registry.failsFast_find Json.decodeInt64 versionKey).bind
  intro number _ _ _
  split
  · exact Registry.failsFast_pure none
  · apply (Registry.failsFast_find Json.decodeInt64 editionKey).bind
    intro edition _ _ _
    apply (Registry.failsFast_ofResult _).bind
    intro edition _ _ _
    apply (Registry.failsFast_find Json.decodeString instanceKey).bind
    intro instanceId _ _ _
    apply (Registry.failsFast_ofResult _).bind
    intro instanceId _ _ _
    exact (Registry.failsFast_ofResult _).bind fun _ => Registry.failsFast_pure _

theorem failsFast_removal {key : String} (member : key ∈ keys) :
    (Action.ignoringError (Action.delete bucket key) : Action MigrationError Unit).FailsFast backend
      Deletes Registry.byKind state := by
  have excused : (Action.delete bucket key).KeepsTo Deletes :=
    Action.keepsTo_request ⟨bucket, key, rfl, rfl, member⟩
  exact Action.failsFast_of_excused (Action.keepsTo_ignoringError excused)

theorem failsFast_bridge : bridge.FailsFast backend Deletes Registry.byKind state := by
  apply (Registry.failsFast_find VersionRecord.ofJson recordKey).bind
  intro recorded _ _ _
  split
  · exact (Registry.failsFast_contains versionKey).bind fun _ => Registry.failsFast_pure _
  · apply failsFast_record?.bind
    intro imported _ _ _
    split
    · exact Registry.failsFast_pure _
    · apply (Registry.failsFast_writeRecord _).bind
      intro _ _ _ _
      apply (failsFast_removal (by decide)).bind
      intro _ _ _ _
      apply (failsFast_removal (by decide)).bind
      intro _ _ _ _
      apply (failsFast_removal (by decide)).bind
      intro _ _ _ _
      exact Registry.failsFast_pure _

end Legacy

namespace Migrator

variable (migrator : Migrator)

theorem failsFast_bootstrap (version : Version) :
    (migrator.bootstrap version).FailsFast backend Legacy.Deletes Registry.byKind state := by
  apply Legacy.failsFast_bridge.bind
  intro outcome _ _ _
  split
  · exact Registry.failsFast_pure _
  · exact Registry.failsFast_pure _
  · exact (Registry.failsFast_writeRecord _).bind fun _ => Registry.failsFast_pure _

theorem failsFast_prepare : prepare.FailsFast backend excused Registry.byKind state := by
  have ensures : Bookkeeping.prepare.KeepsTo (· = .ensureBucket bucket) :=
    Action.keepsTo_request rfl
  exact Action.PassesOn.withError (Action.passesOn_request _) ensures
    fun _ _ _ request => .prepared request

end Migrator

end Migrations

end StoreMigration
