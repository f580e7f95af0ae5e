import StoreMigration.Proofs.Store.Interchange
import Mathlib.Data.List.Forall2

/-! Objects that a program no longer looks at. Where the answers of a store hang on nothing but
the objects that a call looks at, two runs stay alike as long as no call looks at an object in
which the stores differ. So it makes no difference to a program that forgets some objects once
it has begun to delete them whether they were deleted. -/

namespace StoreMigration

abbrev Places := String → String → Prop

def Objects.AlikeBut (hidden : Places) (left right : Objects α) : Prop :=
  ∀ bucket key, ¬ hidden bucket key → left bucket key = right bucket key

namespace Request

/-- The answer can hang on what stands in the place. -/
def Sees : Request → Places
  | get bucket key => fun place label => place = bucket ∧ label = key
  | listKeys bucket => fun place _ => place = bucket
  | _ => fun _ _ => False

def Drops (hidden : Places) (request : Request) : Prop :=
  ∃ bucket key, request = .delete bucket key ∧ hidden bucket key

def Overlooks (hidden : Places) (request : Request) : Prop :=
  ∀ bucket key, request.Sees bucket key → ¬ hidden bucket key

def Avoids (hidden : Places) (request : Request) : Prop :=
  request.Overlooks hidden ∧ ¬ request.Drops hidden

theorem not_drops_of_harmless {hidden : Places} {request : Request}
    (harmless : request.isWrite = false) : ¬ request.Drops hidden := by
  rintro ⟨bucket, key, rfl, _⟩
  cases harmless

theorem avoids_of_bucket {hidden : Places} {request : Request}
    (shown : ∀ key, ¬ hidden request.bucket key) : request.Avoids hidden := by
  constructor
  · intro bucket key sees
    cases request with
    | get place label =>
        rcases sees with ⟨rfl, rfl⟩
        exact shown key
    | listKeys place =>
        cases sees
        exact shown key
    | _ => exact sees.elim
  · rintro ⟨bucket, key, rfl, inside⟩
    exact shown key inside

theorem avoids_update {hidden : Places} (bucket key : String) (value : Json) :
    (update bucket key value).Avoids hidden :=
  ⟨fun _ _ sees => sees.elim, nofun⟩

theorem avoids_get {hidden : Places} {bucket key : String} (shown : ¬ hidden bucket key) :
    (get bucket key).Avoids hidden := by
  refine ⟨?_, nofun⟩
  rintro _ _ ⟨rfl, rfl⟩
  exact shown

theorem alikeBut_effect {hidden : Places} {left right : Objects α} (encode : Json → α)
    (request : Request) (alike : Objects.AlikeBut hidden left right) :
    Objects.AlikeBut hidden (request.effect encode left) (request.effect encode right) := by
  have replaced (bucket key : String) (stored : Option α) :
      Objects.AlikeBut hidden (left.set bucket key stored) (right.set bucket key stored) := by
    intro otherBucket otherKey shown
    rw [Objects.set, Objects.set, alike otherBucket otherKey shown]
  cases request with
  | update bucket key value => exact replaced bucket key _
  | delete bucket key => exact replaced bucket key none
  | _ => exact alike

theorem Drops.effect {hidden : Places} {request : Request} (drops : request.Drops hidden)
    (encode : Json → α) {bucket key : String} (shown : ¬ hidden bucket key) (objects : Objects α) :
    request.effect encode objects bucket key = objects bucket key := by
  rcases drops with ⟨other, label, rfl, inside⟩
  apply Request.effect_of_leaves
  rw [Leaves, ← not_and_or]
  rintro ⟨rfl, rfl⟩
  exact shown inside

end Request

/-! ## Local storages -/

/-- Whether and how a call is answered hangs on nothing but the objects that it looks at. -/
structure Storage.Local (storage : Storage σ α) : Prop where
  answer_congr : ∀ (request : Request) {state other : σ},
    (∀ bucket key, request.Sees bucket key →
      storage.objects state bucket key = storage.objects other bucket key) →
    (storage.backend request state).1 = (storage.backend request other).1

theorem Buckets.keys_congr {left right : Buckets α} {bucket : String}
    (same : ∀ key, left.read bucket key = right.read bucket key) :
    left.keys bucket = right.keys bucket :=
  congrArg OrderedMap.keys (OrderedMap.ext_get? same)

theorem Memory.storage_local : Memory.storage.Local where
  answer_congr request left right same := by
    cases request with
    | get bucket key => exact congrArg Except.ok (same bucket key ⟨rfl, rfl⟩)
    | listKeys bucket => exact congrArg Except.ok (Buckets.keys_congr fun key => same bucket key rfl)
    | _ => rfl

theorem Database.tablesStorage_local : tablesStorage.Local where
  answer_congr request left right same := by
    cases request with
    | get bucket key =>
        have sameText : left.read bucket key = right.read bucket key := same bucket key ⟨rfl, rfl⟩
        show readObject bucket key left = readObject bucket key right
        rw [readObject, readObject, sameText]
    | listKeys bucket => exact congrArg Except.ok (Buckets.keys_congr fun key => same bucket key rfl)
    | update bucket key value =>
        show (writeText bucket key value.compact left).1 = (writeText bucket key value.compact right).1
        rw [writeText, writeText]
        split <;> rfl
    | _ => rfl

/-! ## Programs that forget -/

namespace Program

/-- No call looks at a hidden object, and what a call that deletes one is answered does not
matter. -/
def Overlooks (hidden : Places) : Program α → Prop
  | done _ => True
  | call request next => request.Overlooks hidden ∧
      (request.Drops hidden → ∀ response other, next response = next other) ∧
      ∀ response, (next response).Overlooks hidden

/-- The program overlooks the hidden objects from the first call on that deletes one. -/
inductive Forgets (hidden : Places) : Program α → Prop
  | overlooks {program : Program α} (overlooks : program.Overlooks hidden) : Forgets hidden program
  | call {request : Request} {next : Response request → Program α}
      (keeps : ¬ request.Drops hidden) (rest : ∀ response, Forgets hidden (next response)) :
      Forgets hidden (.call request next)

variable {hidden : Places}

theorem overlooks_of_keepsTo {program : Program α}
    (keeps : program.KeepsTo (Request.Avoids hidden)) : program.Overlooks hidden := by
  induction program with
  | done result => trivial
  | call request next induction =>
      exact ⟨keeps.1.1, fun drops => absurd drops keeps.1.2,
        fun response => induction response (keeps.2 response)⟩

theorem overlooks_bind {program : Program α} {rest : α → Program β}
    (first : program.Overlooks hidden) (second : ∀ result, (rest result).Overlooks hidden) :
    (program.bind rest).Overlooks hidden := by
  induction program with
  | done result => exact second result
  | call request next induction =>
      refine ⟨first.1, fun drops response other => ?_, fun response =>
        induction response (first.2.2 response)⟩
      exact congrArg (Program.bind · rest) (first.2.1 drops response other)

theorem forgets_bind {program : Program α} {rest : α → Program β}
    (first : program.Forgets hidden) (second : ∀ result, (rest result).Overlooks hidden) :
    (program.bind rest).Forgets hidden := by
  induction first with
  | overlooks overlooks => exact .overlooks (overlooks_bind overlooks second)
  | call keeps _ induction => exact .call keeps induction

theorem forgets_of_keepsTo_bind {program : Program α} {rest : α → Program β}
    (first : program.KeepsTo fun request => ¬ request.Drops hidden)
    (second : ∀ result, (rest result).Forgets hidden) : (program.bind rest).Forgets hidden := by
  induction program with
  | done result => exact second result
  | call request next induction =>
      exact .call first.1 fun response => induction response (first.2 response)

end Program

namespace Action

def Overlooks (hidden : Places) (action : Action ε α) : Prop :=
  action.toProgram.Overlooks hidden

def Forgets (hidden : Places) (action : Action ε α) : Prop :=
  action.toProgram.Forgets hidden

variable {hidden : Places}

theorem overlooks_of_keepsTo {action : Action ε α} (keeps : action.KeepsTo (Request.Avoids hidden)) :
    action.Overlooks hidden :=
  Program.overlooks_of_keepsTo keeps

theorem overlooks_bind {action : Action ε α} {rest : α → Action ε β}
    (first : action.Overlooks hidden) (second : ∀ result, (rest result).Overlooks hidden) :
    (action >>= rest).Overlooks hidden := by
  refine Program.overlooks_bind first fun outcome => ?_
  cases outcome with
  | ok result => exact second result
  | error error => trivial

/-- Whether the deletion succeeds does not matter where its error is ignored. -/
theorem overlooks_removal (bucket key : String) :
    (ignoringError (delete bucket key) : Action ε Unit).Overlooks hidden :=
  ⟨fun _ _ sees => sees.elim, fun _ _ _ => rfl, fun _ => trivial⟩

theorem Overlooks.forgets {action : Action ε α} (overlooks : action.Overlooks hidden) :
    action.Forgets hidden :=
  .overlooks overlooks

theorem forgets_bind {action : Action ε α} {rest : α → Action ε β}
    (first : action.Forgets hidden) (second : ∀ result, (rest result).Overlooks hidden) :
    (action >>= rest).Forgets hidden := by
  refine Program.forgets_bind first fun outcome => ?_
  cases outcome with
  | ok result => exact second result
  | error error => trivial

theorem forgets_of_keepsTo_bind {action : Action ε α} {rest : α → Action ε β}
    (first : action.KeepsTo fun request => ¬ request.Drops hidden)
    (second : ∀ result, (rest result).Forgets hidden) : (action >>= rest).Forgets hidden := by
  refine Program.forgets_of_keepsTo_bind first fun outcome => ?_
  cases outcome with
  | ok result => exact second result
  | error error => exact .overlooks trivial

end Action

/-! ## Runs that stay alike -/

def Exchange.answered (exchange : Exchange σ) : Answered := ⟨exchange.request, exchange.response⟩

/-- The same call was made, and, unless it deletes a hidden object, it was answered alike. -/
def Exchange.AlikeBut (hidden : Places) (left right : Exchange σ) : Prop :=
  left.request = right.request ∧ (¬ left.request.Drops hidden → left.answered = right.answered)

structure Disturbance.AlikeBut (hidden : Places) (one other : Disturbance φ) : Prop where
  later : ∀ request pattern, (one request pattern).2 = (other request pattern).2
  decision : ∀ request pattern, ¬ request.Drops hidden →
    (one request pattern).1 = (other request pattern).1

structure Disturbance.AgreeBeyond (hidden : Places) (one other : Disturbance φ) : Prop where
  later : ∀ request pattern, (one request pattern).2 = (other request pattern).2
  decision : ∀ request pattern, request.Avoids hidden →
    (one request pattern).1 = (other request pattern).1

theorem Disturbance.AlikeBut.agreeBeyond {hidden : Places} {one other : Disturbance φ}
    (patterns : Disturbance.AlikeBut hidden one other) :
    Disturbance.AgreeBeyond hidden one other :=
  ⟨patterns.later, fun request pattern avoids => patterns.decision request pattern avoids.2⟩

/-- Two stores under disturbances are at the same point of their patterns and hold the same
outside the hidden places. -/
structure Storage.StandAlike (storage : Storage σ α) (hidden : Places) (left right : φ × σ) :
    Prop where
  pattern : left.1 = right.1
  objects : Objects.AlikeBut hidden (storage.objects left.2) (storage.objects right.2)

/-- Two runs of a program, each under a disturbance of its own, come to the same, make the same
calls and leave the stores alike. -/
structure Program.RunsAlike (storage : Storage σ α) (hidden : Places) (one other : Disturbance φ)
    (left right : φ × σ) (program : Program β) : Prop where
  result : (program.run (storage.backend.disturbed one) left).1 =
    (program.run (storage.backend.disturbed other) right).1
  calls : List.Forall₂ (Exchange.AlikeBut hidden)
    (program.history (storage.backend.disturbed one) left)
    (program.history (storage.backend.disturbed other) right)
  after : storage.StandAlike hidden (program.run (storage.backend.disturbed one) left).2
    (program.run (storage.backend.disturbed other) right).2

section Alike

variable {storage : Storage σ α} {hidden : Places} {one other : Disturbance φ} {left right : φ × σ}

theorem Backend.pattern_disturbed (backend : Backend σ) (disturbance : Disturbance φ)
    (request : Request) (state : φ × σ) :
    (backend.disturbed disturbance request state).2.1 = (disturbance request state.1).2 := by
  cases fails : (disturbance request state.1).1 with
  | some error => rw [backend.disturbed_of_failure fails]
  | none => rw [backend.disturbed_of_success fails]

theorem Storage.Local.answered (only : storage.Local)
    (patterns : Disturbance.AgreeBeyond hidden one other)
    (alike : storage.StandAlike hidden left right) {request : Request}
    (overlooks : request.Overlooks hidden) (keeps : ¬ request.Drops hidden) :
    (storage.backend.disturbed one request left).1 =
      (storage.backend.disturbed other request right).1 := by
  have decision := patterns.decision request right.1 ⟨overlooks, keeps⟩
  rw [← alike.pattern] at decision
  cases fails : (one request left.1).1 with
  | some error =>
      have failsToo := decision.symm.trans fails
      rw [alike.pattern] at failsToo
      rw [storage.backend.disturbed_of_failure fails, storage.backend.disturbed_of_failure failsToo]
  | none =>
      have passesToo := decision.symm.trans fails
      rw [alike.pattern] at passesToo
      rw [storage.backend.disturbed_of_success fails, storage.backend.disturbed_of_success passesToo]
      exact only.answer_congr request fun bucket key sees =>
        alike.objects bucket key (overlooks bucket key sees)

theorem Storage.Local.standAlike (only : storage.Local)
    (patterns : Disturbance.AgreeBeyond hidden one other)
    (alike : storage.StandAlike hidden left right) {request : Request}
    (overlooks : request.Overlooks hidden) :
    storage.StandAlike hidden (storage.backend.disturbed one request left).2
      (storage.backend.disturbed other request right).2 := by
  constructor
  · rw [Backend.pattern_disturbed, Backend.pattern_disturbed, patterns.later, alike.pattern]
  intro bucket key shown
  have before := alike.objects bucket key shown
  by_cases drops : request.Drops hidden
  · have leftKept := (storage.disturbed one).objects_of_untouched request left
      (drops.effect _ shown)
    have rightKept := (storage.disturbed other).objects_of_untouched request right
      (drops.effect _ shown)
    exact (leftKept.trans before).trans rightKept.symm
  · have same := only.answered patterns alike overlooks drops
    cases response : (storage.backend.disturbed one request left).1 with
    | ok answer =>
        have leftDone := (storage.disturbed one).granted response
        have rightDone := (storage.disturbed other).granted (same.symm.trans response)
        have done := request.alikeBut_effect storage.encode alike.objects bucket key shown
        exact ((congrFun₂ leftDone bucket key).trans done).trans (congrFun₂ rightDone bucket key).symm
    | error error =>
        have leftKept := (storage.disturbed one).refused response
        have rightKept := (storage.disturbed other).refused (same.symm.trans response)
        exact ((congrFun₂ leftKept bucket key).trans before).trans
          (congrFun₂ rightKept bucket key).symm

theorem Storage.StandAlike.looked (patterns : Disturbance.AgreeBeyond hidden one other)
    (alike : storage.StandAlike hidden left right) {request : Request}
    (harmless : request.isWrite = false) :
    storage.StandAlike hidden (storage.backend.disturbed one request left).2
      (storage.backend.disturbed other request right).2 := by
  constructor
  · rw [Backend.pattern_disturbed, Backend.pattern_disturbed, patterns.later, alike.pattern]
  · intro bucket key shown
    have leaves := Request.leaves_of_harmless bucket key harmless
    have leftKept := (storage.disturbed one).objects_of_untouched request left
      (Request.effect_of_leaves leaves storage.encode)
    have rightKept := (storage.disturbed other).objects_of_untouched request right
      (Request.effect_of_leaves leaves storage.encode)
    exact (leftKept.trans (alike.objects bucket key shown)).trans rightKept.symm

namespace Program

theorem runsAlike_of_overlooks (only : storage.Local)
    (patterns : Disturbance.AgreeBeyond hidden one other) {program : Program β}
    (overlooks : program.Overlooks hidden) (alike : storage.StandAlike hidden left right) :
    program.RunsAlike storage hidden one other left right := by
  induction program generalizing left right with
  | done result => exact ⟨rfl, .nil, alike⟩
  | call request next induction =>
      have alikeThen := only.standAlike patterns alike overlooks.1
      have answered := only.answered patterns alike overlooks.1
      -- The answers differ at most where the program drops them, so both runs go on alike.
      have goesOn : next (storage.backend.disturbed other request right).1 =
          next (storage.backend.disturbed one request left).1 := by
        by_cases drops : request.Drops hidden
        · exact overlooks.2.1 drops _ _
        · rw [answered drops]
      have others := induction _ (overlooks.2.2 (storage.backend.disturbed one request left).1)
        alikeThen
      have told : ¬ request.Drops hidden →
          (⟨request, (storage.backend.disturbed one request left).1⟩ : Answered) =
            ⟨request, (storage.backend.disturbed other request right).1⟩ :=
        fun keeps => congrArg (Sigma.mk request) (answered keeps)
      refine ⟨?_, ?_, ?_⟩
      · rw [run_call, run_call, goesOn]
        exact others.result
      · rw [history_call, history_call, goesOn]
        exact .cons ⟨rfl, told⟩ others.calls
      · rw [run_call, run_call, goesOn]
        exact others.after

theorem runsAlike_of_forgets (only : storage.Local)
    (patterns : Disturbance.AlikeBut hidden one other) {program : Program β}
    (forgets : program.Forgets hidden) (start : φ × σ) :
    program.RunsAlike storage hidden one other start start := by
  induction forgets generalizing start with
  | overlooks overlooks =>
      exact runsAlike_of_overlooks only patterns.agreeBeyond overlooks ⟨rfl, fun _ _ _ => rfl⟩
  | @call request next keeps _ induction =>
      have same : storage.backend.disturbed one request start =
          storage.backend.disturbed other request start := by
        have decided : one request start.1 = other request start.1 :=
          Prod.ext (patterns.decision request start.1 keeps) (patterns.later request start.1)
        rw [Backend.disturbed, Backend.disturbed, decided]
      have others := induction (storage.backend.disturbed one request start).1
        (storage.backend.disturbed one request start).2
      refine ⟨?_, ?_, ?_⟩
      · rw [run_call, run_call, ← same]
        exact others.result
      · rw [history_call, history_call, ← same]
        exact .cons ⟨rfl, fun _ => rfl⟩ others.calls
      · rw [run_call, run_call, ← same]
        exact others.after

end Program

end Alike

end StoreMigration
