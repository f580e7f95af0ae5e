import StoreMigration.Proofs.Migration.Course

/-! Plans against the registry they were made from: which steps a plan lets run, and how
the count of applied steps is carried from one descriptor to the next. -/

namespace StoreMigration

theorem Version.lt_irrefl (version : Version) : ¬ version < version := by
  intro below
  have same : compare version version = .eq := Std.ReflCmp.compare_self
  exact absurd (below.symm.trans same) (by decide)

/-! ## Decisions -/

namespace Descriptor

variable {descriptor : Descriptor} {stored : Version} {applied : UInt32}

theorem decide_of_below (below : stored < descriptor.version) :
    descriptor.decide stored applied = .upgrade := if_pos below

theorem decide_of_missing (same : stored = descriptor.version)
    (missing : applied < descriptor.stepCount) : descriptor.decide stored applied = .replay := by
  have notBelow : ¬ stored < descriptor.version := by
    rw [same]
    exact Version.lt_irrefl descriptor.version
  rw [decide, if_neg notBelow, if_pos ⟨same, missing⟩]

theorem decide_of_done (notBelow : ¬ stored < descriptor.version)
    (done : stored = descriptor.version → descriptor.stepCount ≤ applied) :
    descriptor.decide stored applied = .skip := by
  rw [decide, if_neg notBelow, if_neg]
  rintro ⟨same, missing⟩
  exact UInt32.not_lt.mpr (done same) missing

theorem of_decide_replay (replay : descriptor.decide stored applied = .replay) :
    stored = descriptor.version ∧ applied < descriptor.stepCount := by
  rw [decide] at replay
  split at replay
  · cases replay
  · split at replay
    · next both => exact both
    · cases replay

theorem steps_ne_nil_of_lt (missing : applied < descriptor.stepCount) : descriptor.steps ≠ [] := by
  intro none
  have nothing : descriptor.stepCount = 0 := by
    rw [stepCount, none]
    rfl
  rw [nothing] at missing
  exact absurd missing UInt32.not_lt_zero

end Descriptor

/-! ## The steps of a plan -/

/-- The steps of the descriptors that a plan does not skip, in registry order. -/
def Registry.unskipped (registry : Registry) (plan : Plan) : List Step :=
  ((registry.descriptors.zip plan.descriptors).filter fun pair =>
    pair.2.action ≠ .skip).flatMap fun pair => pair.1.steps

namespace Plan

theorem selectSteps_eq_flatMap (descriptors : List Descriptor)
    (planned : List PlannedDescriptor) :
    selectSteps descriptors planned =
      ((descriptors.zip planned).filter fun pair => pair.2.action ≠ .skip).flatMap fun pair =>
        pair.1.steps := by
  induction descriptors generalizing planned with
  | nil => rfl
  | cons descriptor rest induction =>
      cases planned with
      | nil => rfl
      | cons decision more =>
          rw [selectSteps, induction, List.zip_cons_cons, List.filter_cons]
          by_cases skipped : decision.action = .skip
          · simp [skipped]
          · simp [skipped]

theorem names_selectSteps (descriptors : List Descriptor) (actions : List PlannedAction) :
    (selectSteps descriptors (List.zipWith plannedDescriptor descriptors actions)).map Step.name =
      (List.zipWith plannedDescriptor descriptors actions).flatMap fun planned =>
        if planned.action = .skip then [] else planned.steps := by
  induction descriptors generalizing actions with
  | nil => rfl
  | cons descriptor rest induction =>
      cases actions with
      | nil => rfl
      | cons action more =>
          rw [List.zipWith_cons_cons, selectSteps, List.map_append, induction, List.flatMap_cons]
          by_cases skipped : action = .skip
          · simp [plannedDescriptor, skipped]
          · simp [plannedDescriptor, skipped, Descriptor.stepNames]

/-- The steps that run when the schema is `stored` and `applied` steps are known to be
applied there. -/
def due (stored : Version) (applied : UInt32) (descriptors : List Descriptor) : List Step :=
  selectSteps descriptors
    (List.zipWith plannedDescriptor descriptors (walk stored applied descriptors).1)

theorem due_cons (stored : Version) (applied : UInt32) (descriptor : Descriptor)
    (rest : List Descriptor) :
    due stored applied (descriptor :: rest) =
      (if descriptor.decide stored applied = .skip then [] else descriptor.steps) ++
        due stored (descriptor.countAfter applied (descriptor.decide stored applied)) rest := rfl

theorem count_cons (stored : Version) (applied : UInt32) (descriptor : Descriptor)
    (rest : List Descriptor) :
    (walk stored applied (descriptor :: rest)).2 =
      (walk stored (descriptor.countAfter applied (descriptor.decide stored applied)) rest).2 := rfl

theorem due_cons_of_skip {stored : Version} {applied : UInt32} {descriptor : Descriptor}
    (skipped : descriptor.decide stored applied = .skip) (rest : List Descriptor) :
    due stored applied (descriptor :: rest) = due stored applied rest := by
  rw [due_cons, skipped]
  rfl

theorem count_cons_of_skip {stored : Version} {applied : UInt32} {descriptor : Descriptor}
    (skipped : descriptor.decide stored applied = .skip) (rest : List Descriptor) :
    (walk stored applied (descriptor :: rest)).2 = (walk stored applied rest).2 := by
  rw [count_cons, skipped]
  rfl

/-- The descriptors after the first few are walked with the count that those left. -/
theorem due_append (stored : Version) (applied : UInt32) (front back : List Descriptor) :
    due stored applied (front ++ back) =
      due stored applied front ++ due stored (walk stored applied front).2 back := by
  induction front generalizing applied with
  | nil => rfl
  | cons descriptor rest induction =>
      rw [List.cons_append, due_cons, due_cons, count_cons, induction, List.append_assoc]

theorem due_sublist (stored : Version) (applied : UInt32) (descriptors : List Descriptor) :
    (due stored applied descriptors).Sublist (descriptors.flatMap Descriptor.steps) := by
  induction descriptors generalizing applied with
  | nil => exact List.Sublist.refl []
  | cons descriptor rest induction =>
      rw [due_cons, List.flatMap_cons]
      apply List.Sublist.append _ (induction _)
      split
      · exact List.nil_sublist _
      · exact List.Sublist.refl _

/-- The count that a walk ends with was there before, or is none, or is that of a
descriptor at the stored version. -/
theorem count_origin (stored : Version) (applied : UInt32) (descriptors : List Descriptor) :
    (walk stored applied descriptors).2 = applied ∨ (walk stored applied descriptors).2 = 0 ∨
      ∃ descriptor ∈ descriptors, descriptor.version = stored ∧
        (walk stored applied descriptors).2 = descriptor.stepCount := by
  induction descriptors generalizing applied with
  | nil => exact .inl rfl
  | cons descriptor rest induction =>
      have later := induction
        (descriptor.countAfter applied (descriptor.decide stored applied))
      rw [count_cons]
      rcases later with kept | none | ⟨other, member, same, told⟩
      · rw [kept]
        cases decision : descriptor.decide stored applied with
        | upgrade => exact .inr (.inl rfl)
        | replay =>
            have here := (Descriptor.of_decide_replay decision).1
            exact .inr (.inr ⟨descriptor, List.mem_cons_self, here.symm, rfl⟩)
        | skip => exact .inl rfl
      · exact .inr (.inl none)
      · exact .inr (.inr ⟨other, List.mem_cons_of_mem descriptor member, same, told⟩)

variable (registry : Registry) (stored : Version) (record : VersionRecord) (target : Version)

theorem names_pending :
    (registry.pending (make registry stored record target)).map Step.name =
      (make registry stored record target).pendingSteps :=
  names_selectSteps registry.descriptors (walk stored record.replayCount registry.descriptors).1

theorem pending_make :
    registry.pending (make registry stored record target) =
      due stored record.replayCount registry.descriptors := rfl

theorem pendingSteps_eq_nil_iff :
    (make registry stored record target).pendingSteps = [] ↔
      due stored record.replayCount registry.descriptors = [] := by
  rw [← names_pending, List.map_eq_nil_iff, pending_make]

theorem ofRecord_of_parsed {stored : Version} {record : VersionRecord}
    (parsed : record.parsedVersion = .ok stored) :
    ofRecord registry record target = .ok (make registry stored record target) := by
  simp only [ofRecord, parsed]

end Plan

theorem Registry.pending_eq_unskipped (registry : Registry) (plan : Plan) :
    registry.pending plan = registry.unskipped plan :=
  Plan.selectSteps_eq_flatMap registry.descriptors plan.descriptors

end StoreMigration
