import StoreMigration.Proofs.Migration.FaultFree
import StoreMigration.Proofs.Migration.Transforms

/-! What a run of the releases does. From a store that is not too old it runs some of their
transforms, in the order in which they shipped, and no transform gets in another's way. -/

namespace StoreMigration.Releases

open Registry

theorem transforms_apart : ∀ one ∈ transforms, ∀ other ∈ transforms, one.bucket = other.bucket →
    one.edit.Apart other.edit := by
  decide +kernel

theorem transforms_modest : ∀ transform ∈ transforms, ∀ value ∈ transform.edit.default?,
    value.Modest := by
  simp [transforms, shipped, Transform.backfill, Transform.rename, Transform.drop,
    FieldEdit.default?, emptyObject, Json.integer, Json.Modest, Json.FloatFree,
    Json.FloatFreeFields, Json.FloatFreeItems, Json.WellFormed, Json.WellFormedFields,
    Json.WellFormedItems, Json.JsonNumberFits, Json.depth, Json.depthOfFields, Json.depthOfItems]

theorem transforms_orderly : Transform.Orderly transforms :=
  ⟨transforms_apart, transforms_modest⟩

theorem bucket_ne_bookkeeping {transform : Transform} (member : transform ∈ transforms) :
    transform.bucket ≠ Bookkeeping.bucket := by
  intro same
  have named := bucket_mem_editedBuckets transform member
  rw [same] at named
  exact absurd named (by decide)

/-! ## Plans -/

theorem steps_shipped :
    (shipped.map descriptor).flatMap Descriptor.steps = transforms.map Transform.step := by
  rw [List.flatMap_map, transforms, List.map_flatMap]
  rfl

/-- What is due is some of the transforms, unless the store is rejected first. -/
theorem due_cases (stored : Version) (applied : UInt32) :
    (∃ due : List Transform, due.Sublist transforms ∧
        Plan.due stored applied registry.descriptors = due.map Transform.step) ∨
      (stored < .release 1 0 0 ∨ stored = .release 1 0 0) ∧
        ∃ rest, Plan.due stored applied registry.descriptors = Step.rejectUnsupported :: rest := by
  rw [registry, Plan.due_cons]
  cases decision : (Registry.floor (.release 1 0 0)).decide stored applied with
  | upgrade =>
      refine .inr ⟨.inl ?_, _, rfl⟩
      rw [Descriptor.decide] at decision
      split at decision
      · next below => exact below
      · split at decision <;> cases decision
  | replay => exact .inr ⟨.inr (Descriptor.of_decide_replay decision).1, _, rfl⟩
  | skip =>
      have among := Plan.due_sublist stored applied (shipped.map descriptor)
      rw [steps_shipped, List.sublist_map_iff] at among
      exact .inl among

theorem due_of_supported {stored : Version} (supported : ¬ stored < minimumSupportedVersion)
    (applied : UInt32) : ∃ due : List Transform, due.Sublist transforms ∧
      Plan.due stored applied registry.descriptors = due.map Transform.step := by
  have old : Version.release 1 0 0 < minimumSupportedVersion := by decide
  rcases due_cases stored applied with found | ⟨below | same, _⟩
  · exact found
  · exact absurd (Std.TransCmp.lt_trans below old) supported
  · exact absurd (same ▸ old) supported

theorem due_of_ok {backend : Backend σ} {stored : Version} {applied : UInt32} {state after : σ}
    {names : List String} {made : List (Exchange σ)}
    (steps : (runSteps (Plan.due stored applied registry.descriptors)).Runs backend state (.ok names)
      made after) : ∃ due : List Transform, due.Sublist transforms ∧
        Plan.due stored applied registry.descriptors = due.map Transform.step := by
  rcases due_cases stored applied with found | ⟨_, rest, rejected⟩
  · exact found
  · have fails : Step.rejectUnsupported.body.Runs backend state
        (.error (.migration .tooOld)) [] state := Action.Runs.throw _ state
    rw [rejected, runSteps_cons] at steps
    cases (steps.of_bind_error (fails.withError _)).1

theorem transforming_of_sublist {plan : Plan} {due : List Transform} (among : due.Sublist transforms)
    (pending_eq : registry.pending plan = due.map Transform.step) :
    Transforming registry plan due where
  pending_eq := pending_eq
  orderly := transforms_orderly.of_subset among.subset
  elsewhere _ member := bucket_ne_bookkeeping (among.subset member)

end StoreMigration.Releases
