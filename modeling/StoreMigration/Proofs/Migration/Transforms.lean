import StoreMigration.Migration.Releases
import StoreMigration.Proofs.Migration.Steps

/-! Which calls the transforms make. A step that edits the objects of a bucket, and one
that removes a key, calls nothing outside that bucket; the step of a floor calls nothing
at all. A registry made of such steps spares every bucket that it does not name. -/

namespace StoreMigration

theorem Request.spares_of_bucket {spared : String} {request : Request}
    (elsewhere : request.bucket ≠ spared) : request.Spares spared := by
  cases request with
  | update bucket key value => exact elsewhere
  | delete bucket key => exact elsewhere
  | ensureBucket bucket => trivial
  | get bucket key => trivial
  | listKeys bucket => trivial

namespace FieldEdit

variable (edit : FieldEdit) (bucket : String)

theorem keepsTo_object (key : String) : (edit.editKey bucket key).KeepsTo fun request =>
    request.bucket = bucket ∧ request.key? = some key := by
  have fetch : (Action.get bucket key).KeepsTo fun request =>
      request.bucket = bucket ∧ request.key? = some key :=
    Action.keepsTo_request ⟨rfl, rfl⟩
  apply Action.keepsTo_bind fetch
  intro found
  split
  · split
    · exact Action.keepsTo_request ⟨rfl, rfl⟩
    · exact Action.keepsTo_pure ()
  · exact Action.keepsTo_pure ()

theorem keepsTo_editKey (key : String) :
    (edit.editKey bucket key).KeepsTo fun request => request.bucket = bucket :=
  Program.keepsTo_mono (edit.keepsTo_object bucket key) fun _ => And.left

theorem keepsTo_editKeys (keys : List String) :
    (edit.editKeys bucket keys).KeepsTo fun request => request.bucket = bucket := by
  induction keys with
  | nil => exact Action.keepsTo_pure ()
  | cons key rest induction =>
      apply Action.keepsTo_bind (edit.keepsTo_editKey bucket key)
      intro _
      exact induction

theorem keepsTo_editBucket :
    (edit.editBucket bucket).KeepsTo fun request => request.bucket = bucket := by
  have ensure : (Action.ensureBucket bucket).KeepsTo fun request => request.bucket = bucket :=
    Action.keepsTo_request rfl
  have list : (Action.listKeys bucket).KeepsTo fun request => request.bucket = bucket :=
    Action.keepsTo_request rfl
  apply Action.keepsTo_bind ensure
  intro _
  apply Action.keepsTo_bind list
  intro keys
  exact edit.keepsTo_editKeys bucket keys

end FieldEdit

namespace Step

def Within (step : Step) (buckets : List String) : Prop :=
  step.body.KeepsTo fun request => request.bucket ∈ buckets

variable {buckets : List String} {bucket : String}

theorem within_ofStore {name : String} {body : Action StoreError Unit} (named : bucket ∈ buckets)
    (keeps : body.KeepsTo fun request => request.bucket = bucket) :
    (ofStore name body).Within buckets := by
  apply Action.keepsTo_withError
  apply Program.keepsTo_mono keeps
  intro request same
  rw [same]
  exact named

theorem within_editing (name : String) (edit : FieldEdit) (named : bucket ∈ buckets) :
    (editing name bucket edit).Within buckets :=
  within_ofStore named (edit.keepsTo_editBucket bucket)

theorem within_deleteKey (name key : String) (named : bucket ∈ buckets) :
    (deleteKey name bucket key).Within buckets := by
  have ensure : (Action.ensureBucket bucket).KeepsTo fun request => request.bucket = bucket :=
    Action.keepsTo_request rfl
  apply within_ofStore named
  apply Action.keepsTo_bind ensure
  intro _
  exact Action.keepsTo_request rfl

theorem within_failing (name : String) (error : StepError) : (failing name error).Within buckets :=
  Action.keepsTo_throw error

end Step

namespace Registry

def Within (registry : Registry) (buckets : List String) : Prop :=
  ∀ descriptor ∈ registry.descriptors, ∀ step ∈ descriptor.steps, step.Within buckets

theorem spares_of_within {registry : Registry} {buckets : List String} {spared : String}
    (within : registry.Within buckets) (unnamed : spared ∉ buckets) : registry.Spares spared := by
  intro descriptor inRegistry step inSteps
  apply Program.keepsTo_mono (within descriptor inRegistry step inSteps)
  intro request named
  apply Request.spares_of_bucket
  rintro rfl
  exact unnamed named

end Registry

/-! ## The releases -/

namespace Releases

def editedBuckets : List String :=
  ["users", "endpoints", "endpoint_groups", "registries", "settings", "schedules",
    "resource_control", "roles", "tags", "stacks", "edge_stacks"]

def transforms : List Transform :=
  shipped.flatMap Prod.snd

theorem bucket_mem_editedBuckets : ∀ transform ∈ transforms, transform.bucket ∈ editedBuckets := by
  decide

/-- A step of the releases is the one of the floor or a transform. -/
theorem step_cases {descriptor : Descriptor} {step : Step}
    (inRegistry : descriptor ∈ registry.descriptors) (inSteps : step ∈ descriptor.steps) :
    step = Step.rejectUnsupported ∨ ∃ transform ∈ transforms, step = transform.step := by
  rcases List.mem_cons.mp inRegistry with rfl | member
  · exact .inl (List.mem_singleton.mp inSteps)
  · rcases List.mem_map.mp member with ⟨release, inShipped, rfl⟩
    rcases List.mem_map.mp inSteps with ⟨transform, inRelease, rfl⟩
    exact .inr ⟨transform, List.mem_flatMap.mpr ⟨release, inShipped, inRelease⟩, rfl⟩

theorem registry_within : registry.Within editedBuckets := by
  intro descriptor inRegistry step inSteps
  rcases step_cases inRegistry inSteps with rfl | ⟨transform, member, rfl⟩
  · exact Step.within_failing _ _
  · exact Step.within_editing _ _ (bucket_mem_editedBuckets transform member)

theorem registry_spares : registry.Spares Bookkeeping.bucket :=
  Registry.spares_of_within registry_within (by decide)

end Releases

end StoreMigration
