import StoreMigration.Migration.Registry
import StoreMigration.VersionRecord

/-! Plans: what a migration will do, decided from the stored record before anything
runs. Each descriptor is decided in turn, and the number of steps known to be
applied at the stored version is carried from one to the next. -/

namespace StoreMigration

inductive PlannedAction where
  /-- The stored schema is older than the descriptor: all its steps run. -/
  | upgrade
  /-- The stored schema is the descriptor's own, but not all its steps are known to
  be applied: all of them run again. -/
  | replay
  | skip
  deriving DecidableEq, Repr

def PlannedAction.name : PlannedAction → String
  | upgrade => "upgrade"
  | replay => "replay"
  | skip => "skip"

structure PlannedDescriptor where
  version : Version
  action : PlannedAction
  steps : List String
  deriving DecidableEq

def PlannedDescriptor.toJson (planned : PlannedDescriptor) : Json :=
  .object [("target_version", .string planned.version.text),
    ("action", .string planned.action.name), ("steps", .strings planned.steps)]

structure Plan where
  /-- The stored version as it is written in the record. -/
  fromVersion : String
  fromReplayCount : UInt32
  toVersion : Version
  replayCount : UInt32
  descriptors : List PlannedDescriptor

/-! ## Deciding -/

namespace Descriptor

/-- What to do with a descriptor when the stored schema is `stored` and `applied`
steps are known to be applied there. -/
def decide (descriptor : Descriptor) (stored : Version) (applied : UInt32) : PlannedAction :=
  if stored < descriptor.version then .upgrade
  else if stored = descriptor.version ∧ applied < descriptor.stepCount then .replay
  else .skip

def countAfter (descriptor : Descriptor) (applied : UInt32) : PlannedAction → UInt32
  | .upgrade => 0
  | .replay => descriptor.stepCount
  | .skip => applied

end Descriptor

namespace Plan

/-- The decisions about some descriptors, and the count after the last. -/
def walk (stored : Version) : UInt32 → List Descriptor → List PlannedAction × UInt32
  | applied, [] => ([], applied)
  | applied, descriptor :: rest =>
      let action := descriptor.decide stored applied
      let (actions, count) := walk stored (descriptor.countAfter applied action) rest
      (action :: actions, count)

def plannedDescriptor (descriptor : Descriptor) (action : PlannedAction) : PlannedDescriptor :=
  ⟨descriptor.version, action, descriptor.stepNames⟩

def make (registry : Registry) (stored : Version) (record : VersionRecord) (target : Version) :
    Plan :=
  let (actions, count) := walk stored record.replayCount registry.descriptors
  { fromVersion := record.schemaVersion
    fromReplayCount := record.replayCount
    toVersion := target
    replayCount := count
    descriptors := List.zipWith plannedDescriptor registry.descriptors actions }

def ofRecord (registry : Registry) (record : VersionRecord) (target : Version) :
    Except MigrationError Plan :=
  match record.parsedVersion with
  | .ok stored => .ok (make registry stored record target)
  | .error cause => .error (.corruptVersion record.schemaVersion cause)

/-! ## What a plan says -/

def pendingSteps (plan : Plan) : List String :=
  plan.descriptors.flatMap fun planned =>
    if planned.action = .skip then [] else planned.steps

/-- Whether carrying out the plan runs nothing and leaves the record as it is. -/
def isUpToDate (plan : Plan) : Bool :=
  plan.fromVersion = plan.toVersion.text && plan.fromReplayCount = plan.replayCount &&
    plan.descriptors.all fun planned => planned.action = .skip

def selectSteps : List Descriptor → List PlannedDescriptor → List Step
  | descriptor :: rest, planned :: more =>
      (if planned.action = .skip then [] else descriptor.steps) ++ selectSteps rest more
  | _, _ => []

@[simp] theorem length_walk (stored : Version) (applied : UInt32)
    (descriptors : List Descriptor) :
    (walk stored applied descriptors).1.length = descriptors.length := by
  induction descriptors generalizing applied with
  | nil => rfl
  | cons head rest induction => simp [walk, induction]

end Plan

end StoreMigration
