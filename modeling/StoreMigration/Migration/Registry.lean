import StoreMigration.Migration.Step

/-! The registry of migrations: for each release, the steps that bring the data
model up to it. The order is that in which the releases shipped, which need not be
the order of their versions, and nothing ever sorts it. -/

namespace StoreMigration

structure Descriptor where
  version : Version
  steps : List Step

structure Registry where
  descriptors : List Descriptor

namespace Descriptor

def stepNames (descriptor : Descriptor) : List String :=
  descriptor.steps.map Step.name

/-- The number of steps, as far as 32 bits can tell. -/
def stepCount (descriptor : Descriptor) : UInt32 :=
  UInt32.ofNat (min descriptor.steps.length (UInt32.size - 1))

end Descriptor

namespace Registry

def empty : Registry := ⟨[]⟩

def versions (registry : Registry) : List String :=
  registry.descriptors.map fun descriptor => descriptor.version.text

def size (registry : Registry) : Nat :=
  registry.descriptors.length

/-- The descriptor that rejects stores at or below a version. -/
def floor (version : Version) : Descriptor :=
  ⟨version, [Step.rejectUnsupported]⟩

/-! ## From version texts -/

structure Entry where
  version : String
  steps : List Step

def Entry.floor (version : String) : Entry :=
  ⟨version, [Step.rejectUnsupported]⟩

def Entry.parse (entry : Entry) : Except MigrationError Descriptor :=
  match Version.read entry.version with
  | .ok version => .ok ⟨version, entry.steps⟩
  | .error cause => .error (.invalidDescriptor entry.version cause)

/-- The registry of some entries; the first version that is none is reported. -/
def ofEntries (entries : List Entry) : Except MigrationError Registry :=
  (entries.mapM Entry.parse).map Registry.mk

end Registry

end StoreMigration
