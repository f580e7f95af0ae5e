import StoreMigration.Store.OrderedMap

/-! Objects in named buckets. A bucket exists from the moment it is first used,
also while it holds nothing, and is never removed. -/

namespace StoreMigration

abbrev Buckets (α : Type) := OrderedMap (OrderedMap α)

namespace Buckets

def empty : Buckets α := OrderedMap.empty

def objects (buckets : Buckets α) (bucket : String) : OrderedMap α :=
  (buckets.get? bucket).getD OrderedMap.empty

def read (buckets : Buckets α) (bucket key : String) : Option α :=
  (buckets.objects bucket).get? key

def ensure (buckets : Buckets α) (bucket : String) : Buckets α :=
  buckets.insert bucket (buckets.objects bucket)

def write (buckets : Buckets α) (bucket key : String) (value : α) : Buckets α :=
  buckets.insert bucket ((buckets.objects bucket).insert key value)

/-- Remove an object. A bucket that does not exist is not created for it. -/
def delete (buckets : Buckets α) (bucket key : String) : Buckets α :=
  match buckets.get? bucket with
  | none => buckets
  | some objects => buckets.insert bucket (objects.erase key)

def keys (buckets : Buckets α) (bucket : String) : List String :=
  (buckets.objects bucket).keys

def names (buckets : Buckets α) : List String :=
  OrderedMap.keys buckets

def toList (buckets : Buckets α) : List (String × String × α) :=
  buckets.entries.flatMap fun entry =>
    entry.2.entries.map fun object => (entry.1, object.1, object.2)

/-! ## What a look-up sees -/

@[simp] theorem read_empty (bucket key : String) :
    (empty : Buckets α).read bucket key = none := rfl

@[simp] theorem objects_ensure (buckets : Buckets α) (bucket other : String) :
    (buckets.ensure bucket).objects other = buckets.objects other := by
  by_cases equal : other = bucket
  · simp [ensure, objects, equal]
  · simp [ensure, objects, OrderedMap.get?_insert_of_ne _ _ equal]

@[simp] theorem objects_write_same (buckets : Buckets α) (bucket key : String) (value : α) :
    (buckets.write bucket key value).objects bucket =
      (buckets.objects bucket).insert key value := by
  simp [write, objects]

theorem objects_write_of_ne (buckets : Buckets α) {bucket other : String} (key : String)
    (value : α) (different : other ≠ bucket) :
    (buckets.write bucket key value).objects other = buckets.objects other := by
  simp [write, objects, OrderedMap.get?_insert_of_ne _ _ different]

@[simp] theorem objects_delete_same (buckets : Buckets α) (bucket key : String) :
    (buckets.delete bucket key).objects bucket = (buckets.objects bucket).erase key := by
  rw [delete]
  split
  · next absent =>
      simp only [objects, absent, Option.getD_none]
      rfl
  · next found => simp [objects, found]

theorem objects_delete_of_ne (buckets : Buckets α) {bucket other : String} (key : String)
    (different : other ≠ bucket) :
    (buckets.delete bucket key).objects other = buckets.objects other := by
  rw [delete]
  split
  · rfl
  · simp [objects, OrderedMap.get?_insert_of_ne _ _ different]

@[simp] theorem read_ensure (buckets : Buckets α) (bucket other key : String) :
    (buckets.ensure bucket).read other key = buckets.read other key := by
  simp [read]

@[simp] theorem read_write_same (buckets : Buckets α) (bucket key : String) (value : α) :
    (buckets.write bucket key value).read bucket key = some value := by
  simp [read]

theorem read_write_of_ne (buckets : Buckets α) {bucket key otherBucket otherKey : String}
    (value : α) (different : otherBucket ≠ bucket ∨ otherKey ≠ key) :
    (buckets.write bucket key value).read otherBucket otherKey =
      buckets.read otherBucket otherKey := by
  by_cases equal : otherBucket = bucket
  · subst equal
    have keysDiffer := different.resolve_left fun absurdity => absurdity rfl
    simp [read, OrderedMap.get?_insert_of_ne _ _ keysDiffer]
  · simp [read, objects_write_of_ne _ _ _ equal]

@[simp] theorem read_delete_same (buckets : Buckets α) (bucket key : String) :
    (buckets.delete bucket key).read bucket key = none := by
  simp [read]

theorem read_delete_of_ne (buckets : Buckets α) {bucket key otherBucket otherKey : String}
    (different : otherBucket ≠ bucket ∨ otherKey ≠ key) :
    (buckets.delete bucket key).read otherBucket otherKey =
      buckets.read otherBucket otherKey := by
  by_cases equal : otherBucket = bucket
  · subst equal
    have keysDiffer := different.resolve_left fun absurdity => absurdity rfl
    simp [read, OrderedMap.get?_erase_of_ne _ keysDiffer]
  · simp [read, objects_delete_of_ne _ _ equal]

end Buckets

end StoreMigration
