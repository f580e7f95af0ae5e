import StoreMigration.Migration.Step

/-! Editing the fields of every object of a bucket. An edit looks at an object before
it changes it, and the object is written back only when it changes, so a step made of
one edit can be run any number of times. Values that are not objects are left alone. -/

namespace StoreMigration

inductive FieldEdit where
  | backfill (field : String) (default : Json)
  /-- Move a field to another name. Where that name is taken its value wins and the
  field is dropped. -/
  | rename (source target : String)
  | drop (field : String)
  deriving Repr

namespace FieldEdit

/-- The fields after the edit; `none` where it changes nothing. -/
def change? : FieldEdit → Fields → Option Fields
  | backfill field default, fields =>
      if Fields.contains field fields then none else some (Fields.put field default fields)
  | rename source target, fields =>
      match Fields.get? source fields with
      | none => none
      | some value => some (Fields.putIfAbsent target value (Fields.remove source fields))
  | drop field, fields =>
      if Fields.contains field fields then some (Fields.remove field fields) else none

def apply (edit : FieldEdit) (fields : Fields) : Fields :=
  (edit.change? fields).getD fields

/-! ## As a program -/

def editKey (edit : FieldEdit) (bucket key : String) : Action StoreError Unit := do
  match ← Action.get bucket key with
  | some (.object fields) =>
      match edit.change? fields with
      | some changed => Action.update bucket key (.object changed)
      | none => return ()
  | _ => return ()

def editKeys (edit : FieldEdit) (bucket : String) : List String → Action StoreError Unit
  | [] => return ()
  | key :: rest => do
      edit.editKey bucket key
      edit.editKeys bucket rest

/-- Edit every object of a bucket, key by key in ascending order. -/
def editBucket (edit : FieldEdit) (bucket : String) : Action StoreError Unit := do
  Action.ensureBucket bucket
  edit.editKeys bucket (← Action.listKeys bucket)

end FieldEdit

namespace Step

def editing (name bucket : String) (edit : FieldEdit) : Step :=
  ofStore name (edit.editBucket bucket)

def backfill (name bucket field : String) (default : Json) : Step :=
  editing name bucket (.backfill field default)

def rename (name bucket source target : String) : Step :=
  editing name bucket (.rename source target)

def drop (name bucket field : String) : Step :=
  editing name bucket (.drop field)

end Step

/-! ## As data -/

structure Transform where
  name : String
  bucket : String
  edit : FieldEdit
  deriving Repr

namespace Transform

def backfill (name bucket field : String) (default : Json) : Transform :=
  ⟨name, bucket, .backfill field default⟩

def rename (name bucket source target : String) : Transform :=
  ⟨name, bucket, .rename source target⟩

def drop (name bucket field : String) : Transform :=
  ⟨name, bucket, .drop field⟩

def step (transform : Transform) : Step :=
  .editing transform.name transform.bucket transform.edit

end Transform

end StoreMigration
