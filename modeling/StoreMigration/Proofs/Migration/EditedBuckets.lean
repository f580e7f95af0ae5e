import StoreMigration.Proofs.Migration.StoredEdits

/-! Stores whose objects were edited. Editing some objects of a bucket is part of what a
transform does, and editing them all is what it does; what some transforms did and what
others did after them is what all of them did. -/

namespace StoreMigration

namespace Storage

/-! ## What is stored -/

section Contents

variable (storage : Storage (Buckets α) α)

/-- A look-up that is not refused answers, with an object or with none. -/
def Readable (buckets : Buckets α) (bucket key : String) : Prop :=
  ∃ answer, storage.read buckets bucket key = .ok answer

def HoldsIn (capacity : Json.Capacity) (buckets : Buckets α) (bucket : String) : Prop :=
  ∀ key stored, buckets.read bucket key = some stored → storage.HoldsStored capacity stored

def editObject (edit : FieldEdit) (bucket key : String) (buckets : Buckets α) : Buckets α :=
  match (buckets.read bucket key).bind (storage.editStored? edit) with
  | some changed => buckets.write bucket key changed
  | none => buckets

def editObjects (edit : FieldEdit) (bucket : String) (keys : List String) (buckets : Buckets α) :
    Buckets α :=
  keys.foldl (fun buckets key => storage.editObject edit bucket key buckets) buckets

/-- Every object went through the first few of some transforms. -/
structure PartlyEdited (transforms : List Transform) (before after : Buckets α) : Prop where
  read : ∀ bucket key, ∃ part, part <+: transforms ∧
    after.read bucket key = (before.read bucket key).map (storage.edited part bucket)
  kept : ∀ bucket, before.Has bucket → after.Has bucket
  made : ∀ bucket, after.Has bucket →
    before.Has bucket ∨ bucket ∈ transforms.map Transform.bucket

structure Edited (transforms : List Transform) (before after : Buckets α) : Prop where
  read : ∀ bucket key,
    after.read bucket key = (before.read bucket key).map (storage.edited transforms bucket)
  has_iff : ∀ bucket, after.Has bucket ↔
    before.Has bucket ∨ bucket ∈ transforms.map Transform.bucket

end Contents

variable {storage : Storage (Buckets α) α} {capacity : Json.Capacity} {buckets : Buckets α}
  {edit : FieldEdit} {bucket : String}

theorem read_editObject (storage : Storage (Buckets α) α) (edit : FieldEdit) (bucket key : String)
    (buckets : Buckets α) (other label : String) :
    (storage.editObject edit bucket key buckets).read other label =
      if other = bucket ∧ label = key then
        (buckets.read other label).map (storage.editStored edit)
      else buckets.read other label := by
  rw [editObject]
  by_cases here : other = bucket ∧ label = key
  · rcases here with ⟨rfl, rfl⟩
    rw [if_pos ⟨rfl, rfl⟩]
    cases found : buckets.read other label with
    | none => exact found
    | some stored =>
        rw [Option.bind_some, Option.map_some, editStored]
        cases change : storage.editStored? edit stored with
        | none => exact found
        | some changed => exact Buckets.read_write_same buckets other label changed
  · rw [if_neg here]
    split
    · next changed _ =>
        exact Buckets.read_write_of_ne buckets changed (Classical.not_and_iff_not_or_not.mp here)
    · rfl

theorem has_editObject_iff (storage : Storage (Buckets α) α) (edit : FieldEdit)
    (bucket key : String) (buckets : Buckets α) (other : String) :
    (storage.editObject edit bucket key buckets).Has other ↔ buckets.Has other := by
  rw [editObject]
  split
  · next changed change =>
      rcases Option.bind_eq_some_iff.mp change with ⟨stored, found, _⟩
      rw [Buckets.has_write_iff, or_iff_right_of_imp]
      rintro rfl
      exact Buckets.has_of_read found
  · rfl

theorem stored_of_read (faithful : storage.Faithful capacity) {key : String} {value : Json}
    (known : storage.read buckets bucket key = .ok (some value)) :
    ∃ stored, buckets.read bucket key = some stored ∧ storage.decode stored = .ok value := by
  rw [faithful.read_eq, Objects.answer] at known
  cases found : buckets.read bucket key with
  | none =>
      rw [found] at known
      cases known
  | some stored =>
      rw [found] at known
      cases decoded : storage.decode stored with
      | error fault => simp [decoded] at known
      | ok other =>
          simp only [decoded, Except.ok.injEq, Option.some.injEq] at known
          exact ⟨stored, rfl, known ▸ decoded⟩

theorem editObject_of_unchanged (faithful : storage.Faithful capacity) {key : String}
    {found : Option Json} (known : storage.read buckets bucket key = .ok found)
    (unchanged : ∀ fields, found = some (.object fields) → edit.change? fields = none) :
    storage.editObject edit bucket key buckets = buckets := by
  have same : (buckets.read bucket key).bind (storage.editStored? edit) = none := by
    rw [Option.bind_eq_none_iff]
    intro stored stands
    rw [editStored?_eq_none_iff]
    intro fields decoded
    apply unchanged
    rw [faithful.read_eq, Objects.answer, stands] at known
    simp only [decoded, Except.ok.injEq] at known
    exact known.symm
  rw [editObject, same]

theorem editObject_of_change (faithful : storage.Faithful capacity) {key : String}
    {fields changed : Fields}
    (known : storage.read buckets bucket key = .ok (some (.object fields)))
    (change : edit.change? fields = some changed) :
    storage.editObject edit bucket key buckets =
      buckets.write bucket key (storage.encode (.object changed)) := by
  rcases stored_of_read faithful known with ⟨stored, stands, decoded⟩
  rw [editObject, stands, Option.bind_some, editStored?_of_object decoded, change]
  rfl

theorem held_of_change (faithful : storage.Faithful capacity)
    (fits : edit.Fits capacity)
    (holds : storage.HoldsIn capacity buckets bucket) {key : String} {fields changed : Fields}
    (known : storage.read buckets bucket key = .ok (some (.object fields)))
    (change : edit.change? fields = some changed) : capacity.Held (.object changed) := by
  rcases stored_of_read faithful known with ⟨stored, stands, decoded⟩
  have applied := held_apply fits (holds key stored stands fields decoded)
  rw [FieldEdit.apply, change] at applied
  exact applied

theorem read_editObjects (storage : Storage (Buckets α) α) (edit : FieldEdit) (bucket : String)
    {keys : List String} (distinct : keys.Nodup) (buckets : Buckets α) (other label : String) :
    (storage.editObjects edit bucket keys buckets).read other label =
      if other = bucket ∧ label ∈ keys then
        (buckets.read other label).map (storage.editStored edit)
      else buckets.read other label := by
  induction keys generalizing buckets with
  | nil => simp [editObjects]
  | cons key rest induction =>
      rw [List.nodup_cons] at distinct
      have later := induction distinct.2 (storage.editObject edit bucket key buckets)
      rw [editObjects, List.foldl_cons]
      rw [editObjects] at later
      rw [later, read_editObject]
      by_cases here : label = key
      · subst here
        simp [distinct.1]
      · simp [here]

theorem has_editObjects_iff (storage : Storage (Buckets α) α) (edit : FieldEdit)
    (bucket : String) (keys : List String) (buckets : Buckets α) (other : String) :
    (storage.editObjects edit bucket keys buckets).Has other ↔ buckets.Has other := by
  induction keys generalizing buckets with
  | nil => exact Iff.rfl
  | cons key rest induction =>
      exact (induction _).trans (has_editObject_iff storage edit bucket key buckets other)

theorem readable_iff (faithful : storage.Faithful capacity) {key : String} :
    storage.Readable buckets bucket key ↔
      ∀ stored, buckets.read bucket key = some stored → storage.Decodes stored := by
  rw [Readable, faithful.read_eq, Objects.answer]
  cases buckets.read bucket key with
  | none => simp
  | some stored =>
      simp only [Option.some.injEq, forall_eq', Decodes]
      cases storage.decode stored with
      | ok value => simp
      | error fault => simp

/-! ## How far objects have come -/

variable {transforms others : List Transform} {before middle after : Buckets α}

theorem PartlyEdited.refl (storage : Storage (Buckets α) α) (transforms : List Transform)
    (buckets : Buckets α) : storage.PartlyEdited transforms buckets buckets where
  read bucket key := ⟨[], List.nil_prefix, (congrFun Option.map_id (buckets.read bucket key)).symm⟩
  kept _ present := present
  made _ present := .inl present

theorem Edited.refl (storage : Storage (Buckets α) α) (buckets : Buckets α) :
    storage.Edited [] buckets buckets where
  read bucket key := (congrFun Option.map_id (buckets.read bucket key)).symm
  has_iff bucket := by simp

theorem PartlyEdited.extend (partly : storage.PartlyEdited transforms before after)
    (others : List Transform) : storage.PartlyEdited (transforms ++ others) before after where
  read bucket key := by
    rcases partly.read bucket key with ⟨part, along, same⟩
    exact ⟨part, along.trans (List.prefix_append transforms others), same⟩
  kept := partly.kept
  made bucket present := by
    rw [List.map_append, List.mem_append]
    exact (partly.made bucket present).imp_right .inl

theorem Edited.partly (edited : storage.Edited transforms before after) :
    storage.PartlyEdited transforms before after where
  read bucket key := ⟨transforms, List.prefix_refl transforms, edited.read bucket key⟩
  kept bucket present := (edited.has_iff bucket).mpr (.inl present)
  made bucket := (edited.has_iff bucket).mp

theorem Edited.trans_partly (first : storage.Edited transforms before middle)
    (second : storage.PartlyEdited others middle after) :
    storage.PartlyEdited (transforms ++ others) before after where
  read bucket key := by
    rcases second.read bucket key with ⟨part, along, same⟩
    refine ⟨transforms ++ part, (List.prefix_append_right_inj transforms).mpr along, ?_⟩
    rw [same, first.read, Option.map_map]
    congr 1
    funext stored
    exact (storage.edited_append transforms part bucket stored).symm
  kept bucket present := second.kept bucket ((first.has_iff bucket).mpr (.inl present))
  made bucket present := by
    rw [List.map_append, List.mem_append, ← or_assoc, ← first.has_iff]
    exact second.made bucket present

theorem Edited.trans (first : storage.Edited transforms before middle)
    (second : storage.Edited others middle after) :
    storage.Edited (transforms ++ others) before after where
  read bucket key := by
    rw [second.read, first.read, Option.map_map]
    congr 1
    funext stored
    exact (storage.edited_append transforms others bucket stored).symm
  has_iff bucket := by
    rw [second.has_iff, first.has_iff, List.map_append, List.mem_append, or_assoc]

theorem holdsIn_of_read (faithful : storage.Faithful capacity)
    (fit : Transform.Fit capacity transforms)
    (read : ∀ key, ∃ part, part <+: transforms ∧
      after.read bucket key = (before.read bucket key).map (storage.edited part bucket))
    (holds : storage.HoldsIn capacity before bucket) : storage.HoldsIn capacity after bucket := by
  intro key stored found
  rcases read key with ⟨part, along, same⟩
  rw [same] at found
  rcases Option.map_eq_some_iff.mp found with ⟨old, was, rfl⟩
  exact holdsStored_edited faithful (fit.of_subset along.subset) (holds key old was)

theorem readable_of_read_iff (faithful : storage.Faithful capacity)
    (fit : Transform.Fit capacity transforms)
    (read : ∀ key, ∃ part, part <+: transforms ∧
      after.read bucket key = (before.read bucket key).map (storage.edited part bucket))
    (holds : storage.HoldsIn capacity before bucket) (key : String) :
    storage.Readable after bucket key ↔ storage.Readable before bucket key := by
  rcases read key with ⟨part, along, same⟩
  rw [readable_iff faithful, readable_iff faithful, same]
  cases found : before.read bucket key with
  | none => simp
  | some stored =>
      have alike : storage.Decodes (storage.edited part bucket stored) ↔ storage.Decodes stored :=
        decodes_edited_iff faithful (fit.of_subset along.subset) (holds key stored found)
      simpa using alike

theorem holdsIn_editObject (faithful : storage.Faithful capacity)
    (fits : edit.Fits capacity) (key : String)
    (holds : storage.HoldsIn capacity buckets bucket) :
    storage.HoldsIn capacity (storage.editObject edit bucket key buckets) bucket := by
  intro label stored found
  rw [read_editObject] at found
  split at found
  · rcases Option.map_eq_some_iff.mp found with ⟨old, was, rfl⟩
    exact holdsStored_editStored faithful fits (holds label old was)
  · exact holds label stored found

theorem readable_editObject_of_ne (faithful : storage.Faithful capacity) {key label : String}
    (different : label ≠ key) :
    storage.Readable (storage.editObject edit bucket key buckets) bucket label ↔
      storage.Readable buckets bucket label := by
  rw [readable_iff faithful, readable_iff faithful, read_editObject, if_neg]
  exact fun here => different here.2

theorem holdsIn_ensure_iff {other : String} :
    storage.HoldsIn capacity (buckets.ensure other) bucket ↔
      storage.HoldsIn capacity buckets bucket := by
  rw [HoldsIn, HoldsIn, Buckets.read_ensure_eq]

theorem readable_ensure_iff (faithful : storage.Faithful capacity) {key other : String} :
    storage.Readable (buckets.ensure other) bucket key ↔ storage.Readable buckets bucket key := by
  rw [readable_iff faithful, readable_iff faithful, Buckets.read_ensure_eq]

theorem partlyEdited_ensure (storage : Storage (Buckets α) α) (transform : Transform)
    (buckets : Buckets α) :
    storage.PartlyEdited [transform] buckets (buckets.ensure transform.bucket) where
  read bucket key := by
    refine ⟨[], List.nil_prefix, ?_⟩
    rw [Buckets.read_ensure]
    exact (congrFun Option.map_id (buckets.read bucket key)).symm
  kept bucket present := (Buckets.has_ensure_iff _ _ _).mpr (.inr present)
  made bucket present := by
    rw [Buckets.has_ensure_iff] at present
    rw [List.map_singleton, List.mem_singleton]
    exact present.symm

theorem edited_singleton (storage : Storage (Buckets α) α) (transform : Transform) :
    storage.edited [transform] transform.bucket = storage.editStored transform.edit := by
  funext stored
  rw [edited_cons, if_pos rfl]
  rfl

theorem edited_singleton_of_ne (storage : Storage (Buckets α) α) {transform : Transform}
    {bucket : String} (elsewhere : bucket ≠ transform.bucket) :
    storage.edited [transform] bucket = id := by
  funext stored
  rw [edited_cons, if_neg (Ne.symm elsewhere)]
  rfl

theorem partlyEdited_editObjects (storage : Storage (Buckets α) α) (transform : Transform)
    {keys : List String} (distinct : keys.Nodup) (buckets : Buckets α) :
    storage.PartlyEdited [transform] buckets
      (storage.editObjects transform.edit transform.bucket keys
        (buckets.ensure transform.bucket)) where
  read bucket key := by
    rw [read_editObjects storage transform.edit transform.bucket distinct, Buckets.read_ensure]
    split
    · next here =>
        refine ⟨[transform], List.prefix_refl _, ?_⟩
        rw [here.1, edited_singleton]
    · exact ⟨[], List.nil_prefix, (congrFun Option.map_id (buckets.read bucket key)).symm⟩
  kept bucket present := by
    rw [has_editObjects_iff]
    exact (partlyEdited_ensure storage transform buckets).kept bucket present
  made bucket present := by
    rw [has_editObjects_iff] at present
    exact (partlyEdited_ensure storage transform buckets).made bucket present

theorem edited_editObjects (storage : Storage (Buckets α) α) (transform : Transform)
    {keys : List String} (distinct : keys.Nodup) (buckets : Buckets α)
    (all : ∀ key, (buckets.read transform.bucket key).isSome = true → key ∈ keys) :
    storage.Edited [transform] buckets
      (storage.editObjects transform.edit transform.bucket keys
        (buckets.ensure transform.bucket)) where
  read bucket key := by
    rw [read_editObjects storage transform.edit transform.bucket distinct, Buckets.read_ensure]
    by_cases here : bucket = transform.bucket
    · rw [here, edited_singleton]
      cases found : buckets.read transform.bucket key with
      | none => simp
      | some stored =>
          have listed : key ∈ keys := all key (by rw [found]; rfl)
          rw [if_pos ⟨rfl, listed⟩]
    · rw [if_neg fun both => here both.1, edited_singleton_of_ne storage here, Option.map_id, id]
  has_iff bucket := by
    rw [has_editObjects_iff, Buckets.has_ensure_iff, List.map_singleton, List.mem_singleton, or_comm]

end Storage

end StoreMigration
