import StoreMigration.Proofs.Migration.Edits
import StoreMigration.Proofs.Store.Faithful

/-! What transforms do to what is stored. Each stored form goes through the transforms of
its bucket on its own, so a store that was left half-way is told by how far each of its
objects has come. Transforms that do not get in each other's way take an object that has
come some of the way to where they take the object that has not (`edited_edited`). -/

namespace StoreMigration

def FieldEdit.Fits (capacity : Json.Capacity) (edit : FieldEdit) : Prop :=
  ∀ value ∈ edit.default?, capacity.Within value

theorem FieldEdit.fits_of_nothing {capacity : Json.Capacity} {edit : FieldEdit}
    (nothing : edit.default? = none) : edit.Fits capacity := by
  intro value own
  rw [nothing] at own
  cases own

/-- No transform takes away what another, or itself, adds in the same bucket, and what they
bring can be stored anywhere. -/
structure Transform.Orderly (transforms : List Transform) : Prop where
  apart : ∀ one ∈ transforms, ∀ other ∈ transforms, one.bucket = other.bucket →
    one.edit.Apart other.edit
  modest : ∀ transform ∈ transforms, ∀ value ∈ transform.edit.default?, value.Modest

theorem Transform.Orderly.of_subset {some all : List Transform} (orderly : Orderly all)
    (subset : some ⊆ all) : Orderly some where
  apart one first other second := orderly.apart one (subset first) other (subset second)
  modest transform member := orderly.modest transform (subset member)

def Transform.Fit (capacity : Json.Capacity) (transforms : List Transform) : Prop :=
  ∀ transform ∈ transforms, transform.edit.Fits capacity

theorem Transform.Orderly.fit {transforms : List Transform} (orderly : Orderly transforms)
    (capacity : Json.Capacity) : Fit capacity transforms :=
  fun transform member value own =>
    capacity.within_of_modest (orderly.modest transform member value own)

theorem Transform.Fit.of_subset {capacity : Json.Capacity} {some all : List Transform}
    (fit : Fit capacity all) (subset : some ⊆ all) : Fit capacity some :=
  fun transform member => fit transform (subset member)

namespace Storage

/-! ## Stored forms -/

section StoredForms

variable (storage : Storage σ α)

/-- The stored form of an object that an edit changes; `none` where it changes nothing. -/
def editStored? (edit : FieldEdit) (stored : α) : Option α :=
  match storage.decode stored with
  | .ok (.object fields) =>
      (edit.change? fields).map fun changed => storage.encode (.object changed)
  | _ => none

def editStored (edit : FieldEdit) (stored : α) : α :=
  (storage.editStored? edit stored).getD stored

def edited (transforms : List Transform) (bucket : String) (stored : α) : α :=
  transforms.foldl (fun stored transform =>
    if transform.bucket = bucket then storage.editStored transform.edit stored else stored) stored

/-- What is stored is no object, or one that the store has room for. -/
def HoldsStored (capacity : Json.Capacity) (stored : α) : Prop :=
  ∀ fields, storage.decode stored = .ok (.object fields) → capacity.Held (.object fields)

def Decodes (stored : α) : Prop :=
  ∃ value, storage.decode stored = .ok value

theorem edited_cons (transform : Transform) (rest : List Transform) (bucket : String) (stored : α) :
    storage.edited (transform :: rest) bucket stored =
      storage.edited rest bucket
        (if transform.bucket = bucket then storage.editStored transform.edit stored else stored) := rfl

theorem edited_append (front back : List Transform) (bucket : String) (stored : α) :
    storage.edited (front ++ back) bucket stored =
      storage.edited back bucket (storage.edited front bucket stored) :=
  List.foldl_append

end StoredForms

/-! ## One edit -/

variable {storage : Storage (Buckets α) α} {capacity : Json.Capacity}
  {edit other : FieldEdit} {stored : α}

theorem editStored?_of_object {fields : Fields}
    (decoded : storage.decode stored = .ok (.object fields)) :
    storage.editStored? edit stored =
      (edit.change? fields).map fun changed => storage.encode (.object changed) := by
  simp only [editStored?, decoded]

theorem editStored?_eq_none_iff : storage.editStored? edit stored = none ↔
    ∀ fields, storage.decode stored = .ok (.object fields) → edit.change? fields = none := by
  constructor
  · intro unchanged fields decoded
    rw [editStored?_of_object decoded] at unchanged
    exact Option.map_eq_none_iff.mp unchanged
  · intro settled
    rw [editStored?]
    split
    · next fields decoded => rw [settled fields decoded, Option.map_none]
    · rfl

theorem editStored_of_unchanged (unchanged : storage.editStored? edit stored = none) :
    storage.editStored edit stored = stored := by
  rw [editStored, unchanged, Option.getD_none]

theorem editStored?_of_not_object
    (plain : ∀ fields, storage.decode stored ≠ .ok (.object fields)) :
    storage.editStored? edit stored = none :=
  editStored?_eq_none_iff.mpr fun fields decoded => absurd decoded (plain fields)

theorem held_apply {fields : Fields} (fits : edit.Fits capacity)
    (held : capacity.Held (.object fields)) : capacity.Held (.object (edit.apply fields)) := by
  rw [capacity.held_object_iff] at held ⊢
  exact ⟨edit.nodup_apply held.1, FieldEdit.forall_mem_apply fits held.2⟩

variable (faithful : storage.Faithful capacity)

include faithful

theorem decode_editStored {fields : Fields} (fits : edit.Fits capacity)
    (held : capacity.Held (.object fields)) (decoded : storage.decode stored = .ok (.object fields)) :
    storage.decode (storage.editStored edit stored) = .ok (.object (edit.apply fields)) := by
  have kept : capacity.Held (.object (edit.apply fields)) := held_apply fits held
  rw [editStored, editStored?_of_object decoded]
  cases change : edit.change? fields with
  | none =>
      rw [FieldEdit.apply_of_change?_eq_none change, Option.map_none, Option.getD_none]
      exact decoded
  | some changed =>
      rw [FieldEdit.apply, change, Option.getD_some] at kept ⊢
      exact faithful.decode_held kept

theorem holdsStored_editStored (fits : edit.Fits capacity)
    (holds : storage.HoldsStored capacity stored) :
    storage.HoldsStored capacity (storage.editStored edit stored) := by
  by_cases isObject : ∃ fields, storage.decode stored = .ok (.object fields)
  · rcases isObject with ⟨fields, decoded⟩
    intro others redecoded
    rw [decode_editStored faithful fits (holds fields decoded) decoded] at redecoded
    cases redecoded
    exact held_apply fits (holds fields decoded)
  · rw [editStored_of_unchanged (editStored?_of_not_object (not_exists.mp isObject))]
    exact holds

theorem decodes_editStored_iff (fits : edit.Fits capacity)
    (holds : storage.HoldsStored capacity stored) :
    storage.Decodes (storage.editStored edit stored) ↔ storage.Decodes stored := by
  by_cases isObject : ∃ fields, storage.decode stored = .ok (.object fields)
  · rcases isObject with ⟨fields, decoded⟩
    have after := decode_editStored faithful fits (holds fields decoded) decoded
    exact iff_of_true ⟨_, after⟩ ⟨_, decoded⟩
  · rw [editStored_of_unchanged (editStored?_of_not_object (not_exists.mp isObject))]

theorem editStored?_editStored (proper : other.Apart other) (before : edit.Apart other)
    (after : other.Apart edit) (fits : other.Fits capacity)
    (holds : storage.HoldsStored capacity stored)
    (settled : storage.editStored? edit stored = none) :
    storage.editStored? edit (storage.editStored other stored) = none := by
  rw [editStored?_eq_none_iff] at settled ⊢
  by_cases isObject : ∃ fields, storage.decode stored = .ok (.object fields)
  · rcases isObject with ⟨fields, decoded⟩
    intro others redecoded
    have held := holds fields decoded
    rw [decode_editStored faithful fits held decoded] at redecoded
    cases redecoded
    exact FieldEdit.change?_apply_other (settled fields decoded) proper before after
      ((capacity.held_object_iff fields).mp held).1
  · rw [editStored_of_unchanged (editStored?_of_not_object (not_exists.mp isObject))]
    exact settled

theorem editStored?_editStored_self (proper : edit.Apart edit)
    (fits : edit.Fits capacity) (holds : storage.HoldsStored capacity stored) :
    storage.editStored? edit (storage.editStored edit stored) = none := by
  rw [editStored?_eq_none_iff]
  by_cases isObject : ∃ fields, storage.decode stored = .ok (.object fields)
  · rcases isObject with ⟨fields, decoded⟩
    intro others redecoded
    have held := holds fields decoded
    rw [decode_editStored faithful fits held decoded] at redecoded
    cases redecoded
    exact FieldEdit.change?_apply_self proper ((capacity.held_object_iff fields).mp held).1
  · have plain := not_exists.mp isObject
    intro fields decoded
    rw [editStored_of_unchanged (editStored?_of_not_object plain)] at decoded
    exact absurd decoded (plain fields)

/-! ## Some transforms -/

variable {transforms part further : List Transform} {bucket : String}

theorem holdsStored_edited (fit : Transform.Fit capacity transforms)
    (holds : storage.HoldsStored capacity stored) :
    storage.HoldsStored capacity (storage.edited transforms bucket stored) := by
  induction transforms generalizing stored with
  | nil => exact holds
  | cons transform rest induction =>
      rw [edited_cons]
      apply induction (fit.of_subset (List.subset_cons_self transform rest))
      split
      · exact holdsStored_editStored faithful (fit transform List.mem_cons_self) holds
      · exact holds

theorem decodes_edited_iff (fit : Transform.Fit capacity transforms)
    (holds : storage.HoldsStored capacity stored) :
    storage.Decodes (storage.edited transforms bucket stored) ↔ storage.Decodes stored := by
  induction transforms generalizing stored with
  | nil => exact Iff.rfl
  | cons transform rest induction =>
      have fits := fit transform List.mem_cons_self
      have others := fit.of_subset (List.subset_cons_self transform rest)
      rw [edited_cons]
      split
      · rw [induction others (holdsStored_editStored faithful fits holds),
          decodes_editStored_iff faithful fits holds]
      · exact induction others holds

theorem settled_of_edited {one : Transform} (orderly : Transform.Orderly (one :: transforms))
    (holds : storage.HoldsStored capacity stored) (here : one.bucket = bucket)
    (settled : storage.editStored? one.edit stored = none) :
    storage.editStored? one.edit (storage.edited transforms bucket stored) = none := by
  induction transforms generalizing stored with
  | nil => exact settled
  | cons transform rest induction =>
      have member : transform ∈ one :: transform :: rest :=
        List.mem_cons_of_mem one List.mem_cons_self
      have others : Transform.Orderly (one :: rest) :=
        orderly.of_subset (List.cons_subset_cons one (List.subset_cons_self transform rest))
      rw [edited_cons]
      split
      · next same =>
          have together : one.bucket = transform.bucket := here.trans same.symm
          have fits := orderly.fit capacity transform member
          apply induction others (holdsStored_editStored faithful fits holds)
          exact editStored?_editStored faithful (orderly.apart transform member transform member rfl)
            (orderly.apart one List.mem_cons_self transform member together)
            (orderly.apart transform member one List.mem_cons_self together.symm) fits holds settled
      · exact induction others holds settled

theorem settled_edited (orderly : Transform.Orderly transforms)
    (holds : storage.HoldsStored capacity stored) {one : Transform} (member : one ∈ transforms)
    (here : one.bucket = bucket) :
    storage.editStored? one.edit (storage.edited transforms bucket stored) = none := by
  induction transforms generalizing stored with
  | nil => cases member
  | cons transform rest induction =>
      have first := orderly.fit capacity transform List.mem_cons_self
      rw [edited_cons]
      rcases List.mem_cons.mp member with rfl | member
      · rw [if_pos here]
        apply settled_of_edited faithful orderly (holdsStored_editStored faithful first holds) here
        exact editStored?_editStored_self faithful
          (orderly.apart one List.mem_cons_self one List.mem_cons_self rfl) first holds
      · apply induction (orderly.of_subset (List.subset_cons_self transform rest)) _ member
        split
        · exact holdsStored_editStored faithful first holds
        · exact holds

omit faithful in
theorem edited_of_settled
    (settled : ∀ one ∈ transforms, one.bucket = bucket → storage.editStored? one.edit stored = none) :
    storage.edited transforms bucket stored = stored := by
  induction transforms with
  | nil => rfl
  | cons transform rest induction =>
      have others := induction fun one member => settled one (List.mem_cons_of_mem transform member)
      rw [edited_cons]
      split
      · next here =>
          rw [editStored_of_unchanged (settled transform List.mem_cons_self here)]
          exact others
      · exact others

theorem edited_edited_of_subset (orderly : Transform.Orderly transforms)
    (holds : (∃ one ∈ transforms, one.bucket = bucket) → storage.HoldsStored capacity stored)
    (subset : part ⊆ transforms) :
    storage.edited part bucket (storage.edited transforms bucket stored) =
      storage.edited transforms bucket stored :=
  edited_of_settled fun one member here =>
    settled_edited faithful orderly (holds ⟨one, subset member, here⟩) (subset member) here

/-- What has come some of the way ends where everything ends. -/
theorem edited_edited (orderly : Transform.Orderly transforms)
    (holds : (∃ one ∈ transforms, one.bucket = bucket) → storage.HoldsStored capacity stored)
    (along : part <+: transforms) :
    storage.edited transforms bucket (storage.edited part bucket stored) =
      storage.edited transforms bucket stored := by
  rcases along with ⟨rest, rfl⟩
  have subset : part ⊆ part ++ rest := List.subset_append_left part rest
  have holdsFirst : (∃ one ∈ part, one.bucket = bucket) → storage.HoldsStored capacity stored :=
    fun ⟨one, member, here⟩ => holds ⟨one, subset member, here⟩
  rw [edited_append, edited_append, edited_edited_of_subset faithful (orderly.of_subset subset)
    holdsFirst (List.Subset.refl part)]

theorem exists_edited_edited (orderly : Transform.Orderly transforms)
    (holds : (∃ one ∈ transforms, one.bucket = bucket) → storage.HoldsStored capacity stored)
    (along : part <+: transforms) (again : further <+: transforms) :
    ∃ whole, whole <+: transforms ∧
      storage.edited further bucket (storage.edited part bucket stored) =
        storage.edited whole bucket stored := by
  have holdsAmong : ∀ {some : List Transform}, some ⊆ transforms →
      (∃ one ∈ some, one.bucket = bucket) → storage.HoldsStored capacity stored :=
    fun subset ⟨one, member, here⟩ => holds ⟨one, subset member, here⟩
  have first : Transform.Orderly part := orderly.of_subset along.subset
  have second : Transform.Orderly further := orderly.of_subset again.subset
  rcases List.prefix_or_prefix_of_prefix along again with shorter | longer
  · exact ⟨further, again, edited_edited faithful second (holdsAmong again.subset) shorter⟩
  · exact ⟨part, along,
      edited_edited_of_subset faithful first (holdsAmong along.subset) longer.subset⟩

end Storage

end StoreMigration
