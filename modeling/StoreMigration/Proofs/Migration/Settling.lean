import StoreMigration.Proofs.Migration.Preservation

/-! Transforms that are run a second time. Each of them is made once and for all, but one may
undo another: what one takes away and a later one puts back is taken away once more. Where
what is taken away stays away, all of them together are made once and for all, down to the
order of the fields (`edited_twice`). -/

namespace StoreMigration

/-! ## Fields of a second pass -/

namespace Fields

theorem prefix_remove {name : String} {front whole : Fields} (along : front <+: whole)
    (absent : get? name front = none) : front <+: remove name whole := by
  rcases along with ⟨back, rfl⟩
  rw [remove_append absent]
  exact List.prefix_append front (remove name back)

theorem prefix_putIfAbsent (name : String) (value : Json) (fields : Fields) :
    fields <+: putIfAbsent name value fields := by
  rw [putIfAbsent]
  split
  · exact List.prefix_refl fields
  · exact List.prefix_append fields [(name, value)]

/-- Fields of a second pass against those of the first pass at the same point: what the first
pass came to in the end, followed by fields that the first pass has there too. -/
structure Trails (settled first second : Fields) : Prop where
  along : settled <+: second
  present : ∀ name, get? name second ≠ none → get? name settled ≠ none ∨ get? name first ≠ none

variable {settled first second : Fields}

/-- An edit keeps a second pass on the trail of the first, unless it takes away one of the
fields that are there in the end. -/
theorem Trails.apply {edit : FieldEdit} (trails : Trails settled first second)
    (away : ∀ name, edit.removed? = some name → get? name settled = none)
    (distinctFirst : first.names.Nodup) (distinctSecond : second.names.Nodup) :
    Trails settled (edit.apply first) (edit.apply second) where
  along := by
    cases edit with
    | backfill field default =>
        rw [FieldEdit.apply_backfill]
        exact trails.along.trans (prefix_putIfAbsent field default second)
    | rename source target =>
        cases moved : get? source second with
        | none =>
            rw [FieldEdit.apply_rename_of_absent target moved]
            exact trails.along
        | some value =>
            rw [FieldEdit.apply_rename target moved]
            exact (prefix_remove trails.along (away source rfl)).trans
              (prefix_putIfAbsent target value _)
    | drop field =>
        rw [FieldEdit.apply_drop]
        exact prefix_remove trails.along (away field rfl)
  present := by
    intro name stands
    rw [edit.get?_apply_or distinctSecond, ne_eq, Option.or_eq_none_iff, not_and_or] at stands
    rw [edit.get?_apply_or distinctFirst, ne_eq (Option.or _ _), Option.or_eq_none_iff, not_and_or]
    rcases stands with stood | added
    · by_cases taken : edit.removed? = some name
      · rw [if_pos taken] at stood
        exact absurd rfl stood
      · rw [if_neg taken] at stood ⊢
        exact (trails.present name stood).imp_right .inl
    · -- what the second pass adds to, the first pass added at the same point
      right
      right
      cases edit with
      | backfill field default => exact added
      | drop field => exact added
      | rename source target =>
          rw [FieldEdit.addition] at added ⊢
          by_cases here : name = target
          · rw [if_pos here] at added ⊢
            exact (trails.present source added).resolve_left fun stays => stays (away source rfl)
          · rw [if_neg here] at added
            exact absurd rfl added

theorem Trails.eq_settled (trails : Trails settled settled second) (distinct : second.names.Nodup) :
    second = settled := by
  rcases trails.along with ⟨extra, rfl⟩
  cases extra with
  | nil => exact List.append_nil settled
  | cons field rest =>
      have stands : get? field.1 (settled ++ field :: rest) ≠ none := by
        rw [get?_append, get?, if_pos rfl, ne_eq, Option.or_eq_none_iff]
        rintro ⟨_, missing⟩
        cases missing
      have inSettled : field.1 ∈ settled.names := by
        by_contra absent
        exact (or_self_iff.mp (trails.present field.1 stands)) (get?_eq_none_of_not_mem absent)
      rw [names, List.map_append, List.nodup_append] at distinct
      exact absurd rfl (distinct.2.2 field.1 inSettled field.1 List.mem_cons_self)

end Fields

namespace Transform

variable {transforms : List Transform} {bucket name : String} {fields : Fields}

/-! ## Fields that stay away -/

/-- Whether the last transform of a bucket that takes a field away or adds it does no more
than take it away. -/
def leavesGone (transforms : List Transform) (bucket name : String) : Bool :=
  transforms.foldl (fun gone transform =>
    if transform.bucket = bucket then
      decide (transform.edit.added? ≠ some name) &&
        (gone || decide (transform.edit.removed? = some name))
    else gone) false

def Settling (transforms : List Transform) (bucket : String) : Prop :=
  ∀ one ∈ transforms, one.bucket = bucket → ∀ name ∈ one.edit.removed?,
    leavesGone transforms bucket name = true

instance (transforms : List Transform) (bucket : String) : Decidable (Settling transforms bucket) :=
  inferInstanceAs (Decidable (∀ one ∈ transforms, _))

/-- Running the transforms of any one bucket again undoes nothing: there is but one of them,
or what they take away stays away. -/
def Repeatable (transforms : List Transform) : Prop :=
  ∀ one ∈ transforms, (transforms.filter fun other => other.bucket = one.bucket).length ≤ 1 ∨
    Settling transforms one.bucket

instance (transforms : List Transform) : Decidable (Repeatable transforms) :=
  inferInstanceAs (Decidable (∀ one ∈ transforms, _))

theorem leavesGone_concat (transforms : List Transform) (last : Transform) (bucket name : String) :
    leavesGone (transforms ++ [last]) bucket name =
      if last.bucket = bucket then
        decide (last.edit.added? ≠ some name) &&
          (leavesGone transforms bucket name || decide (last.edit.removed? = some name))
      else leavesGone transforms bucket name := by
  rw [leavesGone, List.foldl_concat]
  rfl

theorem get?_applyAll_of_leavesGone (distinct : fields.names.Nodup)
    (gone : leavesGone transforms bucket name = true) :
    Fields.get? name (applyAll transforms bucket fields) = none := by
  induction transforms using List.reverseRecOn with
  | nil => cases gone
  | append_singleton front last induction =>
      rw [leavesGone_concat] at gone
      rw [applyAll_concat]
      by_cases here : last.bucket = bucket
      · rw [if_pos here] at gone ⊢
        simp only [Bool.and_eq_true, Bool.or_eq_true, decide_eq_true_eq] at gone
        rw [FieldEdit.get?_apply_or _ (nodup_applyAll front bucket distinct),
          FieldEdit.addition_eq_none gone.1, Option.or_none]
        split
        · rfl
        · next stays => exact induction (gone.2.resolve_right stays)
      · rw [if_neg here] at gone ⊢
        exact induction gone

theorem trails_applyAll {settled : Fields} (distinct : fields.names.Nodup)
    (distinctSettled : settled.names.Nodup)
    (away : ∀ one ∈ transforms, one.bucket = bucket → ∀ name, one.edit.removed? = some name →
      Fields.get? name settled = none) :
    Fields.Trails settled (applyAll transforms bucket fields)
      (applyAll transforms bucket settled) := by
  induction transforms using List.reverseRecOn with
  | nil => exact ⟨List.prefix_refl settled, fun _ stands => .inl stands⟩
  | append_singleton front last induction =>
      have trails := induction fun one member => away one (List.mem_append_left [last] member)
      rw [applyAll_concat, applyAll_concat]
      by_cases here : last.bucket = bucket
      · rw [if_pos here, if_pos here]
        exact trails.apply (away last (List.mem_append_right front List.mem_cons_self) here)
          (nodup_applyAll front bucket distinct) (nodup_applyAll front bucket distinctSettled)
      · rw [if_neg here, if_neg here]
        exact trails

theorem applyAll_applyAll (settling : Settling transforms bucket) (distinct : fields.names.Nodup) :
    applyAll transforms bucket (applyAll transforms bucket fields) =
      applyAll transforms bucket fields := by
  have distinctOnce := nodup_applyAll transforms bucket distinct
  have trails : Fields.Trails (applyAll transforms bucket fields) (applyAll transforms bucket fields)
      (applyAll transforms bucket (applyAll transforms bucket fields)) := by
    apply trails_applyAll distinct distinctOnce
    intro one member here name removed
    exact get?_applyAll_of_leavesGone distinct (settling one member here name removed)
  exact trails.eq_settled (nodup_applyAll transforms bucket distinctOnce)

end Transform

/-! ## Stored forms of a second pass -/

namespace Storage

variable {storage : Storage (Buckets α) α} {capacity : Json.Capacity} {edit : FieldEdit}
  {transforms : List Transform} {bucket : String} {stored : α} {fields : Fields}

theorem editStored_of_change {changed : Fields}
    (decoded : storage.decode stored = .ok (.object fields))
    (change : edit.change? fields = some changed) :
    storage.editStored edit stored = storage.encode (.object changed) := by
  rw [editStored, editStored?_of_object decoded, change]
  rfl

theorem edited_concat (storage : Storage (Buckets α) α) (transforms : List Transform)
    (last : Transform) (bucket : String) (stored : α) :
    storage.edited (transforms ++ [last]) bucket stored =
      if last.bucket = bucket then
        storage.editStored last.edit (storage.edited transforms bucket stored)
      else storage.edited transforms bucket stored :=
  storage.edited_append transforms [last] bucket stored

theorem edited_filter (storage : Storage (Buckets α) α) (transforms : List Transform)
    (bucket : String) (stored : α) :
    storage.edited (transforms.filter fun one => one.bucket = bucket) bucket stored =
      storage.edited transforms bucket stored := by
  induction transforms generalizing stored with
  | nil => rfl
  | cons transform rest induction =>
      by_cases here : transform.bucket = bucket
      · simp [here, edited_cons, induction]
      · simp [here, edited_cons, induction]

variable (faithful : storage.Faithful capacity)

include faithful

theorem editStored_editStored (fits : edit.Fits capacity)
    (holds : storage.HoldsStored capacity stored) :
    storage.editStored edit (storage.editStored edit stored) = storage.editStored edit stored := by
  by_cases isObject : ∃ fields, storage.decode stored = .ok (.object fields)
  · rcases isObject with ⟨fields, decoded⟩
    have held := holds fields decoded
    have twice := edit.apply_apply ((capacity.held_object_iff fields).mp held).1
    cases change : edit.change? fields with
    | none =>
        have same : storage.editStored edit stored = stored := by
          rw [editStored, editStored?_of_object decoded, change]
          rfl
        rw [same, same]
    | some changed =>
        have applied : edit.apply fields = changed := by
          rw [FieldEdit.apply, change]
          rfl
        have redecoded := decode_editStored faithful fits held decoded
        rw [applied] at twice redecoded
        cases again : edit.change? changed with
        | none =>
            rw [editStored, editStored?_of_object redecoded, again]
            rfl
        | some further =>
            have same : further = changed := by
              rw [FieldEdit.apply, again] at twice
              exact twice
            rw [editStored_of_change redecoded again, editStored_of_change decoded change, same]
  · have plain := not_exists.mp isObject
    have same : storage.editStored edit stored = stored :=
      editStored_of_unchanged (editStored?_of_not_object plain)
    rw [same, same]

theorem edited_eq_or (fit : Transform.Fit capacity transforms)
    (held : capacity.Held (.object fields)) (decoded : storage.decode stored = .ok (.object fields)) :
    storage.edited transforms bucket stored = stored ∨
      storage.edited transforms bucket stored =
        storage.encode (.object (Transform.applyAll transforms bucket fields)) := by
  -- From the right: a last edit that changes nothing leaves the text of the edits before it.
  induction transforms using List.reverseRecOn with
  | nil => exact .inl rfl
  | append_singleton front last induction =>
      have fitFront := fit.of_subset (List.subset_append_left front [last])
      have earlier := induction fitFront
      have reached : storage.decode (storage.edited front bucket stored) = _ :=
        decode_edited faithful fitFront held decoded
      rw [edited_concat, Transform.applyAll_concat]
      split
      · cases change : last.edit.change? (Transform.applyAll front bucket fields) with
        | none =>
            rw [editStored, editStored?_of_object reached, change, FieldEdit.apply, change]
            exact earlier
        | some changed =>
            rw [editStored_of_change reached change, FieldEdit.apply, change]
            exact .inr rfl
      · exact earlier

theorem edited_edited_of_settling (settling : Transform.Settling transforms bucket)
    (fit : Transform.Fit capacity transforms) (holds : storage.HoldsStored capacity stored) :
    storage.edited transforms bucket (storage.edited transforms bucket stored) =
      storage.edited transforms bucket stored := by
  by_cases isObject : ∃ fields, storage.decode stored = .ok (.object fields)
  · rcases isObject with ⟨fields, decoded⟩
    have held := holds fields decoded
    have once : storage.decode (storage.edited transforms bucket stored) = _ :=
      decode_edited faithful fit held decoded
    have heldOnce := holdsStored_edited faithful fit holds _ once
    have first : storage.edited transforms bucket stored = stored ∨ _ :=
      edited_eq_or faithful fit held decoded
    have second :
        storage.edited transforms bucket (storage.edited transforms bucket stored) = _ ∨ _ :=
      edited_eq_or faithful fit heldOnce once
    -- the second pass has nothing to write, or it writes the text of the same fields
    rcases first with same | changed
    · rw [same, same]
    · rcases second with same | again
      · exact same
      · rw [again, changed,
          Transform.applyAll_applyAll settling ((capacity.held_object_iff fields).mp held).1]
  · have plain := not_exists.mp isObject
    rw [edited_of_not_object plain, edited_of_not_object plain]

theorem edited_edited_of_single
    (single : (transforms.filter fun one => one.bucket = bucket).length ≤ 1)
    (fit : Transform.Fit capacity transforms) (holds : storage.HoldsStored capacity stored) :
    storage.edited transforms bucket (storage.edited transforms bucket stored) =
      storage.edited transforms bucket stored := by
  rw [← edited_filter storage transforms bucket stored, ← edited_filter storage transforms bucket]
  cases kept : transforms.filter fun one => one.bucket = bucket with
  | nil => rfl
  | cons one rest =>
      have alone : rest = [] := by
        rw [kept, List.length_cons] at single
        exact List.length_eq_zero_iff.mp (by omega)
      have member : one ∈ transforms.filter fun one => one.bucket = bucket := by
        rw [kept]
        exact List.mem_cons_self
      rw [List.mem_filter, decide_eq_true_eq] at member
      rw [alone, edited_cons, edited_cons, if_pos member.2, if_pos member.2]
      exact editStored_editStored faithful (fit one member.1) holds

/-- What goes through transforms that can be repeated goes through them once and for all. -/
theorem edited_twice (repeatable : Transform.Repeatable transforms)
    (fit : Transform.Fit capacity transforms)
    (holds : (∃ one ∈ transforms, one.bucket = bucket) → storage.HoldsStored capacity stored) :
    storage.edited transforms bucket (storage.edited transforms bucket stored) =
      storage.edited transforms bucket stored := by
  by_cases named : ∃ one ∈ transforms, one.bucket = bucket
  · have room := holds named
    rcases named with ⟨one, member, rfl⟩
    rcases repeatable one member with single | settling
    · exact edited_edited_of_single faithful single fit room
    · exact edited_edited_of_settling faithful settling fit room
  · have unnamed : ∀ one ∈ transforms, one.bucket ≠ bucket :=
      fun one member here => named ⟨one, member, here⟩
    rw [edited_of_unnamed storage unnamed, edited_of_unnamed storage unnamed]

end Storage

theorem Transform.completed_eq {storage : Storage (Buckets α) α} {capacity : Json.Capacity}
    (faithful : storage.Faithful capacity) {transform : Transform}
    (fits : transform.edit.Fits capacity) {before reached completed after : Buckets α}
    (holds : storage.HoldsIn capacity before transform.bucket)
    (partly : storage.PartlyEdited [transform] before reached)
    (straight : storage.Edited [transform] before completed)
    (onward : storage.Edited [transform] reached after) : after = completed := by
  have fit : Fit capacity [transform] := List.forall_mem_singleton.mpr fits
  have repeatable : Repeatable [transform] := fun _ _ => .inl (List.length_filter_le _ _)
  apply Buckets.ext_read
  · intro other
    rw [onward.has_iff, straight.has_iff]
    constructor
    · rintro (has | named)
      · exact partly.made other has
      · exact .inr named
    · exact Or.imp_left (partly.kept other)
  · funext other key
    rcases partly.read other key with ⟨part, along, same⟩
    rw [onward.read, straight.read, same]
    cases found : before.read other key with
    | none => rfl
    | some stored =>
        rw [Option.map_some, Option.map_some, Option.map_some]
        rcases List.prefix_cons_iff.mp along with rfl | ⟨rest, rfl, none⟩
        · rfl
        · rw [List.prefix_nil.mp none, Storage.edited_twice faithful repeatable fit]
          rintro ⟨one, member, rfl⟩
          cases List.mem_singleton.mp member
          exact holds key stored found

end StoreMigration
