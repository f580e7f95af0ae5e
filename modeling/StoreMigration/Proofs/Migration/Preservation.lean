import Mathlib.Data.List.Induction
import StoreMigration.Proofs.Migration.Shipped

/-! The releases lose no data. A field that stands keeps its value or is one of the few that
the releases take away; a field that is new is one that they bring. What they move from one
name to another is still there under the other (`keepsData`). -/

namespace StoreMigration

/-! ## Fields through some transforms -/

def Transform.applyAll (transforms : List Transform) (bucket : String) (fields : Fields) : Fields :=
  transforms.foldl (fun fields transform =>
    if transform.bucket = bucket then transform.edit.apply fields else fields) fields

namespace Transform

variable {transforms : List Transform} {bucket : String} {fields : Fields}

theorem applyAll_concat (transforms : List Transform) (last : Transform) (bucket : String)
    (fields : Fields) :
    applyAll (transforms ++ [last]) bucket fields =
      if last.bucket = bucket then last.edit.apply (applyAll transforms bucket fields)
      else applyAll transforms bucket fields := by
  rw [applyAll, List.foldl_concat]
  rfl

theorem nodup_applyAll (transforms : List Transform) (bucket : String)
    (distinct : fields.names.Nodup) : (applyAll transforms bucket fields).names.Nodup := by
  induction transforms generalizing fields with
  | nil => exact distinct
  | cons transform rest induction =>
      rw [applyAll, List.foldl_cons]
      apply induction
      split
      · exact transform.edit.nodup_apply distinct
      · exact distinct

theorem get?_applyAll_of_some (orderly : Orderly transforms) (distinct : fields.names.Nodup)
    {name : String} {value : Json} (stood : Fields.get? name fields = some value) :
    Fields.get? name (applyAll transforms bucket fields) = some value ∨
      (Fields.get? name (applyAll transforms bucket fields) = none ∧
        ∃ transform ∈ transforms, transform.bucket = bucket ∧
          transform.edit.removed? = some name) := by
  induction transforms using List.reverseRecOn with
  | nil => exact .inl stood
  | append_singleton front last induction =>
      have isLast : last ∈ front ++ [last] := List.mem_append_right front List.mem_cons_self
      have earlier := induction (orderly.of_subset (List.subset_append_left front [last]))
      rw [applyAll_concat]
      by_cases here : last.bucket = bucket
      · rw [if_pos here, FieldEdit.get?_apply (orderly.apart last isLast last isLast rfl)
          (nodup_applyAll front bucket distinct)]
        by_cases taken : last.edit.removed? = some name
        · rw [if_pos taken]
          exact .inr ⟨rfl, last, isLast, here, taken⟩
        · rw [if_neg taken]
          rcases earlier with kept | ⟨gone, one, member, same, removed⟩
          · exact .inl (by rw [kept, Option.some_or])
          · have first : one ∈ front ++ [last] := List.mem_append_left [last] member
            have apart := orderly.apart one first last isLast (same.trans here.symm)
            have notAdded : last.edit.addition (applyAll front bucket fields) name = none :=
              FieldEdit.addition_eq_none (apart.not_added removed)
            exact .inr ⟨by rw [gone, notAdded, Option.none_or], one, first, same, removed⟩
      · rw [if_neg here]
        refine earlier.imp_right ?_
        rintro ⟨gone, one, member, found⟩
        exact ⟨gone, one, List.mem_append_left [last] member, found⟩

theorem added_of_get?_applyAll (orderly : Orderly transforms) (distinct : fields.names.Nodup)
    {name : String} {value : Json} (missing : Fields.get? name fields = none)
    (stands : Fields.get? name (applyAll transforms bucket fields) = some value) :
    ∃ transform ∈ transforms, transform.bucket = bucket ∧
      (transform.edit = .backfill name value ∨
        (transform.edit.default? = none ∧ transform.edit.added? = some name)) := by
  -- From the right: the last transform is applied to what the others have made.
  induction transforms using List.reverseRecOn with
  | nil => cases missing.symm.trans stands
  | append_singleton front last induction =>
      have isLast : last ∈ front ++ [last] := List.mem_append_right front List.mem_cons_self
      have ofFront : Fields.get? name (applyAll front bucket fields) = some value →
          ∃ transform ∈ front ++ [last], transform.bucket = bucket ∧
            (transform.edit = .backfill name value ∨
              (transform.edit.default? = none ∧ transform.edit.added? = some name)) := by
        intro earlier
        rcases induction (orderly.of_subset (List.subset_append_left front [last])) earlier with
          ⟨one, member, found⟩
        exact ⟨one, List.mem_append_left [last] member, found⟩
      rw [applyAll_concat] at stands
      by_cases here : last.bucket = bucket
      · rw [if_pos here, FieldEdit.get?_apply (orderly.apart last isLast last isLast rfl)
          (nodup_applyAll front bucket distinct)] at stands
        split at stands
        · cases stands
        · rcases Option.or_eq_some_iff.mp stands with earlier | ⟨_, adds⟩
          · exact ofFront earlier
          · refine ⟨last, isLast, here, ?_⟩
            have named := FieldEdit.added_of_addition adds
            cases edit : last.edit with
            | backfill field default =>
                rw [edit] at named adds
                cases named
                rw [FieldEdit.addition, if_pos rfl] at adds
                exact .inl (by rw [Option.some.inj adds])
            | rename source target =>
                rw [edit] at named
                exact .inr ⟨rfl, named⟩
            | drop field =>
                rw [edit] at named
                cases named
      · rw [if_neg here] at stands
        exact ofFront stands

end Transform

/-! ## Moving a field -/

def FieldEdit.MovesOnly (source target : String) : FieldEdit → Prop
  | backfill field _ => field ≠ source ∧ field ≠ target
  | rename moved name => moved = source ∧ name = target
  | drop field => field ≠ source ∧ field ≠ target

instance (source target : String) : (edit : FieldEdit) → Decidable (edit.MovesOnly source target)
  | .backfill _ _ => inferInstanceAs (Decidable (_ ∧ _))
  | .rename _ _ => inferInstanceAs (Decidable (_ ∧ _))
  | .drop _ => inferInstanceAs (Decidable (_ ∧ _))

/-- What stood under the first name stands there still, or under the second, unless
something stood there before. -/
def Fields.Moved (source target : String) (before after : Fields) : Prop :=
  (get? source after = get? source before ∧ get? target after = get? target before) ∨
    (get? source after = none ∧ get? target after = (get? target before).or (get? source before))

theorem Fields.Moved.apply {source target : String} {before after : Fields} {edit : FieldEdit}
    (moved : Moved source target before after) (moves : edit.MovesOnly source target)
    (different : source ≠ target) (proper : edit.Apart edit) (distinct : after.names.Nodup) :
    Moved source target before (edit.apply after) := by
  rw [Moved] at moved
  rw [Moved, FieldEdit.get?_apply proper distinct, FieldEdit.get?_apply proper distinct]
  cases edit with
  | backfill field default =>
      simpa [FieldEdit.removed?, FieldEdit.addition, Ne.symm moves.1, Ne.symm moves.2] using moved
  | rename moving name =>
      rcases moves with ⟨rfl, rfl⟩
      refine .inr ⟨if_pos rfl, ?_⟩
      have stays : FieldEdit.removed? (.rename moving name) ≠ some name :=
        fun same => different (Option.some.inj same)
      rw [if_neg stays, FieldEdit.addition, if_pos rfl]
      rcases moved with ⟨sourceKept, targetKept⟩ | ⟨sourceGone, targetGiven⟩
      · rw [sourceKept, targetKept]
      · rw [sourceGone, targetGiven, Option.or_none]
  | drop field =>
      simpa [FieldEdit.removed?, FieldEdit.addition, moves.1, moves.2] using moved

theorem Transform.moved_applyAll {transforms : List Transform} {bucket source target : String}
    {fields : Fields} (orderly : Orderly transforms) (distinct : fields.names.Nodup)
    (different : source ≠ target)
    (moves : ∀ transform ∈ transforms, transform.bucket = bucket →
      transform.edit.MovesOnly source target) :
    Fields.Moved source target fields (applyAll transforms bucket fields) := by
  induction transforms using List.reverseRecOn with
  | nil => exact .inl ⟨rfl, rfl⟩
  | append_singleton front last induction =>
      have isLast : last ∈ front ++ [last] := List.mem_append_right front List.mem_cons_self
      have earlier := induction (orderly.of_subset (List.subset_append_left front [last]))
        fun one member => moves one (List.mem_append_left [last] member)
      rw [applyAll_concat]
      split
      · next here =>
          exact earlier.apply (moves last isLast here) different
            (orderly.apart last isLast last isLast rfl) (nodup_applyAll front bucket distinct)
      · exact earlier

theorem Storage.decode_edited {storage : Storage (Buckets α) α} {capacity : Json.Capacity}
    (faithful : storage.Faithful capacity) {transforms : List Transform}
    (fit : Transform.Fit capacity transforms) {bucket : String} {stored : α} {fields : Fields}
    (held : capacity.Held (.object fields)) (decoded : storage.decode stored = .ok (.object fields)) :
    storage.decode (storage.edited transforms bucket stored) =
      .ok (.object (Transform.applyAll transforms bucket fields)) := by
  induction transforms generalizing stored fields with
  | nil => exact decoded
  | cons transform rest induction =>
      have fits := fit transform List.mem_cons_self
      have others := fit.of_subset (List.subset_cons_self transform rest)
      rw [edited_cons, Transform.applyAll, List.foldl_cons]
      split
      · exact induction others (held_apply fits held)
          (decode_editStored faithful fits held decoded)
      · exact induction others held decoded

theorem Storage.edited_of_not_object {storage : Storage (Buckets α) α} {stored : α}
    (plain : ∀ fields, storage.decode stored ≠ .ok (.object fields)) (transforms : List Transform)
    (bucket : String) : storage.edited transforms bucket stored = stored :=
  edited_of_settled fun _ _ _ => editStored?_of_not_object plain

theorem Storage.edited_of_unnamed (storage : Storage (Buckets α) α) {transforms : List Transform}
    {bucket : String} (unnamed : ∀ transform ∈ transforms, transform.bucket ≠ bucket) (stored : α) :
    storage.edited transforms bucket stored = stored :=
  edited_of_settled fun transform member here => absurd here (unnamed transform member)

/-! ## The releases -/

/-- Every object of the bucket reads back, and the store has room for its value. -/
def Storage.Sound (storage : Storage (Buckets α) α) (capacity : Json.Capacity)
    (buckets : Buckets α) (bucket : String) : Prop :=
  ∀ key stored, buckets.read bucket key = some stored →
    ∃ value, storage.decode stored = .ok value ∧ capacity.Held value

theorem Storage.Sound.holdsIn {storage : Storage (Buckets α) α} {capacity : Json.Capacity}
    {buckets : Buckets α} {bucket : String} (sound : storage.Sound capacity buckets bucket) :
    storage.HoldsIn capacity buckets bucket := by
  intro key stored found fields decoded
  rcases sound key stored found with ⟨value, same, held⟩
  cases same.symm.trans decoded
  exact held

theorem Storage.Sound.readable {storage : Storage (Buckets α) α} {capacity : Json.Capacity}
    {buckets : Buckets α} {bucket : String} (sound : storage.Sound capacity buckets bucket)
    (faithful : storage.Faithful capacity) (key : String) :
    storage.Readable buckets bucket key := by
  rw [readable_iff faithful]
  intro stored found
  rcases sound key stored found with ⟨value, decoded, _⟩
  exact ⟨value, decoded⟩

theorem Memory.sound_empty (bucket : String) :
    Memory.storage.Sound .unlimited Buckets.empty bucket :=
  fun _ _ => nofun

theorem Memory.sound_versioned (record : VersionRecord) {bucket : String}
    (elsewhere : bucket ≠ Bookkeeping.bucket) :
    Memory.storage.Sound .unlimited (Memory.versioned record) bucket := by
  intro key stored found
  rw [Memory.versioned, Buckets.read_write_of_ne _ _ (.inl elsewhere), Buckets.read_empty] at found
  cases found

theorem Memory.sound_write {buckets : Buckets Json} {bucket : String}
    (sound : Memory.storage.Sound .unlimited buckets bucket) (other key : String) {value : Json}
    (wellFormed : value.WellFormed) :
    Memory.storage.Sound .unlimited (buckets.write other key value) bucket := by
  intro label stored found
  by_cases here : bucket = other ∧ label = key
  · rcases here with ⟨rfl, rfl⟩
    rw [Buckets.read_write_same] at found
    cases found
    exact ⟨value, rfl, wellFormed⟩
  · rw [Buckets.read_write_of_ne _ _ (Classical.not_and_iff_not_or_not.mp here)] at found
    exact sound label stored found

namespace Releases

open Bookkeeping Registry

/-- The fields that the releases take away, each with its bucket. -/
def droppable : List (String × String) :=
  [("schedules", "EndpointSyncJob"), ("settings", "AllowPrivilegedModeForRegularUsers"),
    ("resource_control", "ResourceId")]

structure KeepsFields (bucket : String) (before after : Fields) : Prop where
  kept : ∀ name value, Fields.get? name before = some value →
    Fields.get? name after = some value ∨
      (Fields.get? name after = none ∧ (bucket, name) ∈ droppable)
  moved : ∀ value, bucket = "resource_control" → Fields.get? "ResourceId" before = some value →
    Fields.get? "ResourceId" after = none →
      Fields.get? "ResourceID" after = some ((Fields.get? "ResourceID" before).getD value)
  added : ∀ name value, Fields.get? name before = none → Fields.get? name after = some value →
    (∃ transform ∈ transforms, transform.bucket = bucket ∧
        transform.edit = .backfill name value) ∨
      (bucket = "resource_control" ∧ name = "ResourceID")

structure KeepsData (storage : Storage (Buckets α) α) (before after : Buckets α) : Prop where
  bookkeeping : ∀ key, key ≠ recordKey → key ≠ updatingKey →
    after.read bucket key = before.read bucket key
  keys : ∀ other key, other ≠ bucket →
    (after.read other key).isSome = (before.read other key).isSome
  values : ∀ other key value, other ≠ bucket → storage.read before other key = .ok (some value) →
    (∀ fields, value ≠ .object fields) → after.read other key = before.read other key
  unnamed : ∀ other key, other ≠ bucket → (∀ transform ∈ transforms, transform.bucket ≠ other) →
    after.read other key = before.read other key
  objects : ∀ other key fields, other ≠ bucket →
    storage.read before other key = .ok (some (.object fields)) →
      ∃ changed, storage.read after other key = .ok (some (.object changed)) ∧
        KeepsFields other fields changed

theorem removed_mem_droppable : ∀ transform ∈ transforms, ∀ name ∈ transform.edit.removed?,
    (transform.bucket, name) ∈ droppable := by
  decide

theorem moved_field : ∀ transform ∈ transforms, transform.edit.default? = none →
    ∀ name ∈ transform.edit.added?, transform.bucket = "resource_control" ∧ name = "ResourceID" := by
  decide

theorem movesOnly_resourceId : ∀ transform ∈ transforms, transform.bucket = "resource_control" →
    transform.edit.MovesOnly "ResourceId" "ResourceID" := by
  decide

theorem keepsFields_refl (bucket : String) (fields : Fields) :
    KeepsFields bucket fields fields where
  kept _ _ stood := .inl stood
  moved _ _ stood gone := nomatch stood.symm.trans gone
  added _ _ missing stands := nomatch missing.symm.trans stands

variable {due : List Transform}

theorem keepsFields_applyAll (among : due.Sublist transforms) (bucket : String) {fields : Fields}
    (distinct : fields.names.Nodup) :
    KeepsFields bucket fields (Transform.applyAll due bucket fields) := by
  have orderly : Transform.Orderly due := transforms_orderly.of_subset among.subset
  refine ⟨?_, ?_, ?_⟩
  · intro name value stood
    refine (Transform.get?_applyAll_of_some orderly distinct stood).imp_right ?_
    rintro ⟨gone, transform, member, rfl, removed⟩
    exact ⟨gone, removed_mem_droppable transform (among.subset member) name removed⟩
  · rintro value rfl stood gone
    have moves : ∀ transform ∈ due, transform.bucket = "resource_control" →
        transform.edit.MovesOnly "ResourceId" "ResourceID" :=
      fun transform member => movesOnly_resourceId transform (among.subset member)
    rcases Transform.moved_applyAll orderly distinct (by decide) moves with
      ⟨kept, _⟩ | ⟨_, given⟩
    · rw [kept, stood] at gone
      cases gone
    · rw [given, stood]
      cases Fields.get? "ResourceID" fields <;> rfl
  · intro name value missing stands
    rcases Transform.added_of_get?_applyAll orderly distinct missing stands with
      ⟨transform, member, rfl, brought | ⟨moving, named⟩⟩
    · exact .inl ⟨transform, among.subset member, rfl, brought⟩
    · exact .inr (moved_field transform (among.subset member) moving name named)

variable {storage : Storage (Buckets α) α} {capacity : Json.Capacity} {before reached : Buckets α}

theorem keepsData_of_edited (faithful : storage.Faithful capacity)
    (sound : ∀ transform ∈ transforms, storage.Sound capacity before transform.bucket)
    (among : due.Sublist transforms)
    (edited : storage.Edited due (begunBuckets storage before) reached) (record : VersionRecord) :
    KeepsData storage before (finishedBuckets storage record reached) := by
  have orderly : Transform.Orderly due := transforms_orderly.of_subset among.subset
  -- Away from the record and the flag, the store is what the edits make of the one before.
  have outside : ∀ other key, other ≠ bucket ∨ (key ≠ recordKey ∧ key ≠ updatingKey) →
      (finishedBuckets storage record reached).read other key =
        (before.read other key).map (storage.edited due other) := by
    intro other key elsewhere
    rw [read_finished_of_ne storage record reached elsewhere, edited.read,
      read_begun_of_ne storage before (elsewhere.imp_right And.right)]
  have unnamed : ∀ other key, (∀ transform ∈ transforms, transform.bucket ≠ other) →
      other ≠ bucket ∨ (key ≠ recordKey ∧ key ≠ updatingKey) →
        (finishedBuckets storage record reached).read other key = before.read other key := by
    intro other key others elsewhere
    have same : storage.edited due other = id := funext fun stored =>
      Storage.edited_of_unnamed storage (fun one member => others one (among.subset member)) stored
    rw [outside other key elsewhere, same, Option.map_id, id]
  refine ⟨?_, ?_, ?_, ?_, ?_⟩
  · intro key notRecord notFlag
    exact unnamed bucket key (fun _ member => bucket_ne_bookkeeping member)
      (.inr ⟨notRecord, notFlag⟩)
  · intro other key elsewhere
    rw [outside other key (.inl elsewhere), Option.isSome_map]
  · intro other key value elsewhere stands plain
    rw [outside other key (.inl elsewhere)]
    cases found : before.read other key with
    | none => rfl
    | some stored =>
        rw [faithful.read_eq, Objects.answer, found] at stands
        have notObject : ∀ fields, storage.decode stored ≠ .ok (.object fields) := by
          intro fields decoded
          simp only [decoded, Except.ok.injEq, Option.some.injEq] at stands
          exact plain fields stands.symm
        rw [Option.map_some, Storage.edited_of_not_object notObject]
  · intro other key elsewhere others
    exact unnamed other key others (.inl elsewhere)
  · intro other key fields elsewhere stands
    -- Only a bucket that a transform names has to be sound; the others are left as they are.
    by_cases named : ∃ transform ∈ transforms, transform.bucket = other
    · rcases named with ⟨transform, member, rfl⟩
      rw [faithful.read_eq, Objects.answer] at stands
      cases found : before.read transform.bucket key with
      | none =>
          rw [found] at stands
          cases stands
      | some stored =>
          rcases sound transform member key stored found with ⟨value, decoded, held⟩
          simp only [found, decoded, Except.ok.injEq, Option.some.injEq] at stands
          subst stands
          refine ⟨Transform.applyAll due transform.bucket fields, ?_, ?_⟩
          · rw [faithful.read_eq, Objects.answer, outside transform.bucket key (.inl elsewhere),
              found, Option.map_some]
            simp only [Storage.decode_edited faithful (orderly.fit capacity) held decoded]
          · exact keepsFields_applyAll among _ ((capacity.held_object_iff fields).mp held).1
    · have others : ∀ transform ∈ transforms, transform.bucket ≠ other :=
        fun transform member same => named ⟨transform, member, same⟩
      refine ⟨fields, ?_, keepsFields_refl other fields⟩
      rw [faithful.read_eq, Objects.answer, unnamed other key others (.inl elsewhere), ← stands,
        faithful.read_eq, Objects.answer]

theorem run_of_sound (faithful : storage.Faithful capacity) {target : String}
    {version stored : Version} {record : VersionRecord} (valid : Version.read target = .ok version)
    (readable : storage.record before = .ok record) (parsed : record.parsedVersion = .ok stored)
    (supported : ¬ stored < minimumSupportedVersion)
    (sound : ∀ transform ∈ transforms, storage.Sound capacity before transform.bucket) :
    ∃ (report : Report) (due : List Transform) (reached : Buckets α), due.Sublist transforms ∧
      storage.Edited due (begunBuckets storage before) reached ∧
      (registry.run target).run storage.backend before =
        (.ok report, finishedBuckets storage
          (stamp record (Plan.make registry stored record version)) reached) := by
  rcases due_of_supported supported record.replayCount with ⟨due, among, due_eq⟩
  have transforming : Transforming registry (Plan.make registry stored record version) due :=
    transforming_of_sublist among due_eq
  have holds : ∀ transform ∈ due, storage.HoldsIn capacity before transform.bucket :=
    fun transform member => (sound transform (among.subset member)).holdsIn
  have legible : ∀ transform ∈ due, ∀ key, storage.Readable before transform.bucket key :=
    fun transform member => (sound transform (among.subset member)).readable faithful
  rcases runs_of_readable faithful valid readable parsed transforming holds legible with
    ⟨reached, edited, ran⟩
  exact ⟨_, due, reached, among, edited, ran⟩

/-- From every store that is not too old the releases succeed, and they lose no data. -/
theorem keepsData (faithful : storage.Faithful capacity) {target : String}
    {version stored : Version} {record : VersionRecord} (valid : Version.read target = .ok version)
    (readable : storage.record before = .ok record) (parsed : record.parsedVersion = .ok stored)
    (supported : ¬ stored < minimumSupportedVersion)
    (sound : ∀ transform ∈ transforms, storage.Sound capacity before transform.bucket) :
    ∃ report after, (registry.run target).run storage.backend before = (.ok report, after) ∧
      KeepsData storage before after := by
  rcases run_of_sound faithful valid readable parsed supported sound with
    ⟨report, due, reached, among, edited, ran⟩
  exact ⟨report, _, ran, keepsData_of_edited faithful sound among edited _⟩

/-- An access rule whose resource is named by the old field alone, in a store at the first
supported release. -/
theorem keepsData_oldResource :
    let record : VersionRecord := ⟨"1.21.0", 3, ⟨1⟩, "01J0000000000000000000000A"⟩
    let before := (Memory.versioned record).write "resource_control" "1"
      (.object [("ResourceId", .string "container-1"), ("Type", .integer 1)])
    Version.read "2.16.0" = .ok (.release 2 16 0) ∧ Memory.storage.record before = .ok record ∧
      record.parsedVersion = .ok (.release 1 21 0) ∧
      (∀ transform ∈ transforms, Memory.storage.Sound .unlimited before transform.bucket) ∧
      ∃ report after, (registry.run "2.16.0").run Memory.backend before = (.ok report, after) ∧
        KeepsData Memory.storage before after := by
  intro record before
  have valid : Version.read "2.16.0" = .ok (.release 2 16 0) := rfl
  have parsed : Version.read "1.21.0" = .ok (.release 1 21 0) := rfl
  have readable : Memory.storage.record before = .ok record := Storage.record_of_encoded rfl
  have wellFormed : Json.WellFormed
      (.object [("ResourceId", .string "container-1"), ("Type", .integer 1)]) := by
    simp [Json.WellFormed, Json.WellFormedFields, Json.integer, Json.JsonNumberFits]
  have sound : ∀ transform ∈ transforms,
      Memory.storage.Sound .unlimited before transform.bucket := fun transform member =>
    Memory.sound_write (Memory.sound_versioned record (bucket_ne_bookkeeping member))
      "resource_control" "1" wellFormed
  exact ⟨valid, readable, parsed, sound,
    keepsData Memory.faithful valid readable parsed (by decide) sound⟩

end Releases

end StoreMigration
