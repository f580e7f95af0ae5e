import StoreMigration.Proofs.Migration.Settling
import StoreMigration.Proofs.Migration.EditRuns

/-! Which objects a transform writes. An edit says of each object whether it concerns it and
what it makes of it, and a transform writes, in the order of their keys, the objects that its
edit concerns and no others (`Transform.writes_changes`). After that its edit concerns none. -/

namespace StoreMigration

/-! ## What an edit changes -/

namespace FieldEdit

def Concerns : FieldEdit → Fields → Prop
  | backfill field _, fields => Fields.get? field fields = none
  | rename source _, fields => Fields.get? source fields ≠ none
  | drop field, fields => Fields.get? field fields ≠ none

def Changes : FieldEdit → Fields → Fields → Prop
  | backfill field default, before, after => after = before ++ [(field, default)]
  | rename source target, before, after =>
      Fields.get? source after = none ∧
        Fields.get? target after = (Fields.get? target before).or (Fields.get? source before) ∧
        ∀ other, other ≠ source → other ≠ target → Fields.get? other after = Fields.get? other before
  | drop field, before, after => Fields.get? field after = none ∧
      ∀ other, other ≠ field → Fields.get? other after = Fields.get? other before

variable {edit : FieldEdit} {fields changed : Fields} {bucket key : String}

theorem change?_eq_none_iff_not_concerns : edit.change? fields = none ↔ ¬ edit.Concerns fields := by
  rw [change?_eq_none_iff]
  cases edit with
  | backfill field default => simp [removed?, added?, Concerns]
  | rename source target => simp [removed?, Concerns]
  | drop field => simp [removed?, Concerns]

theorem change?_of_concerns (concerns : edit.Concerns fields) :
    edit.change? fields = some (edit.apply fields) := by
  rw [apply]
  cases change : edit.change? fields with
  | none => exact absurd concerns (change?_eq_none_iff_not_concerns.mp change)
  | some changed => rfl

theorem changes_apply (proper : edit.Apart edit) (distinct : fields.names.Nodup)
    (concerns : edit.Concerns fields) : edit.Changes fields (edit.apply fields) := by
  have looked := get?_apply proper distinct
  cases edit with
  | backfill field default =>
      rw [apply_backfill]
      exact Fields.putIfAbsent_of_absent default concerns
  | rename source target =>
      have different : source ≠ target := by
        rintro rfl
        exact proper.not_added rfl rfl
      refine ⟨?_, ?_, ?_⟩
      · simp [looked, removed?]
      · simp [looked, removed?, addition, different]
      · intro other notSource notTarget
        simp [looked, removed?, addition, Ne.symm notSource, notTarget]
  | drop field =>
      refine ⟨?_, ?_⟩
      · simp [looked, removed?]
      · intro other different
        simp [looked, removed?, addition, Ne.symm different]

def update? (edit : FieldEdit) (bucket key : String) :
    Except StoreError (Option Json) → Option (String × String × Json)
  | .ok (some (.object fields)) =>
      (edit.change? fields).map fun changed => (bucket, key, .object changed)
  | _ => none

theorem update?_eq_some_iff {answer : Except StoreError (Option Json)}
    {written : String × String × Json} : edit.update? bucket key answer = some written ↔
      ∃ fields, answer = .ok (some (.object fields)) ∧ edit.Concerns fields ∧
        written = (bucket, key, .object (edit.apply fields)) := by
  constructor
  · intro writes
    unfold update? at writes
    split at writes
    · next fields =>
        rcases Option.map_eq_some_iff.mp writes with ⟨changed, change, rfl⟩
        have concerns : edit.Concerns fields := by
          by_contra unconcerned
          cases change.symm.trans (change?_eq_none_iff_not_concerns.mpr unconcerned)
        cases change.symm.trans (change?_of_concerns concerns)
        exact ⟨fields, rfl, concerns, rfl⟩
    · cases writes
  · rintro ⟨fields, rfl, concerns, rfl⟩
    rw [update?, change?_of_concerns concerns]
    rfl

end FieldEdit

/-! ## What is written -/

def Request.update? : Request → Option (String × String × Json)
  | update bucket key value => some (bucket, key, value)
  | _ => none

def Exchange.updates (history : List (Exchange σ)) : List (String × String × Json) :=
  history.filterMap fun exchange => exchange.request.update?

theorem Exchange.updates_eq_nil {history : List (Exchange σ)}
    (unnamed : ∀ exchange ∈ history, exchange.request.key? = none) : updates history = [] := by
  rw [updates, List.filterMap_eq_nil_iff]
  intro exchange member
  have nameless := unnamed exchange member
  cases request : exchange.request with
  | update bucket key value =>
      rw [request] at nameless
      cases nameless
  | ensureBucket bucket => rfl
  | get bucket key => rfl
  | delete bucket key => rfl
  | listKeys bucket => rfl

section Runs

variable {storage : Storage (Buckets α) α} {capacity : Json.Capacity} {edit : FieldEdit}
  {bucket : String} {buckets after : Buckets α}

theorem updates_editKey {backend : Backend σ} {state reached : σ} {key : String}
    {outcome : Except StoreError Unit} {made : List (Exchange σ)}
    (runs : (edit.editKey bucket key).Runs backend state outcome made reached) :
    Exchange.updates made = (edit.update? bucket key (backend (.get bucket key) state).1).toList := by
  have asked : (Action.get bucket key).Runs backend state (backend (.get bucket key) state).1
      [backend.exchange (.get bucket key) state] (backend (.get bucket key) state).2 :=
    Action.Runs.request (.get bucket key) state
  cases answered : (backend (.get bucket key) state).1 with
  | error error =>
      rw [answered] at asked
      rcases runs.of_bind_error asked with ⟨_, rfl, _⟩
      rfl
  | ok found =>
      rw [answered] at asked
      rcases runs.of_bind_ok asked with ⟨later, rfl, onceAsked⟩
      rcases finishes_of_found onceAsked with
        ⟨_, rfl, _, unchanged⟩ | ⟨fields, changed, rfl, change, writes⟩
      · have nothing : edit.update? bucket key (.ok found) = none := by
          rw [Option.eq_none_iff_forall_ne_some]
          intro written some
          rcases FieldEdit.update?_eq_some_iff.mp some with ⟨fields, same, concerns, _⟩
          cases same
          exact FieldEdit.change?_eq_none_iff_not_concerns.mp (unchanged fields rfl) concerns
        rw [nothing]
        rfl
      · rcases writes.unique (Action.Runs.request (.update bucket key (.object changed)) _) with
          ⟨_, rfl, _⟩
        rw [FieldEdit.update?, change]
        rfl

variable {made : List (Exchange (Buckets α))} (faithful : storage.Faithful capacity)

include faithful

theorem read_of_same {left right : Buckets α} {key : String}
    (same : left.read bucket key = right.read bucket key) :
    storage.read left bucket key = storage.read right bucket key := by
  rw [faithful.read_eq, faithful.read_eq, Objects.answer, Objects.answer, same]

/-- What the edits of some keys write hangs on what was stored before the first of them. -/
theorem updates_editKeys (fits : edit.Fits capacity) {keys : List String} (distinct : keys.Nodup)
    (holds : storage.HoldsIn capacity buckets bucket)
    (runs : (edit.editKeys bucket keys).Runs storage.backend buckets (.ok ()) made after) :
    Exchange.updates made = keys.filterMap fun key =>
      edit.update? bucket key (storage.read buckets bucket key) := by
  induction keys generalizing buckets made with
  | nil =>
      rcases runs.unique (.pure () _) with ⟨_, rfl, _⟩
      rfl
  | cons key rest induction =>
      rw [List.nodup_cons] at distinct
      rcases runs.bind_cases with ⟨_, _, impossible⟩ | ⟨_, calls, middle, later, own, others, rfl⟩
      · cases impossible
      rcases edited_key_of_runs faithful storage.backend.relays_self fits holds own with
        ⟨⟨_, impossible⟩, _⟩ | ⟨_, _, changed⟩
      · cases impossible
      have place : middle = storage.editObject edit bucket key buckets := changed
      subst place
      -- The keys are distinct: what the first edit writes is not what the others read.
      have sameOthers : ∀ other ∈ rest,
          edit.update? bucket other
              (storage.read (storage.editObject edit bucket key buckets) bucket other) =
            edit.update? bucket other (storage.read buckets bucket other) := by
        intro other member
        congr 1
        apply read_of_same faithful
        rw [Storage.read_editObject, if_neg]
        rintro ⟨_, rfl⟩
        exact distinct.1 member
      have written : Exchange.updates calls =
          (edit.update? bucket key (storage.read buckets bucket key)).toList := by
        rw [updates_editKey own, faithful.get_eq]
      have writtenLater := induction distinct.2 (Storage.holdsIn_editObject faithful fits key holds)
        others
      rw [List.filterMap_congr sameOthers] at writtenLater
      rw [Exchange.updates] at written writtenLater ⊢
      rw [List.filterMap_append, written, writtenLater, List.filterMap_cons]
      cases edit.update? bucket key (storage.read buckets bucket key) <;> rfl

theorem updates_editBucket (fits : edit.Fits capacity)
    (holds : storage.HoldsIn capacity buckets bucket)
    (runs : (edit.editBucket bucket).Runs storage.backend buckets (.ok ()) made after) :
    Exchange.updates made = (buckets.keys bucket).filterMap fun key =>
      edit.update? bucket key (storage.read buckets bucket key) := by
  rcases opened_of_runs faithful storage.backend.relays_self runs with
    ⟨_, _, _, impossible, _⟩ | ⟨opening, later, middle, rfl, unnamed, ensured, others⟩
  · cases impossible
  have place : middle = buckets.ensure bucket := ensured
  subst place
  have written := updates_editKeys faithful fits (buckets.nodup_keys bucket)
    (Storage.holdsIn_ensure_iff.mpr holds) others
  have sameRead : ∀ key ∈ buckets.keys bucket,
      edit.update? bucket key (storage.read (buckets.ensure bucket) bucket key) =
        edit.update? bucket key (storage.read buckets bucket key) := by
    intro key _
    rw [read_of_same faithful (Buckets.read_ensure buckets bucket bucket key)]
  rw [List.filterMap_congr sameRead] at written
  have quiet := Exchange.updates_eq_nil unnamed
  rw [Exchange.updates] at written quiet ⊢
  rw [List.filterMap_append, quiet, written, List.nil_append]

theorem mem_updates_iff (fits : edit.Fits capacity)
    (holds : storage.HoldsIn capacity buckets bucket)
    (runs : (edit.editBucket bucket).Runs storage.backend buckets (.ok ()) made after)
    {other key : String} {value : Json} :
    (other, key, value) ∈ Exchange.updates made ↔ other = bucket ∧
      ∃ fields, storage.read buckets bucket key = .ok (some (.object fields)) ∧
        edit.Concerns fields ∧ value = .object (edit.apply fields) := by
  rw [updates_editBucket faithful fits holds runs, List.mem_filterMap]
  constructor
  · rintro ⟨label, _, writes⟩
    rcases FieldEdit.update?_eq_some_iff.mp writes with ⟨fields, known, concerns, same⟩
    cases same
    exact ⟨rfl, fields, known, concerns, rfl⟩
  · rintro ⟨rfl, fields, known, concerns, rfl⟩
    refine ⟨key, ?_, FieldEdit.update?_eq_some_iff.mpr ⟨fields, known, concerns, rfl⟩⟩
    rcases Storage.stored_of_read faithful known with ⟨stored, stands, _⟩
    rw [(buckets.keys_listed other).2, stands]
    rfl

theorem ascending_updates (fits : edit.Fits capacity)
    (holds : storage.HoldsIn capacity buckets bucket)
    (runs : (edit.editBucket bucket).Runs storage.backend buckets (.ok ()) made after) :
    (Exchange.updates made).Pairwise fun one other => one.2.1 < other.2.1 := by
  rw [updates_editBucket faithful fits holds runs, List.pairwise_filterMap]
  apply (buckets.keys_listed bucket).1.imp
  intro key label less one first other second
  rcases FieldEdit.update?_eq_some_iff.mp first with ⟨_, _, _, rfl⟩
  rcases FieldEdit.update?_eq_some_iff.mp second with ⟨_, _, _, rfl⟩
  exact less

end Runs

/-! ## Transforms -/

namespace Transform

variable {storage : Storage (Buckets α) α} {capacity : Json.Capacity} {transform : Transform}
  {before after : Buckets α}

/-- The calls of a transform that write are those for the objects that its edit concerns, each
once and in the order of their keys, and nothing else is different afterwards. -/
structure WritesChanges (storage : Storage (Buckets α) α) (transform : Transform)
    (before : Buckets α) (history : List (Exchange (Buckets α))) (after : Buckets α) : Prop where
  ascending : (Exchange.updates history).Pairwise fun one other => one.2.1 < other.2.1
  mem_iff : ∀ bucket key value, (bucket, key, value) ∈ Exchange.updates history ↔
    bucket = transform.bucket ∧
      ∃ fields, storage.read before transform.bucket key = .ok (some (.object fields)) ∧
        transform.edit.Concerns fields ∧ value = .object (transform.edit.apply fields)
  changes : ∀ key fields, storage.read before transform.bucket key = .ok (some (.object fields)) →
    transform.edit.Concerns fields →
      transform.edit.Changes fields (transform.edit.apply fields) ∧
        storage.read after transform.bucket key =
          .ok (some (.object (transform.edit.apply fields)))
  kept : ∀ bucket key, (bucket = transform.bucket → ∀ fields,
    storage.read before transform.bucket key = .ok (some (.object fields)) →
      ¬ transform.edit.Concerns fields) → after.read bucket key = before.read bucket key
  present : ∀ bucket key, (after.read bucket key).isSome = (before.read bucket key).isSome
  others : ∀ bucket, bucket ≠ transform.bucket → after.get? bucket = before.get? bucket

variable (faithful : storage.Faithful capacity)

include faithful

theorem changes_of_edited (proper : transform.edit.Apart transform.edit)
    (fits : transform.edit.Fits capacity)
    (holds : storage.HoldsIn capacity before transform.bucket)
    (edited : storage.Edited [transform] before after) {key : String} {fields : Fields}
    (known : storage.read before transform.bucket key = .ok (some (.object fields)))
    (concerns : transform.edit.Concerns fields) :
    transform.edit.Changes fields (transform.edit.apply fields) ∧
      storage.read after transform.bucket key =
        .ok (some (.object (transform.edit.apply fields))) := by
  rcases Storage.stored_of_read faithful known with ⟨stored, stands, decoded⟩
  have held := holds key stored stands fields decoded
  have distinct : fields.names.Nodup := ((capacity.held_object_iff fields).mp held).1
  refine ⟨FieldEdit.changes_apply proper distinct concerns, ?_⟩
  rw [faithful.read_eq, Objects.answer, edited.read, Storage.edited_singleton, stands,
    Option.map_some]
  simp only [Storage.decode_editStored faithful fits held decoded]

theorem kept_of_edited (edited : storage.Edited [transform] before after) {bucket key : String}
    (unconcerned : bucket = transform.bucket → ∀ fields,
      storage.read before transform.bucket key = .ok (some (.object fields)) →
        ¬ transform.edit.Concerns fields) : after.read bucket key = before.read bucket key := by
  rw [edited.read]
  cases found : before.read bucket key with
  | none => rfl
  | some stored =>
      rw [Option.map_some]
      by_cases here : bucket = transform.bucket
      · subst here
        have settled : storage.editStored? transform.edit stored = none := by
          rw [Storage.editStored?_eq_none_iff]
          intro fields decoded
          rw [FieldEdit.change?_eq_none_iff_not_concerns]
          apply unconcerned rfl
          rw [faithful.read_eq, Objects.answer, found]
          simp only [decoded]
        rw [Storage.edited_singleton, Storage.editStored_of_unchanged settled]
      · rw [Storage.edited_singleton_of_ne storage here, id]

omit faithful in
theorem get?_of_edited (edited : storage.Edited [transform] before after) {bucket : String}
    (elsewhere : bucket ≠ transform.bucket) : after.get? bucket = before.get? bucket := by
  apply Buckets.get?_eq_of_read
  · rw [edited.has_iff, List.map_singleton, List.mem_singleton, or_iff_left elsewhere]
  · funext key
    rw [edited.read, Storage.edited_singleton_of_ne storage elsewhere, Option.map_id, id]

theorem not_concerns_of_edited (proper : transform.edit.Apart transform.edit)
    (fits : transform.edit.Fits capacity)
    (holds : storage.HoldsIn capacity before transform.bucket)
    (edited : storage.Edited [transform] before after) {key : String} {fields : Fields}
    (known : storage.read after transform.bucket key = .ok (some (.object fields))) :
    ¬ transform.edit.Concerns fields := by
  rcases Storage.stored_of_read faithful known with ⟨stored, stands, decoded⟩
  rw [edited.read, Storage.edited_singleton] at stands
  rcases Option.map_eq_some_iff.mp stands with ⟨old, was, rfl⟩
  have settled := Storage.editStored?_editStored_self faithful proper fits (holds key old was)
  rw [← FieldEdit.change?_eq_none_iff_not_concerns]
  exact Storage.editStored?_eq_none_iff.mp settled fields decoded

/-- A transform writes exactly the objects that its edit changes, and once it was run it
writes none. -/
theorem writes_changes (proper : transform.edit.Apart transform.edit)
    (fits : transform.edit.Fits capacity)
    (holds : storage.HoldsIn capacity before transform.bucket)
    (readable : ∀ key, storage.Readable before transform.bucket key) :
    ∃ made again after, transform.step.body.Runs storage.backend before (.ok ()) made after ∧
      WritesChanges storage transform before made after ∧
      transform.step.body.Runs storage.backend after (.ok ()) again after ∧
      Exchange.updates again = [] := by
  have fit : Fit capacity [transform] := List.forall_mem_singleton.mpr fits
  rcases run_of_readable faithful fits holds readable with ⟨after, edited, ran⟩
  have holdsThen := Storage.holdsIn_of_read faithful fit (edited.partly.read transform.bucket) holds
  have readableThen : ∀ key, storage.Readable after transform.bucket key := fun key =>
    (Storage.readable_of_read_iff faithful fit (edited.partly.read transform.bucket) holds key).mpr
      (readable key)
  rcases run_of_readable faithful fits holdsThen readableThen with ⟨final, onward, reran⟩
  rw [completed_eq faithful fits holds edited.partly edited onward] at reran
  have runs : transform.step.body.Runs storage.backend before (.ok ()) _ after := ⟨ran, rfl⟩
  have reruns : transform.step.body.Runs storage.backend after (.ok ()) _ after := ⟨reran, rfl⟩
  refine ⟨_, _, after, runs, ?_, reruns, ?_⟩
  · have own := runs.ok_of_withError
    exact ⟨ascending_updates faithful fits holds own,
      fun bucket key value => mem_updates_iff faithful fits holds own,
      fun key fields known concerns =>
        changes_of_edited faithful proper fits holds edited known concerns,
      fun bucket key unconcerned => kept_of_edited faithful edited unconcerned,
      fun bucket key => by rw [edited.read, Option.isSome_map],
      fun bucket elsewhere => get?_of_edited edited elsewhere⟩
  · rw [List.eq_nil_iff_forall_not_mem]
    rintro ⟨bucket, key, value⟩ writes
    rcases (mem_updates_iff faithful fits holdsThen reruns.ok_of_withError).mp writes with
      ⟨rfl, fields, known, concerns, _⟩
    exact not_concerns_of_edited faithful proper fits holds edited known concerns

omit faithful in
/-- A field is moved in the one of three users that has it; the second has its new name
already and the third is no object. -/
theorem writes_changes_oneUser :
    let transform := rename "move_role" "users" "OldRole" "Role"
    let before := ((Buckets.empty.write "users" "1"
      (.object [("OldRole", .integer 2), ("Name", .string "ann")])).write "users" "2"
        (.object [("Role", .integer 1)])).write "users" "3" (.string "bob")
    transform.edit.Apart transform.edit ∧ transform.edit.Fits .unlimited ∧
      Memory.storage.HoldsIn .unlimited before "users" ∧
      (∀ key, Memory.storage.Readable before "users" key) ∧
      ∃ made again after, transform.step.body.Runs Memory.backend before (.ok ()) made after ∧
        WritesChanges Memory.storage transform before made after ∧
        Exchange.updates made =
          [("users", "1", .object [("Name", .string "ann"), ("Role", .integer 2)])] ∧
        transform.step.body.Runs Memory.backend after (.ok ()) again after ∧
        Exchange.updates again = [] := by
  intro transform before
  have first : Json.WellFormed (.object [("OldRole", .integer 2), ("Name", .string "ann")]) := by
    simp [Json.WellFormed, Json.WellFormedFields, Json.integer, Json.JsonNumberFits]
  have second : Json.WellFormed (.object [("Role", .integer 1)]) := by
    simp [Json.WellFormed, Json.WellFormedFields, Json.integer, Json.JsonNumberFits]
  have sound : Memory.storage.Sound .unlimited before "users" :=
    Memory.sound_write (Memory.sound_write (Memory.sound_write (Memory.sound_empty "users") "users"
      "1" first) "users" "2" second) "users" "3" trivial
  have proper : transform.edit.Apart transform.edit := by decide
  have fits : transform.edit.Fits .unlimited := FieldEdit.fits_of_nothing rfl
  have holds := sound.holdsIn
  have readable := sound.readable Memory.faithful
  rcases writes_changes Memory.faithful proper fits holds readable with
    ⟨made, again, after, runs, writes, reruns, none⟩
  have written : Exchange.updates made =
      [("users", "1", .object [("Name", .string "ann"), ("Role", .integer 2)])] := by
    rw [← runs.history_eq]
    rfl
  exact ⟨proper, fits, holds, readable, made, again, after, runs, writes, written, reruns, none⟩

end Transform

end StoreMigration
