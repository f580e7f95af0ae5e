import StoreMigration.Proofs.Migration.FailFast
import StoreMigration.Proofs.Migration.Settling

/-! Transforms that are interrupted. A transform stops at the first call that fails; the
objects before that call's key are as the whole transform leaves them and all others are as
they were. What it left half-way the same transform completes, and ends where it ends from
the start (`Transform.resumes`). -/

namespace StoreMigration

/-! ## Where an edit stops -/

section Runs

variable {storage : Storage (Buckets α) α} {capacity : Json.Capacity} {backend : Backend σ}
  {content : σ → Buckets α} {fallible : Prop} {edit : FieldEdit} {bucket : String}
  {state after : σ} {made : List (Exchange σ)} {error : StoreError}

theorem stopped_keys_of_runs (faithful : storage.Faithful capacity)
    (relays : ∀ request state, backend.Relays storage.backend content fallible request state)
    (fits : edit.Fits capacity) {keys : List String}
    (holds : storage.HoldsIn capacity (content state) bucket)
    (runs : (edit.editKeys bucket keys).Runs backend state (.error error) made after) :
    ∃ done key rest earlier failing, keys = done ++ key :: rest ∧ made = earlier ++ [failing] ∧
      failing.response = .error error ∧ failing.request.key? = some key ∧
      content after = storage.editObjects edit bucket done (content state) := by
  induction keys generalizing state made with
  | nil => cases (runs.unique (.pure () state)).1
  | cons key rest induction =>
      rcases runs.bind_cases with ⟨failure, only, same⟩ | ⟨_, calls, middle, later, own, others, rfl⟩
      · cases same
        rcases edit.failsByCall_editKey bucket key state error made after only with
          ⟨earlier, failing, rfl, failed⟩
        have named := (only.keepsTo (edit.keepsTo_object bucket key)
          (List.mem_append_right earlier List.mem_cons_self)).2
        rcases edited_key_of_runs faithful relays fits holds only with
          ⟨_, _, untouched⟩ | ⟨impossible, _⟩
        · exact ⟨[], key, rest, earlier, failing, rfl, rfl, failed, named, untouched⟩
        · cases impossible
      · rcases edited_key_of_runs faithful relays fits holds own with
          ⟨⟨_, impossible⟩, _⟩ | ⟨_, _, changed⟩
        · cases impossible
        have holdsThen : storage.HoldsIn capacity (content middle) bucket := by
          rw [changed]
          exact Storage.holdsIn_editObject faithful fits key holds
        rcases induction holdsThen others with
          ⟨done, place, pending, earlier, failing, rfl, rfl, failed, named, left⟩
        refine ⟨key :: done, place, pending, calls ++ earlier, failing, rfl, ?_, failed, named, ?_⟩
        · exact (List.append_assoc calls earlier [failing]).symm
        · rw [left, changed]
          rfl

/-- What an edit of a bucket that failed had come to: with which call it failed, and which
keys it had done by then. -/
structure Stopped (storage : Storage (Buckets α) α) (edit : FieldEdit) (bucket : String)
    (before after : Buckets α) (failing : Request) (done pending : List String) : Prop where
  keys : before.keys bucket = done ++ pending
  early : failing.key? = none → done = []
  place : ∀ key, failing.key? = some key → pending.head? = some key
  left : after = before ∧ done = [] ∨
    after = storage.editObjects edit bucket done (before.ensure bucket)

theorem stopped_of_runs (faithful : storage.Faithful capacity)
    (relays : ∀ request state, backend.Relays storage.backend content fallible request state)
    (fits : edit.Fits capacity) (holds : storage.HoldsIn capacity (content state) bucket)
    (runs : (edit.editBucket bucket).Runs backend state (.error error) made after) :
    ∃ earlier failing done pending, made = earlier ++ [failing] ∧ failing.response = .error error ∧
      Stopped storage edit bucket (content state) (content after) failing.request done pending := by
  rcases opened_of_runs faithful relays runs with
    ⟨_, earlier, failing, same, _, split, failed, unnamed, left⟩ |
      ⟨opening, later, middle, rfl, _, place, others⟩
  · cases same
    have unplaced : ∀ key, failing.request.key? ≠ some key := by
      intro key named
      cases unnamed.symm.trans named
    exact ⟨earlier, failing, [], _, split, failed, rfl, fun _ => rfl,
      fun key named => absurd named (unplaced key), left.imp_left fun kept => ⟨kept, rfl⟩⟩
  · have holdsThen : storage.HoldsIn capacity (content middle) bucket := by
      rw [place]
      exact Storage.holdsIn_ensure_iff.mpr holds
    rcases stopped_keys_of_runs faithful relays fits holdsThen others with
      ⟨done, key, rest, earlier, failing, split, rfl, failed, named, reached⟩
    rw [place] at reached
    refine ⟨opening ++ earlier, failing, done, key :: rest,
      (List.append_assoc opening earlier [failing]).symm, failed, split, ?_, ?_, .inr reached⟩
    · intro unnamed
      cases named.symm.trans unnamed
    · intro other same
      cases named.symm.trans same
      rfl

end Runs

/-! ## Resuming -/

namespace Transform

variable {storage : Storage (Buckets α) α} {capacity : Json.Capacity} {transform : Transform}
  {before completed reached after : Buckets α}

/-- What a transform that failed left: it stopped at the call that failed, the objects of
the keys before it are as the whole transform leaves them, and all others as they were. -/
structure Interrupted (transform : Transform) (before completed reached : Buckets α)
    (history : List (Exchange σ)) (error : StoreError) (earlier : List (Exchange σ))
    (failing : Exchange σ) (done pending : List String) : Prop where
  calls : history = earlier ++ [failing]
  granted : ∀ exchange ∈ earlier, exchange.succeeded = true
  failed : failing.response = .error error
  keys : before.keys transform.bucket = done ++ pending
  ascending : (done ++ pending).Pairwise (· < ·)
  early : failing.request.key? = none → done = []
  place : ∀ key, failing.request.key? = some key → pending.head? = some key
  made : ∀ key ∈ done, reached.read transform.bucket key = completed.read transform.bucket key
  unmade : ∀ key ∉ done, reached.read transform.bucket key = before.read transform.bucket key
  others : ∀ other, other ≠ transform.bucket → reached.get? other = before.get? other

theorem get?_editObjects_of_ne (storage : Storage (Buckets α) α) (transform : Transform)
    {keys : List String} (distinct : keys.Nodup) (buckets : Buckets α) {other : String}
    (elsewhere : other ≠ transform.bucket) :
    (storage.editObjects transform.edit transform.bucket keys
      (buckets.ensure transform.bucket)).get? other = buckets.get? other := by
  apply Buckets.get?_eq_of_read
  · rw [Storage.has_editObjects_iff, Buckets.has_ensure_iff, or_iff_right elsewhere]
  · funext key
    rw [Storage.read_editObjects storage _ _ distinct, Buckets.read_ensure,
      if_neg fun here => elsewhere here.1]

theorem interrupted_of_stopped {history earlier : List (Exchange σ)} {failing : Exchange σ}
    {error : StoreError} {done pending : List String}
    (straight : storage.Edited [transform] before completed)
    (stopped : Stopped storage transform.edit transform.bucket before reached failing.request done
      pending)
    (calls : history = earlier ++ [failing])
    (granted : ∀ exchange ∈ earlier, exchange.succeeded = true)
    (failed : failing.response = .error error) :
    Interrupted transform before completed reached history error earlier failing done pending := by
  have ascending : (done ++ pending).Pairwise (· < ·) := by
    rw [← stopped.keys]
    exact (before.keys_listed transform.bucket).1
  have distinct : done.Nodup := by
    have all := before.nodup_keys transform.bucket
    rw [stopped.keys] at all
    exact all.sublist (List.sublist_append_left done pending)
  refine ⟨calls, granted, failed, stopped.keys, ascending, stopped.early, stopped.place, ?_, ?_, ?_⟩
  · intro key member
    rcases stopped.left with ⟨_, rfl⟩ | rfl
    · cases member
    · rw [Storage.read_editObjects storage _ _ distinct, if_pos ⟨rfl, member⟩, Buckets.read_ensure,
        straight.read, Storage.edited_singleton]
  · intro key undone
    rcases stopped.left with ⟨rfl, _⟩ | rfl
    · rfl
    · rw [Storage.read_editObjects storage _ _ distinct, if_neg fun here => undone here.2,
        Buckets.read_ensure]
  · intro other elsewhere
    rcases stopped.left with ⟨rfl, _⟩ | rfl
    · rfl
    · exact get?_editObjects_of_ne storage transform distinct before elsewhere

/-- However its calls fail, a transform that fails can be resumed: it has done the objects
before the call that failed and no others, and running it again, undisturbed, ends where an
undisturbed run ends. -/
theorem resumes (faithful : storage.Faithful capacity) (fits : transform.edit.Fits capacity)
    (holds : storage.HoldsIn capacity before transform.bucket)
    (readable : ∀ key, storage.Readable before transform.bucket key) {disturbance : Disturbance φ}
    {pattern rest : φ} {error : StepError}
    (failed : transform.step.body.run (storage.backend.disturbed disturbance) (pattern, before) =
      (.error error, (rest, reached))) :
    ∃ completed cause earlier failing done pending, error = .store cause ∧
      transform.step.body.run storage.backend before = (.ok (), completed) ∧
      Interrupted transform before completed reached (transform.step.body.history
        (storage.backend.disturbed disturbance) (pattern, before)) cause earlier failing done pending ∧
      transform.step.body.run storage.backend reached = (.ok (), completed) := by
  have relays := storage.backend.relays_disturbed disturbance
  have fit : Fit capacity [transform] := List.forall_mem_singleton.mpr fits
  have runs : transform.step.body.Runs (storage.backend.disturbed disturbance) (pattern, before)
      (.error error) _ (rest, reached) := ⟨failed, rfl⟩
  have partly : storage.PartlyEdited [transform] before reached :=
    (takesThrough_step faithful relays fits holds runs).partly
  rcases run_of_readable faithful fits holds readable with ⟨completed, straight, ran⟩
  have holdsThen := Storage.holdsIn_of_read faithful fit (partly.read transform.bucket) holds
  have readableThen : ∀ key, storage.Readable reached transform.bucket key := fun key =>
    (Storage.readable_of_read_iff faithful fit (partly.read transform.bucket) holds key).mpr
      (readable key)
  rcases run_of_readable faithful fits holdsThen readableThen with ⟨after, onward, reran⟩
  -- The run that goes on and the one that was never stopped leave one store.
  rw [completed_eq faithful fits holds partly straight onward] at reran
  rcases runs.error_of_withError with ⟨cause, edits, rfl⟩
  rcases stopped_of_runs faithful relays fits holds edits with
    ⟨earlier, failing, done, pending, calls, refused, stopped⟩
  have passesOn : (transform.edit.editBucket transform.bucket).PassesOn
      (storage.backend.disturbed disturbance) fun _ => False :=
    transform.edit.passesOn_editBucket transform.bucket
  have granted : ∀ exchange ∈ earlier, exchange.succeeded = true := by
    rw [calls] at edits
    exact passesOn.succeeded edits
  exact ⟨completed, cause, earlier, failing, done, pending, rfl, ran,
    interrupted_of_stopped straight stopped calls granted refused, reran⟩

/-- The sixth call fails, which writes the second of two users once it was looked at. -/
theorem resumes_twoUsers :
    let transform := backfill "add_theme" "users" "Theme" .null
    let before := (Buckets.empty.write "users" "1" (.object [])).write "users" "2" (.object [])
    let disturbance := failingAt fun number =>
      if number = 5 then some (.backend (.reported "disk full")) else none
    transform.edit.Fits .unlimited ∧ Memory.storage.HoldsIn .unlimited before "users" ∧
      (∀ key, Memory.storage.Readable before "users" key) ∧
      ∃ reached completed,
        transform.step.body.run (Memory.backend.disturbed disturbance) (0, before) =
          (.error (.store (.backend (.reported "disk full"))), (6, reached)) ∧
        reached.read "users" "1" = some (.object [("Theme", .null)]) ∧
        reached.read "users" "2" = some (.object []) ∧
        transform.step.body.run Memory.backend before = (.ok (), completed) ∧
        transform.step.body.run Memory.backend reached = (.ok (), completed) := by
  intro transform before disturbance
  have wellFormed : Json.WellFormed (.object []) := by
    simp [Json.WellFormed, Json.WellFormedFields]
  have sound : Memory.storage.Sound .unlimited before "users" :=
    Memory.sound_write (Memory.sound_write (Memory.sound_empty "users") "users" "1" wellFormed)
      "users" "2" wellFormed
  have fits : transform.edit.Fits .unlimited := by
    rintro value ⟨⟩
    trivial
  have holds := sound.holdsIn
  have readable := sound.readable Memory.faithful
  have failed : transform.step.body.run (Memory.backend.disturbed disturbance) (0, before) =
      (.error (.store (.backend (.reported "disk full"))), (6, _)) := rfl
  rcases resumes Memory.faithful fits holds readable failed with
    ⟨completed, _, _, _, _, _, _, ran, _, reran⟩
  exact ⟨fits, holds, readable, _, completed, failed, rfl, rfl, ran, reran⟩

end Transform

end StoreMigration
