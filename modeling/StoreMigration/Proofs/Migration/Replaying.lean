import StoreMigration.Proofs.Migration.Settling
import StoreMigration.Proofs.Store.Tables

/-! Steps that are run a second time. Every step that edits the objects of a bucket or removes
a key can be run twice in a row (`Rework.run_twice`). A list of them is run again as a whole,
which is harmless where no step puts back what another takes away (`Rework.replays`), and a
run that replays a descriptor then changes nothing but the bookkeeping. -/

namespace StoreMigration

open Registry

/-- What a step does that is made from a description. -/
inductive Rework where
  | edit (transform : Transform)
  | deleteKey (name bucket key : String)

namespace Rework

def step : Rework → Step
  | edit transform => transform.step
  | deleteKey name bucket key => .deleteKey name bucket key

def bucket : Rework → String
  | edit transform => transform.bucket
  | deleteKey _ bucket _ => bucket

def transform? : Rework → Option Transform
  | edit transform => some transform
  | deleteKey _ _ _ => none

def Deletes (bucket key : String) : Rework → Prop
  | edit _ => False
  | deleteKey _ here label => here = bucket ∧ label = key

instance (bucket key : String) : (rework : Rework) → Decidable (rework.Deletes bucket key)
  | edit _ => inferInstanceAs (Decidable False)
  | deleteKey _ _ _ => inferInstanceAs (Decidable (_ ∧ _))

def transforms (reworks : List Rework) : List Transform :=
  reworks.filterMap transform?

theorem edit_mem_of_transforms {reworks : List Rework} {transform : Transform}
    (member : transform ∈ transforms reworks) : .edit transform ∈ reworks := by
  rcases List.mem_filterMap.mp member with ⟨rework, inReworks, found⟩
  cases rework with
  | edit own =>
      cases found
      exact inReworks
  | deleteKey name here label => cases found

/-- The store has room for what the step brings to the objects that it edits, and they read
back. -/
def Suits (storage : Storage (Buckets α) α) (capacity : Json.Capacity) (buckets : Buckets α) :
    Rework → Prop
  | edit transform => transform.edit.Fits capacity ∧
      storage.HoldsIn capacity buckets transform.bucket ∧
      ∀ key, storage.Readable buckets transform.bucket key
  | deleteKey _ _ _ => True

end Rework

/-! ## What is left -/

namespace Storage

section Contents

variable (storage : Storage (Buckets α) α)

def reworkedOnce (rework : Rework) (bucket key : String) (found : Option α) : Option α :=
  if rework.Deletes bucket key then none
  else found.map (storage.edited (Rework.transforms [rework]) bucket)

def reworked (reworks : List Rework) (bucket key : String) (found : Option α) : Option α :=
  reworks.foldl (fun found rework => storage.reworkedOnce rework bucket key found) found

/-- Every place went through some steps, and their buckets exist. -/
structure Reworked (reworks : List Rework) (before after : Buckets α) : Prop where
  read : ∀ bucket key,
    after.read bucket key = storage.reworked reworks bucket key (before.read bucket key)
  has_iff : ∀ bucket, after.Has bucket ↔ before.Has bucket ∨ bucket ∈ reworks.map Rework.bucket

end Contents

variable {storage : Storage (Buckets α) α} {capacity : Json.Capacity} {rework other : Rework}
  {reworks rest : List Rework} {before middle after final : Buckets α} {bucket key : String}

theorem reworked_cons (storage : Storage (Buckets α) α) (rework : Rework) (rest : List Rework)
    (bucket key : String) (found : Option α) :
    storage.reworked (rework :: rest) bucket key found =
      storage.reworked rest bucket key (storage.reworked [rework] bucket key found) := rfl

/-- What is removed stays away; the rest goes through the edits. -/
theorem reworked_eq (storage : Storage (Buckets α) α) (reworks : List Rework)
    (bucket key : String) (found : Option α) :
    storage.reworked reworks bucket key found =
      if ∃ rework ∈ reworks, rework.Deletes bucket key then none
      else found.map (storage.edited (Rework.transforms reworks) bucket) := by
  induction reworks generalizing found with
  | nil =>
      rw [if_neg (by simp)]
      exact (congrFun Option.map_id found).symm
  | cons rework rest induction =>
      have joined : Rework.transforms (rework :: rest) =
          Rework.transforms [rework] ++ Rework.transforms rest :=
        List.filterMap_append (l := [rework])
      rw [reworked_cons, induction, reworked, List.foldl_cons, List.foldl_nil, reworkedOnce, joined]
      by_cases now : rework.Deletes bucket key
      · simp [now]
      · by_cases later : ∃ other ∈ rest, other.Deletes bucket key
        · rw [if_pos later, if_pos (List.exists_mem_cons_of_exists later)]
        · rw [if_neg later, if_neg now, if_neg (by simpa [now] using later), Option.map_map]
          congr 1
          funext stored
          exact (storage.edited_append _ _ bucket stored).symm

theorem Reworked.refl (storage : Storage (Buckets α) α) (buckets : Buckets α) :
    storage.Reworked [] buckets buckets where
  read _ _ := rfl
  has_iff bucket := by simp

theorem Reworked.cons (first : storage.Reworked [rework] before middle)
    (others : storage.Reworked rest middle after) :
    storage.Reworked (rework :: rest) before after where
  read bucket key := by
    rw [others.read, first.read, ← reworked_cons]
  has_iff bucket := by
    rw [others.has_iff, first.has_iff, List.map_singleton, List.mem_singleton, List.map_cons,
      List.mem_cons, or_assoc]

theorem Reworked.unique (first : storage.Reworked reworks before after)
    (second : storage.Reworked reworks before final) : after = final := by
  apply Buckets.ext_read
  · intro bucket
    rw [first.has_iff, second.has_iff]
  · funext bucket key
    rw [first.read, second.read]

/-! ## What later steps meet -/

theorem Reworked.source (reached : storage.Reworked reworks before after) {stored : α}
    (found : after.read bucket key = some stored) :
    ∃ old, before.read bucket key = some old ∧
      stored = storage.edited (Rework.transforms reworks) bucket old := by
  rw [reached.read, reworked_eq] at found
  split at found
  · cases found
  · rcases Option.map_eq_some_iff.mp found with ⟨old, was, rfl⟩
    exact ⟨old, was, rfl⟩

theorem fit_of_suits (suits : ∀ rework ∈ reworks, rework.Suits storage capacity before) :
    Transform.Fit capacity (Rework.transforms reworks) :=
  fun transform member => (suits (.edit transform) (Rework.edit_mem_of_transforms member)).1

theorem holdsIn_of_suits (suits : ∀ rework ∈ reworks, rework.Suits storage capacity before)
    (named : ∃ one ∈ Rework.transforms reworks, one.bucket = bucket) :
    storage.HoldsIn capacity before bucket := by
  rcases named with ⟨transform, member, rfl⟩
  exact (suits (.edit transform) (Rework.edit_mem_of_transforms member)).2.1

variable (faithful : storage.Faithful capacity)

include faithful

theorem Reworked.suits (reached : storage.Reworked reworks before after)
    (fit : Transform.Fit capacity (Rework.transforms reworks))
    (suits : other.Suits storage capacity before) : other.Suits storage capacity after := by
  cases other with
  | deleteKey name here label => exact trivial
  | edit transform =>
      rcases suits with ⟨fits, holds, readable⟩
      refine ⟨fits, ?_, ?_⟩
      · intro key stored found
        rcases reached.source found with ⟨old, was, rfl⟩
        exact holdsStored_edited faithful fit (holds key old was)
      · intro key
        rw [readable_iff faithful]
        intro stored found
        rcases reached.source found with ⟨old, was, rfl⟩
        rw [decodes_edited_iff faithful fit (holds key old was)]
        exact (readable_iff faithful).mp (readable key) old was

theorem reworked_reworked (repeatable : Transform.Repeatable (Rework.transforms reworks))
    (suits : ∀ rework ∈ reworks, rework.Suits storage capacity before) :
    storage.reworked reworks bucket key
        (storage.reworked reworks bucket key (before.read bucket key)) =
      storage.reworked reworks bucket key (before.read bucket key) := by
  simp only [reworked_eq]
  split
  · rfl
  · cases found : before.read bucket key with
    | none => rfl
    | some stored =>
        rw [Option.map_some, Option.map_some, edited_twice faithful repeatable (fit_of_suits suits)]
        intro named
        exact holdsIn_of_suits suits named key stored found

theorem Reworked.again (repeatable : Transform.Repeatable (Rework.transforms reworks))
    (suits : ∀ rework ∈ reworks, rework.Suits storage capacity before)
    (once : storage.Reworked reworks before after) : storage.Reworked reworks after after where
  read bucket key := by
    rw [once.read]
    exact (reworked_reworked faithful repeatable suits).symm
  has_iff bucket := by
    rw [once.has_iff, or_assoc, or_self]

end Storage

/-! ## Running -/

namespace Rework

variable {storage : Storage (Buckets α) α} {capacity : Json.Capacity} {rework : Rework}
  {reworks : List Rework} {buckets : Buckets α}

theorem reworked_deleteKey (name bucket key : String) (buckets : Buckets α) :
    storage.Reworked [.deleteKey name bucket key] buckets
      ((buckets.ensure bucket).delete bucket key) where
  read other label := by
    rw [Storage.reworked_eq, Buckets.read_delete_eq, Buckets.read_ensure_eq, Objects.set]
    simp only [List.mem_singleton, exists_eq_left, Deletes, eq_comm]
    split
    · rfl
    · exact (congrFun Option.map_id (buckets.read other label)).symm
  has_iff other := by
    rw [Buckets.has_delete_iff, Buckets.has_ensure_iff, List.map_singleton, List.mem_singleton,
      or_comm]
    rfl

section Faithful

variable (faithful : storage.Faithful capacity)

include faithful

theorem run_deleteKey (name bucket key : String) (buckets : Buckets α) :
    (Step.deleteKey name bucket key).body.run storage.backend buckets =
      (.ok (), (buckets.ensure bucket).delete bucket key) := by
  have ensured : (Action.ensureBucket bucket).run storage.backend buckets =
      (.ok (), buckets.ensure bucket) := faithful.ensure_eq bucket buckets
  have deleted : (Action.delete bucket key).run storage.backend (buckets.ensure bucket) =
      (.ok (), (buckets.ensure bucket).delete bucket key) := faithful.delete_eq bucket key _
  have both := Action.run_bind_of_ok ensured fun _ => Action.delete bucket key
  rw [deleted] at both
  exact Action.run_withError both StepError.store

theorem run_of_suits (suits : rework.Suits storage capacity buckets) :
    ∃ after, storage.Reworked [rework] buckets after ∧
      rework.step.body.run storage.backend buckets = (.ok (), after) := by
  cases rework with
  | deleteKey name bucket key =>
      exact ⟨_, reworked_deleteKey name bucket key buckets,
        run_deleteKey faithful name bucket key buckets⟩
  | edit transform =>
      rcases suits with ⟨fits, holds, readable⟩
      rcases Transform.run_of_readable faithful fits holds readable with ⟨after, edited, ran⟩
      refine ⟨after, ⟨?_, edited.has_iff⟩, ran⟩
      intro bucket key
      rw [Storage.reworked_eq, if_neg (by simp [Deletes])]
      exact edited.read bucket key

theorem runSteps_of_suits (suits : ∀ rework ∈ reworks, rework.Suits storage capacity buckets) :
    ∃ after, storage.Reworked reworks buckets after ∧
      (runSteps (reworks.map step)).run storage.backend buckets =
        (.ok ((reworks.map step).map Step.name), after) := by
  induction reworks generalizing buckets with
  | nil => exact ⟨buckets, .refl storage buckets, rfl⟩
  | cons rework rest induction =>
      rcases run_of_suits faithful (suits rework List.mem_cons_self) with ⟨middle, first, ran⟩
      have fit : Transform.Fit capacity (transforms [rework]) :=
        Storage.fit_of_suits (List.forall_mem_singleton.mpr (suits rework List.mem_cons_self))
      have suitsThen : ∀ other ∈ rest, other.Suits storage capacity middle := fun other member =>
        first.suits faithful fit (suits other (List.mem_cons_of_mem rework member))
      rcases induction suitsThen with ⟨after, others, ranOthers⟩
      refine ⟨after, first.cons others, ?_⟩
      rw [List.map_cons, runSteps_cons, Action.run_bind_of_ok (Action.run_withError ran _),
        Action.run_bind_of_ok ranOthers]
      rfl

/-- Running a step twice in a row leaves exactly what running it once leaves. -/
theorem run_twice (suits : rework.Suits storage capacity buckets) :
    ∃ once, storage.Reworked [rework] buckets once ∧
      rework.step.body.run storage.backend buckets = (.ok (), once) ∧
      rework.step.body.run storage.backend once = (.ok (), once) := by
  have suitsAll : ∀ other ∈ [rework], other.Suits storage capacity buckets :=
    List.forall_mem_singleton.mpr suits
  have repeatable : Transform.Repeatable (transforms [rework]) := by
    intro one member
    left
    exact (List.length_filter_le _ _).trans (List.length_filterMap_le transform? [rework])
  rcases run_of_suits faithful suits with ⟨once, reached, ran⟩
  have suitsThen := reached.suits faithful (Storage.fit_of_suits suitsAll) suits
  rcases run_of_suits faithful suitsThen with ⟨twice, reachedAgain, ranAgain⟩
  have same : twice = once := reachedAgain.unique (reached.again faithful repeatable suitsAll)
  rw [same] at ranAgain
  exact ⟨once, reached, ran, ranAgain⟩

end Faithful

/-- A rename of a field to its own name, which moves the field to the end of the object. -/
theorem run_twice_ownName :
    let moving : Rework := .edit (.rename "keep_role" "users" "Role" "Role")
    let before := Buckets.empty.write "users" "1"
      (.object [("Role", .integer 2), ("Name", .string "ann"), ("Theme", .null)])
    moving.Suits Memory.storage .unlimited before ∧
      ∃ once, moving.step.body.run Memory.backend before = (.ok (), once) ∧
        once.read "users" "1" =
          some (.object [("Theme", .null), ("Name", .string "ann"), ("Role", .integer 2)]) ∧
        moving.step.body.run Memory.backend once = (.ok (), once) := by
  intro moving before
  have wellFormed : Json.WellFormed
      (.object [("Role", .integer 2), ("Name", .string "ann"), ("Theme", .null)]) := by
    simp [Json.WellFormed, Json.WellFormedFields, Json.integer, Json.JsonNumberFits]
  have sound : Memory.storage.Sound .unlimited before "users" :=
    Memory.sound_write (Memory.sound_empty "users") "users" "1" wellFormed
  have suits : moving.Suits Memory.storage .unlimited before :=
    ⟨FieldEdit.fits_of_nothing rfl, sound.holdsIn, sound.readable Memory.faithful⟩
  rcases run_twice Memory.faithful suits with ⟨once, reached, ran, ranAgain⟩
  exact ⟨suits, once, ran, reached.read "users" "1", ranAgain⟩

end Rework

/-! ## Replays -/

open Bookkeeping

structure Buckets.SameData (left right : Buckets α) : Prop where
  read : ∀ other key, other ≠ bucket ∨ (key ≠ recordKey ∧ key ≠ updatingKey) →
    left.read other key = right.read other key
  has_iff : ∀ other, other ≠ bucket → (left.Has other ↔ right.Has other)

theorem Buckets.SameData.symm {left right : Buckets α} (same : left.SameData right) :
    right.SameData left where
  read other key elsewhere := (same.read other key elsewhere).symm
  has_iff other elsewhere := (same.has_iff other elsewhere).symm

theorem Buckets.SameData.trans {left middle right : Buckets α} (first : left.SameData middle)
    (second : middle.SameData right) : left.SameData right where
  read other key elsewhere := (first.read other key elsewhere).trans (second.read other key elsewhere)
  has_iff other elsewhere := (first.has_iff other elsewhere).trans (second.has_iff other elsewhere)

namespace Registry

theorem sameData_begun (storage : Storage (Buckets α) α) (buckets : Buckets α) :
    (begunBuckets storage buckets).SameData buckets where
  read other key elsewhere := read_begun_of_ne storage buckets (elsewhere.imp_right And.right)
  has_iff other elsewhere := by
    rw [has_begun_iff, or_iff_right elsewhere]

theorem sameData_finished (storage : Storage (Buckets α) α) (record : VersionRecord)
    (reached : Buckets α) : (finishedBuckets storage record reached).SameData reached where
  read other key elsewhere := read_finished_of_ne storage record reached elsewhere
  has_iff other elsewhere := by
    rw [has_finished_iff, or_iff_right elsewhere]

end Registry

variable {storage : Storage (Buckets α) α} {capacity : Json.Capacity} {reworks : List Rework}
  {before after left right : Buckets α}

/-- What steps make of one place hangs on nothing but that place. -/
theorem Storage.Reworked.sameData {reached : Buckets α} (same : left.SameData right)
    (fromLeft : storage.Reworked reworks left reached)
    (fromRight : storage.Reworked reworks right after) : reached.SameData after where
  read other key elsewhere := by
    rw [fromLeft.read, fromRight.read, same.read other key elsewhere]
  has_iff other elsewhere := by
    rw [fromLeft.has_iff, fromRight.has_iff, same.has_iff other elsewhere]

theorem Rework.suits_begun (faithful : storage.Faithful capacity) {rework : Rework}
    (suits : rework.Suits storage capacity before) :
    rework.Suits storage capacity (begunBuckets storage before) := by
  have written : capacity.Held (.bool true) := capacity.held_of_modest (Json.modest_bool true)
  have cases : ∀ {other key stored}, (begunBuckets storage before).read other key = some stored →
      before.read other key = some stored ∨ stored = storage.encode (.bool true) := by
    intro other key stored found
    by_cases here : other = Bookkeeping.bucket ∧ key = updatingKey
    · rcases here with ⟨rfl, rfl⟩
      rw [begunBuckets, Buckets.read_write_same] at found
      exact .inr (Option.some.inj found).symm
    · rw [read_begun_of_ne storage before (Classical.not_and_iff_not_or_not.mp here)] at found
      exact .inl found
  cases rework with
  | deleteKey name here label => exact trivial
  | edit transform =>
      rcases suits with ⟨fits, holds, readable⟩
      refine ⟨fits, ?_, ?_⟩
      · intro key stored found fields decoded
        rcases cases found with was | rfl
        · exact holds key stored was fields decoded
        · rw [faithful.decode_held written] at decoded
          cases decoded
      · intro key
        rw [Storage.readable_iff faithful]
        intro stored found
        rcases cases found with was | rfl
        · exact (Storage.readable_iff faithful).mp (readable key) stored was
        · exact ⟨_, faithful.decode_held written⟩

namespace Rework

theorem run_of_pending (faithful : storage.Faithful capacity) {registry : Registry}
    {target : String} {version stored : Version} {record : VersionRecord}
    (valid : Version.read target = .ok version) (readable : storage.record before = .ok record)
    (parsed : record.parsedVersion = .ok stored)
    (pending : registry.pending (Plan.make registry stored record version) = reworks.map step)
    (suits : ∀ rework ∈ reworks, rework.Suits storage capacity before) :
    ∃ report reached final, (registry.run target).run storage.backend before = (.ok report, final) ∧
      storage.Reworked reworks before reached ∧ final.SameData reached := by
  have suitsBegun : ∀ rework ∈ reworks,
      rework.Suits storage capacity (begunBuckets storage before) :=
    fun rework member => suits_begun faithful (suits rework member)
  rcases runSteps_of_suits faithful suits with ⟨reached, straight, _⟩
  rcases runSteps_of_suits faithful suitsBegun with ⟨left, onward, ran⟩
  rw [← pending] at ran
  refine ⟨_, reached, _, run_of_steps faithful valid readable parsed ran, straight, ?_⟩
  have alike := onward.sameData (sameData_begun storage before) straight
  exact (sameData_finished storage _ left).trans alike

/-- Once some steps were run, running them again changes nothing, and a run of a migration
that runs them again succeeds and changes nothing but the bookkeeping. -/
structure ReplaysSafely (storage : Storage (Buckets α) α) (capacity : Json.Capacity)
    (reworks : List Rework) (once : Buckets α) : Prop where
  again : (runSteps (reworks.map step)).run storage.backend once =
    (.ok ((reworks.map step).map Step.name), once)
  replay : ∀ {registry : Registry} {target : String} {version stored : Version}
    {record : VersionRecord} {live : Buckets α}, Version.read target = .ok version →
    storage.record live = .ok record → record.parsedVersion = .ok stored →
    registry.pending (Plan.make registry stored record version) = reworks.map step →
    (∀ rework ∈ reworks, rework.Suits storage capacity live) → live.SameData once →
      ∃ report final, (registry.run target).run storage.backend live = (.ok report, final) ∧
        final.SameData live

/-- Where no step puts back what another takes away, running all of them again is harmless. -/
theorem replays (faithful : storage.Faithful capacity)
    (repeatable : Transform.Repeatable (transforms reworks))
    (suits : ∀ rework ∈ reworks, rework.Suits storage capacity before) :
    ∃ once, (runSteps (reworks.map step)).run storage.backend before =
        (.ok ((reworks.map step).map Step.name), once) ∧
      storage.Reworked reworks before once ∧ ReplaysSafely storage capacity reworks once := by
  rcases runSteps_of_suits faithful suits with ⟨once, reached, ran⟩
  have settled : storage.Reworked reworks once once := reached.again faithful repeatable suits
  have suitsThen : ∀ rework ∈ reworks, rework.Suits storage capacity once := fun rework member =>
    reached.suits faithful (Storage.fit_of_suits suits) (suits rework member)
  refine ⟨once, ran, reached, ?_, ?_⟩
  · rcases runSteps_of_suits faithful suitsThen with ⟨twice, reachedAgain, ranAgain⟩
    rw [reachedAgain.unique settled] at ranAgain
    exact ranAgain
  · intro registry target version stored record live valid readable parsed pending suitsLive same
    rcases run_of_pending faithful valid readable parsed pending suitsLive with
      ⟨report, left, final, ranLive, onward, data⟩
    exact ⟨report, final, ranLive, (data.trans (onward.sameData same settled)).trans same.symm⟩

/-- A release that moves a field, brings another and removes a key, on a store that it has
been run on already. -/
theorem replays_movedRole :
    let reworks : List Rework := [.edit (.rename "move_role" "users" "OldRole" "Role"),
      .edit (.backfill "add_theme" "users" "Theme" .null), .deleteKey "forget" "settings" "2"]
    let registry : Registry := ⟨[⟨.release 2 0 0, reworks.map step⟩]⟩
    let live := (Memory.versioned ⟨"2.0.0", 0, ⟨1⟩, "01J0000000000000000000000A"⟩).write "users" "1"
      (.object [("Name", .string "ann"), ("OldRole", .integer 2)])
    Transform.Repeatable (transforms reworks) ∧
      (∀ rework ∈ reworks, rework.Suits Memory.storage .unlimited live) ∧
      ∃ once report final, (runSteps (reworks.map step)).run Memory.backend live =
          (.ok ["move_role", "add_theme", "forget"], once) ∧
        once.read "users" "1" =
          some (.object [("Name", .string "ann"), ("Role", .integer 2), ("Theme", .null)]) ∧
        (runSteps (reworks.map step)).run Memory.backend once =
          (.ok ["move_role", "add_theme", "forget"], once) ∧
        (registry.run "2.0.0").run Memory.backend once = (.ok report, final) ∧
        final.SameData once := by
  intro reworks registry live
  have wellFormed : Json.WellFormed (.object [("Name", .string "ann"), ("OldRole", .integer 2)]) := by
    simp [Json.WellFormed, Json.WellFormedFields, Json.integer, Json.JsonNumberFits]
  have sound : Memory.storage.Sound .unlimited live "users" :=
    Memory.sound_write (Memory.sound_versioned _ (by decide)) "users" "1" wellFormed
  have suits : ∀ rework ∈ reworks, rework.Suits Memory.storage .unlimited live := by
    refine List.forall_mem_cons.mpr ⟨?_, List.forall_mem_cons.mpr ⟨?_, ?_⟩⟩
    · exact ⟨FieldEdit.fits_of_nothing rfl, sound.holdsIn, sound.readable Memory.faithful⟩
    · refine ⟨?_, sound.holdsIn, sound.readable Memory.faithful⟩
      rintro value ⟨⟩
      trivial
    · exact List.forall_mem_singleton.mpr trivial
  have repeatable : Transform.Repeatable (transforms reworks) := by decide
  rcases replays Memory.faithful repeatable suits with ⟨once, ran, reached, again, replay⟩
  have fit := Storage.fit_of_suits suits
  have suitsOnce : ∀ rework ∈ reworks, rework.Suits Memory.storage .unlimited once :=
    fun rework member => reached.suits Memory.faithful fit (suits rework member)
  have readable : Memory.storage.record once = .ok ⟨"2.0.0", 0, ⟨1⟩, "01J0000000000000000000000A"⟩ :=
    Storage.record_of_encoded (reached.read Bookkeeping.bucket recordKey)
  have parsed : Version.read "2.0.0" = .ok (.release 2 0 0) := rfl
  have pending : registry.pending (Plan.make registry (.release 2 0 0)
      ⟨"2.0.0", 0, ⟨1⟩, "01J0000000000000000000000A"⟩ (.release 2 0 0)) = reworks.map step := rfl
  rcases replay parsed readable parsed pending suitsOnce ⟨fun _ _ _ => rfl, fun _ _ => Iff.rfl⟩ with
    ⟨report, final, reran, same⟩
  exact ⟨repeatable, suits, once, report, final, ran, reached.read "users" "1", again, reran, same⟩

/-- A step that drops a field and a later one that renames another to it: the second pass
loses what the first one moved, and so does a run that replays the release. -/
theorem not_replays_putBack :
    let reworks : List Rework := [.edit (.drop "drop_role" "users" "Role"),
      .edit (.rename "move_role" "users" "OldRole" "Role")]
    let registry : Registry := ⟨[⟨.release 2 0 0, reworks.map step⟩]⟩
    let before := (Memory.versioned ⟨"1.0.0", 0, ⟨1⟩, "01J0000000000000000000000A"⟩).write "users" "1"
      (.object [("OldRole", .integer 2)])
    (∃ names once again twice,
      (runSteps (reworks.map step)).run Memory.backend before = (.ok names, once) ∧
      (runSteps (reworks.map step)).run Memory.backend once = (.ok again, twice) ∧
      once.read "users" "1" = some (.object [("Role", .integer 2)]) ∧
      twice.read "users" "1" = some (.object [])) ∧
    ∃ report upgraded again final,
      (registry.run "2.0.0").run Memory.backend before = (.ok report, upgraded) ∧
      (registry.run "2.0.0").run Memory.backend upgraded = (.ok again, final) ∧
      upgraded.read "users" "1" = some (.object [("Role", .integer 2)]) ∧
      final.read "users" "1" = some (.object []) :=
  ⟨⟨_, _, _, _, rfl, rfl, rfl, rfl⟩, ⟨_, _, _, _, rfl, rfl, rfl, rfl⟩⟩

end Rework

end StoreMigration
