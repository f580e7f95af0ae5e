import Mathlib.Logic.Function.Iterate
import StoreMigration.Proofs.Migration.Bridge

/-! An installation keeps its identity when a record takes the place of its legacy keys.
Whichever calls fail, all keys stay until the record is there, and where it does not come to
be nothing has changed, so that the next start can try again. -/

namespace StoreMigration.Legacy

open Bookkeeping

/-! ## One call -/

/-- The record took the place of the keys, of which some may have survived. -/
structure Replaced (stored : α) (survives : String → Prop) (before after : Objects α) : Prop where
  recorded : after bucket recordKey = some stored
  kept : ∀ key ∈ keys, survives key → after bucket key = before bucket key
  removed : ∀ key ∈ keys, ¬ survives key → after bucket key = none
  elsewhere : ∀ other key, other ≠ bucket ∨ (key ≠ recordKey ∧ key ∉ keys) →
    after other key = before other key

structure ImportsSafely (storage : Storage σ α) (state : σ) (record : VersionRecord) : Prop where
  guarded : ∀ exchange ∈ bridge.history storage.backend state,
    (∀ key ∈ keys,
      storage.objects exchange.after bucket key = storage.objects state bucket key) ∨
        storage.recordObject exchange.after = some (storage.encode record.toJson)
  failed : ∀ error after, bridge.run storage.backend state = (.error error, after) →
    storage.objects after = storage.objects state
  imported : ∀ outcome after, bridge.run storage.backend state = (.ok outcome, after) →
    outcome = .imported record ∧
      Replaced (storage.encode record.toJson) (Survives (bridge.history storage.backend state))
        (storage.objects state) (storage.objects after)

def Refuses (storage : Storage σ α) (state : σ) : Prop :=
  ∃ error after, bridge.run storage.backend state = (.error error, after) ∧
    storage.objects after = storage.objects state ∧
    ∀ exchange ∈ bridge.history storage.backend state, exchange.request.isWrite = false

section Call

variable {storage : Storage σ α} {state after : σ} {record : VersionRecord}
  {outcome : Except MigrationError Outcome} {history : List (Exchange σ)}

theorem recordObject_of_removes (removes : Removes storage.backend keys state history after)
    (written : storage.recordObject state = some (storage.encode record.toJson)) :
    (∀ exchange ∈ history,
        storage.recordObject exchange.after = some (storage.encode record.toJson)) ∧
      storage.recordObject after = some (storage.encode record.toJson) := by
  have outside : bucket ≠ bucket ∨ recordKey ∉ keys := .inr (by decide)
  rcases removes.elsewhere outside with ⟨throughout, left⟩
  exact ⟨fun exchange member => (throughout exchange member).trans written, left.trans written⟩

theorem guarded_of_course (has : storage.HasLegacy state record)
    (course : Course storage state outcome history after) {exchange : Exchange σ}
    (member : exchange ∈ history) :
    (∀ key ∈ keys,
      storage.objects exchange.after bucket key = storage.objects state bucket key) ∨
        storage.recordObject exchange.after = some (storage.encode record.toJson) := by
  have untouched : ∀ {calls : List (Exchange σ)} {left : σ}, storage.Looks state calls left →
      exchange ∈ calls → ∀ key ∈ keys,
        storage.objects exchange.after bucket key = storage.objects state bucket key :=
    fun looks among key _ => congrFun (congrFun (looks.throughout exchange among) bucket) key
  cases course with
  | failed looks => exact .inl (untouched looks member)
  | versioned _ looks => exact .inl (untouched looks member)
  | unnumbered _ _ looks => exact .inl (untouched looks member)
  | @notPersisted other made middle cause _ _ looks unwritten =>
      rcases List.mem_append.mp member with member | member
      · exact .inl (untouched looks member)
      · cases List.mem_singleton.mp member
        have kept : storage.objects (storage.backend (recordRequest other) middle).2 =
            storage.objects state := (storage.refused unwritten).trans looks.left
        exact .inl fun key _ => congrFun (congrFun kept bucket) key
  | @imported other made later middle _ _ hasToo looks written removes =>
      cases has.unique hasToo
      have recorded := Storage.recordObject_written written
      rcases List.mem_append.mp member with member | member
      · exact .inl (untouched looks member)
      rcases List.mem_cons.mp member with rfl | member
      · exact .inr recorded
      · exact .inr ((recordObject_of_removes removes recorded).1 exchange member)

theorem unchanged_of_course {error : MigrationError}
    (course : Course storage state (.error error) history after) :
    storage.objects after = storage.objects state := by
  cases course with
  | failed looks => exact looks.left
  | notPersisted _ _ looks unwritten => exact (storage.refused unwritten).trans looks.left

theorem survives_of_imported {made later : List (Exchange σ)} {middle : σ}
    (looks : storage.Looks state made middle) {key : String} :
    Survives (made ++ storage.backend.exchange (recordRequest record) middle :: later) key ↔
      Survives later key := by
  constructor
  · rintro ⟨exchange, member, deletes, failed⟩
    rcases List.mem_append.mp member with member | member
    · have harmless := looks.harmless exchange member
      rw [deletes] at harmless
      cases harmless
    rcases List.mem_cons.mp member with rfl | member
    · cases deletes
    · exact ⟨exchange, member, deletes, failed⟩
  · rintro ⟨exchange, member, deletes, failed⟩
    exact ⟨exchange, List.mem_append_right made (List.mem_cons_of_mem _ member), deletes, failed⟩

theorem replaced_of_imported {made later : List (Exchange σ)} {middle : σ}
    (looks : storage.Looks state made middle)
    (written : (storage.backend (recordRequest record) middle).1 = .ok ())
    (removes : Removes storage.backend keys (storage.backend (recordRequest record) middle).2
      later after) :
    Replaced (storage.encode record.toJson)
      (Survives (made ++ storage.backend.exchange (recordRequest record) middle :: later))
      (storage.objects state) (storage.objects after) := by
  have place : storage.objects (storage.backend (recordRequest record) middle).2 =
      (storage.objects state).set bucket recordKey (some (storage.encode record.toJson)) := by
    rw [Storage.objects_record written, looks.left]
  constructor
  · apply (recordObject_of_removes removes _).2
    rw [Storage.recordObject, place]
    exact Objects.set_same _ _ _ _
  · intro key member survives
    have kept := (removes.removed keys_nodup member).1 ((survives_of_imported looks).mp survives)
    rw [kept, place]
    exact Objects.set_of_ne _ _ (.inr (ne_recordKey_of_mem member))
  · intro key member survives
    apply (removes.removed keys_nodup member).2
    rw [← survives_of_imported looks]
    exact survives
  · intro other key apart
    rw [(removes.elsewhere (apart.imp_right And.right)).2, place]
    exact Objects.set_of_ne _ _ (apart.imp_right And.left)

theorem importsSafely_of_has (unversioned : storage.recordObject state = none)
    (has : storage.HasLegacy state record) : ImportsSafely storage state record := by
  have runs := Action.Runs.total storage.backend bridge state
  constructor
  · intro exchange member
    exact guarded_of_course has (course runs) member
  · intro error after ran
    have went := course runs
    rw [ran] at went
    exact unchanged_of_course went
  · intro outcome after ran
    have went := course runs
    rw [ran] at went
    generalize bridge.history storage.backend state = history at went
    cases went with
    | versioned recorded _ =>
        cases recorded.symm.trans (Storage.entry_of_absent VersionRecord.ofJson unversioned)
    | unnumbered _ unnumbered _ =>
        rcases has with ⟨numbered, _, _, _⟩
        cases unnumbered.symm.trans numbered
    | imported _ hasToo looks written removes =>
        cases has.unique hasToo
        exact ⟨rfl, replaced_of_imported looks written removes⟩

theorem refuses_of_incomplete (unversioned : storage.recordObject state = none)
    (numbered : storage.objects state bucket versionKey ≠ none)
    (incomplete : ∀ record, ¬ storage.HasLegacy state record) : Refuses storage state := by
  have went := course (Action.Runs.total storage.backend bridge state)
  rcases ran : bridge.run storage.backend state with ⟨outcome, after⟩
  rw [ran] at went
  have harmless : ∃ error, outcome = .error error ∧
      storage.Looks state (bridge.history storage.backend state) after := by
    generalize bridge.history storage.backend state = history at went
    cases went with
    | failed looks => exact ⟨_, rfl, looks⟩
    | versioned recorded _ =>
        cases recorded.symm.trans (Storage.entry_of_absent VersionRecord.ofJson unversioned)
    | unnumbered _ unnumbered _ => exact absurd (Storage.absent_of_entry unnumbered) numbered
    | notPersisted _ has _ _ => exact absurd has (incomplete _)
    | imported _ has _ _ _ => exact absurd has (incomplete _)
  rcases harmless with ⟨error, rfl, looks⟩
  exact ⟨error, after, ran, looks.left, looks.harmless⟩

end Call

/-! ## Calls after one another -/

/-- Calls that failed one after the other, each under its own pattern of failing calls. -/
inductive Attempts (storage : Storage (Buckets α) α) : Buckets α → Buckets α → Prop
  | none {buckets : Buckets α} : Attempts storage buckets buckets
  | next {φ : Type} {disturbance : Disturbance φ} {pattern rest : φ}
      {before middle after : Buckets α} {error : MigrationError}
      (failed : bridge.run (storage.backend.disturbed disturbance) (pattern, before) =
        (.error error, (rest, middle)))
      (others : Attempts storage middle after) : Attempts storage before after

/-- However often the call is made, it finds a record and tries to change nothing. -/
def Settled (storage : Storage (Buckets α) α) (buckets : Buckets α) : Prop :=
  ∀ times reached, reached = (fun found => (bridge.run storage.backend found).2)^[times] buckets →
    bridge.run storage.backend reached = (.ok .alreadyVersioned, buckets) ∧
      ∀ exchange ∈ bridge.history storage.backend reached, exchange.request.isWrite = false

section Calls

variable {storage : Storage (Buckets α) α} {capacity : Json.Capacity}
  {start reached after : Buckets α} {record : VersionRecord}

theorem hasLegacy_disturbed_iff {disturbance : Disturbance φ} {pattern : φ} :
    (storage.disturbed disturbance).HasLegacy (pattern, start) record ↔
      storage.HasLegacy start record := by
  constructor
  · rintro ⟨numbered, edited, identified, released⟩
    exact .intro numbered edited identified released
  · rintro ⟨numbered, edited, identified, released⟩
    exact .intro numbered edited identified released

theorem unchanged_of_attempts (unversioned : storage.recordObject start = none)
    (has : storage.HasLegacy start record) (attempts : Attempts storage start reached) :
    storage.objects reached = storage.objects start := by
  induction attempts with
  | none => rfl
  | @next φ disturbance pattern rest before middle after error failed others induction =>
      have safely : ImportsSafely (storage.disturbed disturbance) (pattern, before) record :=
        importsSafely_of_has unversioned (hasLegacy_disturbed_iff.mpr has)
      have same : storage.objects middle = storage.objects before := safely.failed error _ failed
      have unversionedStill : storage.recordObject middle = none := by
        rw [Storage.recordObject, same]
        exact unversioned
      exact (induction unversionedStill (has.congr same)).trans same

theorem settled_of_recorded (faithful : storage.Faithful capacity) {residue : Option Json}
    (recorded : storage.recordObject after = some (storage.encode record.toJson))
    (legible : storage.read after bucket versionKey = .ok residue) : Settled storage after := by
  have found := faithful.bridge_of_versioned (Storage.entry_of_recorded recorded) legible
  have fixed : (bridge.run storage.backend after).2 = after := congrArg Prod.snd found
  rintro times reached rfl
  rw [Function.iterate_fixed fixed times]
  refine ⟨found, ?_⟩
  have went := course (Action.Runs.total storage.backend bridge after)
  rw [found] at went
  generalize bridge.history storage.backend after = history at went ⊢
  cases went with
  | versioned _ looks => exact looks.harmless

theorem settled_of_replaced (faithful : storage.Faithful capacity) {survives : String → Prop}
    (has : storage.HasLegacy start record)
    (replaced : Replaced (storage.encode record.toJson) survives (storage.objects start)
      (storage.objects after)) : Settled storage after := by
  have numberLegible : ∃ residue, storage.read after bucket versionKey = .ok residue := by
    by_cases kept : survives versionKey
    · have same := storage.read_congr (replaced.kept versionKey (by decide) kept)
      rcases has with ⟨numbered, _, _, _⟩
      rw [same]
      exact Storage.read_of_entry numbered
    · refine ⟨none, ?_⟩
      simp only [Storage.read, Objects.answer, replaced.removed versionKey (by decide) kept]
  rcases numberLegible with ⟨residue, legible⟩
  exact settled_of_recorded faithful replaced.recorded legible

theorem replaced_importedBuckets (faithful : storage.Faithful capacity) (record : VersionRecord)
    (buckets : Buckets α) :
    Replaced (storage.encode record.toJson) (fun _ => False) (storage.objects buckets)
      (storage.objects (Storage.importedBuckets storage record buckets)) := by
  rw [faithful.shown, Storage.importedBuckets]
  simp only [Buckets.read_delete_eq, Buckets.read_write_eq]
  constructor
  · rfl
  · exact fun key member survives => survives.elim
  · intro key member _
    simp only [keys, List.mem_cons, List.not_mem_nil, or_false] at member
    rcases member with rfl | rfl | rfl <;> rfl
  · intro other key apart
    have notKey : ∀ label ∈ keys, other ≠ bucket ∨ key ≠ label := by
      intro label member
      refine apart.imp_right fun outside same => ?_
      subst same
      exact outside.2 member
    rw [Objects.set_of_ne _ _ (notKey instanceKey (by decide)),
      Objects.set_of_ne _ _ (notKey editionKey (by decide)),
      Objects.set_of_ne _ _ (notKey versionKey (by decide)),
      Objects.set_of_ne _ _ (apart.imp_right And.left)]

end Calls

/-! ## Identity -/

/-- What holds of the store `reached` after failed attempts to import `record` from `start`. -/
structure Recoverable (storage : Storage (Buckets α) α) (record : VersionRecord)
    (start reached : Buckets α) : Prop where
  unchanged : storage.objects reached = storage.objects start
  safely : ∀ (φ : Type) (disturbance : Disturbance φ) (pattern : φ),
    ImportsSafely (storage.disturbed disturbance) (pattern, reached) record
  settled : ∀ (φ : Type) (disturbance : Disturbance φ) (pattern rest : φ) outcome after,
    bridge.run (storage.backend.disturbed disturbance) (pattern, reached) =
      (.ok outcome, (rest, after)) → Settled storage after
  retried : ∃ after, bridge.run storage.backend reached = (.ok (.imported record), after) ∧
    Replaced (storage.encode record.toJson) (fun _ => False) (storage.objects start)
      (storage.objects after) ∧ Settled storage after

/-- Legacy keys that amount to a record become that record, however often the attempt fails
before; legacy keys that do not are left as they are. -/
theorem keepsIdentity {storage : Storage (Buckets α) α} {capacity : Json.Capacity}
    (faithful : storage.Faithful capacity) {start : Buckets α}
    (unversioned : storage.recordObject start = none) :
    (∀ record, storage.HasLegacy start record → ∀ reached, Attempts storage start reached →
      Recoverable storage record start reached) ∧
    (storage.objects start bucket versionKey ≠ none →
      (∀ record, ¬ storage.HasLegacy start record) →
        ∀ (φ : Type) (disturbance : Disturbance φ) (pattern : φ),
          Refuses (storage.disturbed disturbance) (pattern, start)) := by
  constructor
  · intro record has reached attempts
    have same := unchanged_of_attempts unversioned has attempts
    have hasStill : storage.HasLegacy reached record := has.congr same
    have unversionedStill : storage.recordObject reached = none := by
      rw [Storage.recordObject, same]
      exact unversioned
    have safely : ∀ (φ : Type) (disturbance : Disturbance φ) (pattern : φ),
        ImportsSafely (storage.disturbed disturbance) (pattern, reached) record :=
      fun _ _ _ => importsSafely_of_has unversionedStill (hasLegacy_disturbed_iff.mpr hasStill)
    refine ⟨same, safely, ?_, ?_⟩
    · intro φ disturbance pattern rest outcome after ran
      exact settled_of_replaced faithful hasStill
        ((safely φ disturbance pattern).imported outcome _ ran).2
    · have replaced := replaced_importedBuckets faithful record reached
      have settled := settled_of_replaced faithful hasStill replaced
      rw [same] at replaced
      exact ⟨_, faithful.bridge_of_legacy (Storage.entry_of_absent _ unversionedStill) hasStill,
        replaced, settled⟩
  · intro numbered incomplete φ disturbance pattern
    have unversionedThere : (storage.disturbed disturbance).recordObject (pattern, start) = none :=
      unversioned
    apply refuses_of_incomplete unversionedThere numbered
    intro record has
    exact incomplete record (hasLegacy_disturbed_iff.mp has)

def unrecorded : Buckets Json :=
  ((Buckets.empty.write bucket versionKey (.integer 35)).write bucket editionKey
    (.integer 2)).write bucket instanceKey (.string "01J0000000000000000000000A")

/-- The fifth call fails, which is the one that writes the record. -/
def failingFifth : Disturbance Nat :=
  failingAt fun number => if number = 4 then some (.backend (.reported "disk full")) else none

/-- An attempt that read the keys but did not get to write the record. -/
theorem keepsIdentity_unrecorded :
    ∃ reached,
      Memory.storage.recordObject unrecorded = none ∧
      Memory.storage.HasLegacy unrecorded ⟨"2.9.3", 0, ⟨2⟩, "01J0000000000000000000000A"⟩ ∧
      bridge.run (Memory.backend.disturbed failingFifth) (0, unrecorded) =
        (.error (.notPersisted recordKey (.backend (.reported "disk full"))), (5, reached)) ∧
      Recoverable Memory.storage ⟨"2.9.3", 0, ⟨2⟩, "01J0000000000000000000000A"⟩ unrecorded reached ∧
      Refuses (Memory.storage.disturbed failingFifth) (0, unrecorded.delete bucket editionKey) := by
  have unversioned : Memory.storage.recordObject unrecorded = none := rfl
  have numbered : Memory.storage.entry Json.decodeInt64 versionKey unrecorded = .ok (some 35) := rfl
  have edited : Memory.storage.entry Json.decodeInt64 editionKey unrecorded = .ok (some 2) := rfl
  have identified : Memory.storage.entry Json.decodeString instanceKey unrecorded =
      .ok (some "01J0000000000000000000000A") := rfl
  have released : release 35 = .ok (.release 2 9 3) := rfl
  have has : Memory.storage.HasLegacy unrecorded
      ⟨"2.9.3", 0, ⟨2⟩, "01J0000000000000000000000A"⟩ := .intro numbered edited identified released
  have broken : bridge.run (Memory.backend.disturbed failingFifth) (0, unrecorded) =
      (.error (.notPersisted recordKey (.backend (.reported "disk full"))), (5, unrecorded)) := rfl
  have attempts : Attempts Memory.storage unrecorded unrecorded := .next broken .none
  have unedited : ∀ record,
      ¬ Memory.storage.HasLegacy (unrecorded.delete bucket editionKey) record := by
    rintro _ ⟨_, there, _, _⟩
    have gone : Memory.storage.entry Json.decodeInt64 editionKey
        (unrecorded.delete bucket editionKey) = .ok none := rfl
    cases gone.symm.trans there
  have numberedStill : Memory.storage.objects (unrecorded.delete bucket editionKey) bucket
      versionKey ≠ none := nofun
  exact ⟨unrecorded, unversioned, has, broken,
    (keepsIdentity Memory.faithful unversioned).1 _ has _ attempts,
    (keepsIdentity Memory.faithful rfl).2 numberedStill unedited _ failingFifth 0⟩

end StoreMigration.Legacy
