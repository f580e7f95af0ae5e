import StoreMigration.Proofs.Migration.Preservation

/-! Runs that are tried again. A run that fails leaves each object some of the way to where
the run would have taken it and the record as it was, so the next run does the same again;
the first that nothing disturbs ends where a single undisturbed run would have ended. -/

namespace StoreMigration.Registry

open Bookkeeping

def LeavesRecord (history : List (Exchange σ)) : Prop :=
  ∀ exchange ∈ history, ∀ value, exchange.request = .update bucket recordKey value →
    exchange.succeeded = false

/-- Runs for a target that failed one after the other, each under its own pattern of failing
calls and each before the record was written. -/
inductive Attempts (storage : Storage (Buckets α) α) (registry : Registry) (target : String) :
    Buckets α → Buckets α → Prop
  | none {buckets : Buckets α} : Attempts storage registry target buckets buckets
  | next {φ : Type} {disturbance : Disturbance φ} {pattern rest : φ}
      {before middle after : Buckets α} {error : MigrationError}
      (failed : (registry.run target).run (storage.backend.disturbed disturbance)
        (pattern, before) = (.error error, (rest, middle)))
      (unrecorded : LeavesRecord ((registry.run target).history
        (storage.backend.disturbed disturbance) (pattern, before)))
      (others : Attempts storage registry target middle after) :
      Attempts storage registry target before after

theorem leavesRecord_of_stepFailed {backend : Backend σ} {registry : Registry} {target : String}
    {state final : σ} {name : String} {cause : StepError} (spares : registry.Spares bucket)
    (ran : (registry.run target).run backend state = (.error (.stepFailed name cause), final)) :
    LeavesRecord ((registry.run target).history backend state) := by
  have went := course ⟨ran, rfl⟩
  have ofOpening : ∀ exchange ∈ opening backend state, ∀ value,
      exchange.request ≠ .update bucket recordKey value := by
    intro exchange member value writes
    rcases List.mem_cons.mp member with rfl | member
    · injection writes with _ keys
      exact absurd keys (by decide)
    · cases List.mem_singleton.mp member
      cases writes
  generalize (registry.run target).history backend state = history at went
  cases went with
  | unplanned valid raised failed =>
      intro exchange member value writes
      exact absurd writes (ofOpening exchange member value)
  | stopped begun steps =>
      intro exchange member value writes
      rcases List.mem_append.mp member with member | member
      · exact absurd writes (ofOpening exchange member value)
      · have allowed := steps.keepsTo (keepsTo_pending spares _) member
        rw [writes] at allowed
        exact absurd rfl allowed

/-- Outside the bookkeeping every object went through the first few of some transforms; in
it nothing changed but the flag. -/
structure Halfway (storage : Storage (Buckets α) α) (transforms : List Transform)
    (start reached : Buckets α) : Prop where
  read : ∀ other key, other ≠ bucket → ∃ part, part <+: transforms ∧
    reached.read other key = (start.read other key).map (storage.edited part other)
  bookkeeping : ∀ key, key ≠ updatingKey → reached.read bucket key = start.read bucket key
  kept : ∀ other, start.Has other → reached.Has other
  made : ∀ other, reached.Has other →
    start.Has other ∨ other = bucket ∨ other ∈ transforms.map Transform.bucket

variable {storage : Storage (Buckets α) α} {capacity : Json.Capacity}
  {transforms : List Transform} {start reached final : Buckets α}

/-! ## Half-way stores -/

theorem Halfway.refl (storage : Storage (Buckets α) α) (transforms : List Transform)
    (buckets : Buckets α) : Halfway storage transforms buckets buckets where
  read other key _ :=
    ⟨[], List.nil_prefix, (congrFun Option.map_id (buckets.read other key)).symm⟩
  bookkeeping _ _ := rfl
  kept _ present := present
  made _ present := .inl present

theorem Halfway.record_eq (faithful : storage.Faithful capacity)
    (halfway : Halfway storage transforms start reached) :
    storage.record reached = storage.record start := by
  apply Storage.record_congr
  rw [Storage.recordObject, Storage.recordObject, faithful.shown]
  exact halfway.bookkeeping recordKey (by decide)

theorem Halfway.trans (faithful : storage.Faithful capacity) (orderly : Transform.Orderly transforms)
    (holds : ∀ transform ∈ transforms, storage.HoldsIn capacity start transform.bucket)
    {middle : Buckets α} (first : Halfway storage transforms start middle)
    (second : Halfway storage transforms middle reached) :
    Halfway storage transforms start reached where
  read other key elsewhere := by
    rcases first.read other key elsewhere with ⟨part, along, same⟩
    rcases second.read other key elsewhere with ⟨further, again, alike⟩
    rw [alike, same]
    cases found : start.read other key with
    | none => exact ⟨[], List.nil_prefix, rfl⟩
    | some stored =>
        have joined : ∃ whole, whole <+: transforms ∧
            storage.edited further other (storage.edited part other stored) =
              storage.edited whole other stored :=
          Storage.exists_edited_edited faithful orderly
            (fun ⟨one, member, here⟩ => holds one member key stored (here ▸ found)) along again
        rcases joined with ⟨whole, within, joined⟩
        exact ⟨whole, within, congrArg some joined⟩
  bookkeeping key notFlag := (second.bookkeeping key notFlag).trans (first.bookkeeping key notFlag)
  kept other present := second.kept other (first.kept other present)
  made other present := by
    rcases second.made other present with was | new
    · exact first.made other was
    · exact .inr new

theorem halfway_begun (storage : Storage (Buckets α) α) (transforms : List Transform)
    (buckets : Buckets α) : Halfway storage transforms buckets (begunBuckets storage buckets) where
  read other key elsewhere := by
    rw [read_begun_of_ne storage buckets (.inl elsewhere)]
    exact (Halfway.refl storage transforms buckets).read other key elsewhere
  bookkeeping key notFlag := read_begun_of_ne storage buckets (.inr notFlag)
  kept other present := (has_begun_iff storage buckets other).mpr (.inr present)
  made other present := by
    rcases (has_begun_iff storage buckets other).mp present with same | was
    · exact .inr (.inl same)
    · exact .inl was

theorem halfway_of_partlyEdited (elsewhere : ∀ transform ∈ transforms, transform.bucket ≠ bucket)
    (partly : storage.PartlyEdited transforms start reached) :
    Halfway storage transforms start reached where
  read other key _ := partly.read other key
  bookkeeping key _ := by
    rcases partly.read bucket key with ⟨part, along, same⟩
    have untouched : storage.edited part bucket = id := funext fun stored =>
      Storage.edited_of_unnamed storage (fun one member => elsewhere one (along.subset member)) stored
    rw [same, untouched, Option.map_id, id]
  kept := partly.kept
  made other present := (partly.made other present).imp_right .inr

/-! ## Attempts -/

section Attempt

variable {registry : Registry} {target : String} {version stored : Version} {record : VersionRecord}
  {φ : Type} {disturbance : Disturbance φ} {pattern rest : φ} {before middle after : Buckets α}

theorem content_of_raised (faithful : storage.Faithful capacity) {state : φ × Buckets α}
    (raised : (storage.backend.disturbed disturbance (flagRequest true) state).1 = .ok ()) :
    (ready (storage.backend.disturbed disturbance) state).2 = begunBuckets storage state.2 := by
  have relays := storage.backend.relays_disturbed disturbance
  rw [ready, ((relays _ _).lookUp faithful).1, flagged]
  rcases (relays _ _).write faithful (capacity.held_of_modest (Json.modest_bool true)) with
    ⟨_, written⟩ | ⟨_, ⟨error, failed⟩, _⟩
  · exact written
  · cases raised.symm.trans failed

theorem halfway_of_steps (faithful : storage.Faithful capacity)
    (valid : Version.read target = .ok version) (readable : storage.record before = .ok record)
    (parsed : record.parsedVersion = .ok stored)
    (transforming : Transforming registry (Plan.make registry stored record version) transforms)
    (holds : ∀ transform ∈ transforms, storage.HoldsIn capacity before transform.bucket)
    {asked : Version} {found : VersionRecord} {plan : Plan}
    (begun : Begun (storage.backend.disturbed disturbance) registry target (pattern, before) asked
      found plan)
    {outcome : Except MigrationError (List String)} {made : List (Exchange (φ × Buckets α))}
    {left : φ × Buckets α}
    (steps : (runSteps (registry.pending plan)).Runs (storage.backend.disturbed disturbance)
      (ready (storage.backend.disturbed disturbance) (pattern, before)) outcome made left) :
    Halfway storage transforms before left.2 := by
  cases begun.valid.symm.trans valid
  have begunThere : Begun (storage.disturbed disturbance).backend registry target (pattern, before)
      version found plan := begun
  have recorded := record_of_begun begunThere
  have same : storage.record before = .ok found := recorded
  cases same.symm.trans readable
  rcases parsed_of_ofRecord begun.planned with ⟨told, reads, rfl⟩
  cases reads.symm.trans parsed
  rw [transforming.pending_eq] at steps
  have place := content_of_raised faithful begun.raised
  have holdsThen : ∀ transform ∈ transforms, storage.HoldsIn capacity
      (ready (storage.backend.disturbed disturbance) (pattern, before)).2 transform.bucket := by
    intro transform member
    rw [place]
    exact holdsIn_begun (transforming.elsewhere transform member) (holds transform member)
  have taken := takesThrough_runSteps faithful (storage.backend.relays_disturbed disturbance)
    (transforming.orderly.fit capacity) holdsThen steps
  rw [place] at taken
  exact (halfway_begun storage transforms before).trans faithful transforming.orderly holds
    (halfway_of_partlyEdited transforming.elsewhere taken.partly)

theorem halfway_of_failed (faithful : storage.Faithful capacity)
    (valid : Version.read target = .ok version) (readable : storage.record before = .ok record)
    (parsed : record.parsedVersion = .ok stored)
    (transforming : Transforming registry (Plan.make registry stored record version) transforms)
    (holds : ∀ transform ∈ transforms, storage.HoldsIn capacity before transform.bucket)
    {error : MigrationError}
    (failed : (registry.run target).run (storage.backend.disturbed disturbance)
      (pattern, before) = (.error error, (rest, middle)))
    (unrecorded : LeavesRecord ((registry.run target).history
      (storage.backend.disturbed disturbance) (pattern, before))) :
    Halfway storage transforms before middle := by
  have relays := storage.backend.relays_disturbed disturbance
  have went := course (Action.Runs.total (storage.backend.disturbed disturbance)
    (registry.run target) (pattern, before))
  rw [failed] at went
  generalize calls : (registry.run target).history (storage.backend.disturbed disturbance)
    (pattern, before) = history at went
  rw [calls] at unrecorded
  generalize place : (rest, middle) = left at went
  have shown : middle = left.2 := congrArg Prod.snd place
  rw [shown]
  cases went with
  | refused invalid => cases valid.symm.trans invalid
  | notRaised unraised =>
      have flagWritable := capacity.held_of_modest (Json.modest_bool true)
      rcases (relays (flagRequest true) (pattern, before)).write faithful flagWritable with
        ⟨granted, _⟩ | ⟨_, _, untouched⟩
      · cases granted.symm.trans unraised
      · rw [untouched]
        exact .refl storage transforms before
  | unplanned asked raised unplanned =>
      have begun := content_of_raised faithful raised
      rw [ready] at begun
      rw [begun]
      exact halfway_begun storage transforms before
  | stopped begun steps =>
      exact halfway_of_steps faithful valid readable parsed transforming holds begun steps
  | @notStamped _ other plan _ _ reached _ begun steps unwritten =>
      have recordWritable := capacity.held_of_modest (stamp other plan).modest_toJson
      rcases (relays (recordRequest (stamp other plan)) reached).write faithful recordWritable with
        ⟨granted, _⟩ | ⟨_, _, untouched⟩
      · cases granted.symm.trans unwritten
      · rw [untouched]
        exact halfway_of_steps faithful valid readable parsed transforming holds begun steps
  | @notLowered _ other plan _ made reached _ begun steps written unlowered =>
      -- Here the record was written already, which is not among the attempts that are followed.
      have member : (storage.backend.disturbed disturbance).exchange
          (recordRequest (stamp other plan)) reached ∈
            opening (storage.backend.disturbed disturbance) (pattern, before) ++
              (made ++ closing (storage.backend.disturbed disturbance) (stamp other plan) reached) :=
        List.mem_append_right _ (List.mem_append_right _ List.mem_cons_self)
      have refused := unrecorded _ member _ rfl
      simp only [Exchange.succeeded, Backend.exchange, written] at refused
      cases refused

theorem halfway_of_attempts (faithful : storage.Faithful capacity)
    (valid : Version.read target = .ok version) (readable : storage.record start = .ok record)
    (parsed : record.parsedVersion = .ok stored)
    (transforming : Transforming registry (Plan.make registry stored record version) transforms)
    (holds : ∀ transform ∈ transforms, storage.HoldsIn capacity start transform.bucket)
    (attempts : Attempts storage registry target before after)
    (halfway : Halfway storage transforms start before) :
    Halfway storage transforms start after := by
  induction attempts with
  | none => exact halfway
  | next failed unrecorded others induction =>
      have sameRecord := (halfway.record_eq faithful).trans readable
      have holdsThen := fun transform member =>
        Storage.holdsIn_of_read faithful (transforming.orderly.fit capacity)
          (fun key => halfway.read _ key (transforming.elsewhere transform member))
          (holds transform member)
      apply induction
      exact halfway.trans faithful transforming.orderly holds
        (halfway_of_failed faithful valid sameRecord parsed transforming holdsThen failed unrecorded)

end Attempt

/-! ## The last attempt -/

variable {registry : Registry} {target : String} {version stored : Version} {record : VersionRecord}

/-- From a store that is half-way, a run ends where it ends from the start. -/
theorem finished_eq (faithful : storage.Faithful capacity) (orderly : Transform.Orderly transforms)
    (holds : ∀ transform ∈ transforms, storage.HoldsIn capacity start transform.bucket)
    (halfway : Halfway storage transforms start reached) {once again : Buckets α}
    (straight : storage.Edited transforms (begunBuckets storage start) once)
    (onward : storage.Edited transforms (begunBuckets storage reached) again) :
    finishedBuckets storage record again = finishedBuckets storage record once := by
  apply Buckets.ext_read
  · intro other
    rw [has_finished_iff, has_finished_iff, straight.has_iff, onward.has_iff, has_begun_iff,
      has_begun_iff]
    have kept := halfway.kept other
    have made := halfway.made other
    tauto
  · funext other key
    -- Both runs write the record and the flag anew, whatever stood there.
    by_cases own : other = bucket ∧ (key = recordKey ∨ key = updatingKey)
    · rcases own with ⟨rfl, rfl | rfl⟩
      · rw [read_finished_record, read_finished_record]
      · rw [read_finished_flag, read_finished_flag]
    have outside : other ≠ bucket ∨ (key ≠ recordKey ∧ key ≠ updatingKey) := by
      tauto
    rw [read_finished_of_ne storage record again outside,
      read_finished_of_ne storage record once outside, straight.read, onward.read,
      read_begun_of_ne storage start (outside.imp_right And.right),
      read_begun_of_ne storage reached (outside.imp_right And.right)]
    by_cases here : other = bucket
    · subst here
      rcases outside with absurdity | ⟨_, notFlag⟩
      · exact absurd rfl absurdity
      · rw [halfway.bookkeeping key notFlag]
    -- All edits made after some of them come to the same as all of them made at once.
    · rcases halfway.read other key here with ⟨part, along, same⟩
      rw [same]
      cases found : start.read other key with
      | none => rfl
      | some old =>
          exact congrArg some (Storage.edited_edited faithful orderly
            (fun ⟨one, member, named⟩ => holds one member key old (named ▸ found)) along)

theorem run_of_halfway (faithful : storage.Faithful capacity)
    (valid : Version.read target = .ok version) (readable : storage.record start = .ok record)
    (parsed : record.parsedVersion = .ok stored)
    (transforming : Transforming registry (Plan.make registry stored record version) transforms)
    (holds : ∀ transform ∈ transforms, storage.HoldsIn capacity start transform.bucket)
    (legible : ∀ transform ∈ transforms, ∀ key, storage.Readable start transform.bucket key)
    (halfway : Halfway storage transforms start reached) :
    (registry.run target).run storage.backend reached =
      (registry.run target).run storage.backend start := by
  have elsewhere := transforming.elsewhere
  have sameRecord := (halfway.record_eq faithful).trans readable
  have holdsThen : ∀ transform ∈ transforms, storage.HoldsIn capacity reached transform.bucket :=
    fun transform member => Storage.holdsIn_of_read faithful (transforming.orderly.fit capacity)
      (fun key => halfway.read transform.bucket key (elsewhere transform member))
      (holds transform member)
  have legibleThen : ∀ transform ∈ transforms, ∀ key,
      storage.Readable reached transform.bucket key := by
    intro transform member key
    rw [Storage.readable_of_read_iff faithful (transforming.orderly.fit capacity)
      (fun key => halfway.read transform.bucket key (elsewhere transform member))
      (holds transform member)]
    exact legible transform member key
  rcases runs_of_readable faithful valid readable parsed transforming holds legible with
    ⟨once, straight, ran⟩
  rcases runs_of_readable faithful valid sameRecord parsed transforming holdsThen legibleThen with
    ⟨again, onward, reran⟩
  rw [reran, ran,
    finished_eq faithful transforming.orderly holds halfway straight onward]

end StoreMigration.Registry

namespace StoreMigration.Releases

open Bookkeeping Registry

/-- However often a run of the releases was interrupted before, one that nothing disturbs
reports what a single run would have reported and leaves what it would have left. -/
theorem run_of_attempts {storage : Storage (Buckets α) α} {capacity : Json.Capacity}
    (faithful : storage.Faithful capacity) {target : String} {start reached final : Buckets α}
    {report : Report}
    (holds : ∀ transform ∈ transforms, storage.HoldsIn capacity start transform.bucket)
    (ran : (registry.run target).run storage.backend start = (.ok report, final))
    (attempts : Attempts storage registry target start reached) :
    (registry.run target).run storage.backend reached = (.ok report, final) := by
  rcases finished_of_ok ran with ⟨version, record, plan, names, made, left, begun, steps, _⟩
  rcases parsed_of_ofRecord begun.planned with ⟨stored, parsed, rfl⟩
  have readable : storage.record start = .ok record := record_of_begun begun
  rcases due_of_ok steps with ⟨due, among, due_eq⟩
  have transforming : Transforming registry (Plan.make registry stored record version) due :=
    transforming_of_sublist among due_eq
  have holdsDue : ∀ transform ∈ due, storage.HoldsIn capacity start transform.bucket :=
    fun transform member => holds transform (among.subset member)
  have legible := readable_of_ok faithful transforming holdsDue steps
  have halfway : Halfway storage due start reached :=
    halfway_of_attempts faithful begun.valid readable parsed transforming holdsDue attempts
      (.refl storage due start)
  exact (run_of_halfway faithful begun.valid readable parsed transforming holdsDue legible
    halfway).trans ran

def twoUsers : Buckets Json :=
  ((Memory.versioned ⟨"1.21.0", 0, ⟨1⟩, "01J0000000000000000000000A"⟩).write "users" "1"
    (.object [])).write "users" "2" (.object [("Role", .integer 2)])

/-- The seventh call fails, which is the one that looks at the second user for the first time. -/
def failingSeventh : Disturbance Nat :=
  failingAt fun number => if number = 6 then some (.backend (.reported "disk full")) else none

/-- An attempt that changed the first of two users and not the second. -/
theorem run_of_attempts_twoUsers :
    ∃ reached report final,
      Attempts Memory.storage registry "2.16.0" twoUsers reached ∧
      reached.read "users" "1" = some (.object [("PortainerAuthorizations", .object [])]) ∧
      reached.read "users" "2" = some (.object [("Role", .integer 2)]) ∧
      (registry.run "2.16.0").run Memory.backend twoUsers = (.ok report, final) ∧
      (registry.run "2.16.0").run Memory.backend reached = (.ok report, final) := by
  let record : VersionRecord := ⟨"1.21.0", 0, ⟨1⟩, "01J0000000000000000000000A"⟩
  have valid : Version.read "2.16.0" = .ok (.release 2 16 0) := rfl
  have parsed : Version.read "1.21.0" = .ok (.release 1 21 0) := rfl
  have readable : Memory.storage.record twoUsers = .ok record := Storage.record_of_encoded rfl
  have sound : ∀ transform ∈ transforms,
      Memory.storage.Sound .unlimited twoUsers transform.bucket := by
    intro transform member
    apply Memory.sound_write
    · apply Memory.sound_write (Memory.sound_versioned record (bucket_ne_bookkeeping member))
      simp [Json.WellFormed, Json.WellFormedFields]
    · simp [Json.WellFormed, Json.WellFormedFields, Json.integer, Json.JsonNumberFits]
  rcases run_of_sound Memory.faithful valid readable parsed (by decide) sound with
    ⟨report, _, _, _, _, ran⟩
  let tried := (registry.run "2.16.0").run (Memory.backend.disturbed failingSeventh) (0, twoUsers)
  have fails : tried.1 = .error (.stepFailed "update_users_to_db_18"
      (.store (.backend (.reported "disk full")))) := rfl
  have broken : (registry.run "2.16.0").run (Memory.backend.disturbed failingSeventh) (0, twoUsers) =
      (.error (.stepFailed "update_users_to_db_18"
        (.store (.backend (.reported "disk full")))), (tried.2.1, tried.2.2)) :=
    Prod.ext fails rfl
  have attempts : Attempts Memory.storage registry "2.16.0" twoUsers tried.2.2 :=
    .next broken (leavesRecord_of_stepFailed registry_spares broken) .none
  have holds : ∀ transform ∈ transforms,
      Memory.storage.HoldsIn .unlimited twoUsers transform.bucket :=
    fun transform member => (sound transform member).holdsIn
  have changed : tried.2.2.read "users" "1" =
      some (.object [("PortainerAuthorizations", .object [])]) := rfl
  have unchanged : tried.2.2.read "users" "2" = some (.object [("Role", .integer 2)]) := rfl
  have ranAgain := run_of_attempts Memory.faithful holds ran attempts
  exact ⟨tried.2.2, report, _, attempts, changed, unchanged, ran, ranAgain⟩

end StoreMigration.Releases
