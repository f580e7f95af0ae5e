import StoreMigration.Proofs.Migration.Bootstrap

/-! The legacy keys on a storage on which any calls may fail. `Legacy.Course` has the ways in
which they can be replaced by a record: the keys are only looked at until they amount to one,
then it is written, and only once it is there are they removed one after the other. -/

namespace StoreMigration

open Bookkeeping

/-! ## Looking -/

structure Storage.Looks (storage : Storage σ α) (state : σ) (history : List (Exchange σ))
    (after : σ) : Prop where
  harmless : ∀ exchange ∈ history, exchange.request.isWrite = false
  throughout : ∀ exchange ∈ history, storage.objects exchange.after = storage.objects state
  left : storage.objects after = storage.objects state

namespace Storage

variable {storage : Storage σ α} {state other middle after : σ}
  {made later history : List (Exchange σ)}

theorem Looks.append (first : storage.Looks state made middle)
    (second : storage.Looks middle later after) : storage.Looks state (made ++ later) after where
  harmless exchange member :=
    (List.mem_append.mp member).elim (first.harmless exchange) (second.harmless exchange)
  throughout exchange member :=
    (List.mem_append.mp member).elim (first.throughout exchange) fun late =>
      (second.throughout exchange late).trans first.left
  left := second.left.trans first.left

theorem Looks.recordObject (looks : storage.Looks state history after) :
    storage.recordObject after = storage.recordObject state :=
  congrFun (congrFun looks.left bucket) recordKey

theorem looks_of_onlyReads {action : Action ε β} {outcome : Except ε β} (reads : action.OnlyReads)
    (runs : action.Runs storage.backend state outcome history after) :
    storage.Looks state history after := by
  have kept : ∀ request reached, request.isWrite = false →
      storage.objects reached = storage.objects state →
        storage.objects (storage.backend request reached).2 = storage.objects state := by
    intro request reached harmless same
    rw [← same]
    funext bucket key
    have leaves := Request.leaves_of_harmless bucket key harmless
    exact storage.objects_of_untouched request reached (Request.effect_of_leaves leaves _)
  rcases runs.preserved reads kept rfl with ⟨throughout, left⟩
  exact ⟨fun exchange member => runs.keepsTo reads member, throughout, left⟩

theorem entry_of_find {decode : Json → Json.Decoded β} {key : String} {found : Option β}
    (runs : (Action.withError MigrationError.store (Action.getAs decode bucket key)).Runs
      storage.backend state (.ok found) history after) :
    storage.entry decode key state = .ok found := by
  have looked := Action.Runs.getAs storage.backend decode bucket key state
  rcases runs.unique (looked.withError MigrationError.store) with ⟨told, _, _⟩
  cases response : (storage.backend (.get bucket key) state).1 with
  | error error =>
      rw [response] at told
      cases told
  | ok answer =>
      rw [response] at told
      have known : storage.read state bucket key = .ok answer := storage.found response
      rw [entry, known]
      cases decoded : Action.decodeAnswer decode bucket key (.ok answer) with
      | error error =>
          rw [decoded] at told
          cases told
      | ok value =>
          rw [decoded] at told
          cases told
          rfl

theorem entry_of_absent (decode : Json → Json.Decoded β) {key : String}
    (absent : storage.objects state bucket key = none) :
    storage.entry decode key state = .ok none := by
  simp only [entry, read, Objects.answer, absent, Action.decodeAnswer]

theorem absent_of_entry {decode : Json → Json.Decoded β} {key : String}
    (known : storage.entry decode key state = .ok none) :
    storage.objects state bucket key = none := by
  cases present : storage.objects state bucket key with
  | none => rfl
  | some stored =>
      simp only [entry, read, Objects.answer, present] at known
      cases decoded : storage.decode stored with
      | error fault => simp only [decoded, Action.decodeAnswer] at known; cases known
      | ok value =>
          simp only [decoded, Action.decodeAnswer] at known
          split at known <;> cases known

theorem read_of_entry {decode : Json → Json.Decoded β} {key : String} {found : Option β}
    (known : storage.entry decode key state = .ok found) :
    ∃ residue, storage.read state bucket key = .ok residue := by
  cases looked : storage.read state bucket key with
  | ok residue => exact ⟨residue, rfl⟩
  | error error =>
      rw [entry, looked] at known
      cases known

theorem record_of_entry {record : VersionRecord}
    (recorded : storage.entry VersionRecord.ofJson recordKey state = .ok (some record)) :
    storage.record state = .ok record := by
  rw [entry] at recorded
  rw [Storage.record, recordOf, recorded]

theorem entry_of_recorded {record : VersionRecord}
    (stored : storage.recordObject state = some (storage.encode record.toJson)) :
    storage.entry VersionRecord.ofJson recordKey state = .ok (some record) := by
  have found := storage.read_of_encoded record.toJson_floatFree record.toJson_wellFormed
    (by rw [record.depth_toJson]; decide) stored
  simp only [entry, found, Action.decodeAnswer, VersionRecord.ofJson_toJson]

/-! ## Legacy keys that amount to a record -/

theorem HasLegacy.congr {record : VersionRecord} (has : storage.HasLegacy other record)
    (same : storage.objects state = storage.objects other) : storage.HasLegacy state record := by
  rcases has with ⟨numbered, edited, identified, released⟩
  exact .intro ((entry_congr same _ _).trans numbered) ((entry_congr same _ _).trans edited)
    ((entry_congr same _ _).trans identified) released

theorem HasLegacy.unique {record another : VersionRecord} (has : storage.HasLegacy state record)
    (hasToo : storage.HasLegacy state another) : record = another := by
  rcases has with ⟨numbered, edited, identified, released⟩
  rcases hasToo with ⟨numberedToo, editedToo, identifiedToo, releasedToo⟩
  cases numbered.symm.trans numberedToo
  cases edited.symm.trans editedToo
  cases identified.symm.trans identifiedToo
  cases released.symm.trans releasedToo
  rfl

theorem of_demand {decode : Json → Json.Decoded β} {key : String}
    {rest : β → Action MigrationError γ} {result : γ}
    (runs : (do
      let found ← Action.withError MigrationError.store (Action.getAs decode bucket key)
      let value ← Action.ofResult (Legacy.require key found)
      rest value).Runs storage.backend state (.ok result) history after) :
    ∃ value later middle, storage.entry decode key state = .ok (some value) ∧
      storage.objects middle = storage.objects state ∧
      (rest value).Runs storage.backend middle (.ok result) later after := by
  rcases runs.bind_cases with ⟨_, _, impossible⟩ | ⟨found, made, middle, later, find, onceFound, _⟩
  · cases impossible
  rcases onceFound.bind_cases with ⟨_, _, impossible⟩ | ⟨value, none, place, calls, demand, onward, _⟩
  · cases impossible
  rcases demand.unique (.ofResult rfl middle) with ⟨there, _, rfl⟩
  have looks := looks_of_onlyReads (Action.onlyReads_find decode key) find
  have known := entry_of_find find
  cases found with
  | none => cases there
  | some present =>
      cases there
      exact ⟨_, _, _, known, looks.left, onward⟩

/-- A search for legacy keys finds that there is no number, or all that a record needs. -/
theorem found_of_legacy {found : Option VersionRecord}
    (runs : Legacy.record?.Runs storage.backend state (.ok found) history after) :
    (found = none ∧ storage.entry Json.decodeInt64 Legacy.versionKey state = .ok none) ∨
      ∃ record, found = some record ∧ storage.HasLegacy state record := by
  rcases runs.bind_cases with ⟨_, _, impossible⟩ | ⟨number, made, first, later, find, onceNumbered, _⟩
  · cases impossible
  have numbered := entry_of_find find
  have sameFirst := (looks_of_onlyReads (Action.onlyReads_find _ _) find).left
  cases number with
  | none =>
      rcases onceNumbered.unique (.pure none first) with ⟨told, _, _⟩
      cases told
      exact .inl ⟨rfl, numbered⟩
  | some number =>
      rcases of_demand onceNumbered with ⟨edition, _, second, edited, sameSecond, onceEdited⟩
      rcases of_demand onceEdited with ⟨instanceId, _, third, identified, _, onceIdentified⟩
      rcases onceIdentified.bind_cases with ⟨_, _, impossible⟩ | ⟨version, _, _, _, map, last, _⟩
      · cases impossible
      rcases map.unique (.ofResult rfl third) with ⟨released, _, _⟩
      rcases last.unique (.pure _ _) with ⟨told, _, _⟩
      cases told
      refine .inr ⟨_, rfl, ?_⟩
      exact .intro numbered ((entry_congr sameFirst.symm _ _).trans edited)
        ((entry_congr (sameSecond.trans sameFirst).symm _ _).trans identified) released.symm

end Storage

namespace Legacy

/-! ## Removing the keys -/

def keys : List String := [versionKey, editionKey, instanceKey]

theorem keys_nodup : keys.Nodup := by decide

theorem ne_recordKey_of_mem {key : String} (member : key ∈ keys) : key ≠ recordKey := by
  rintro rfl
  exact absurd member (by decide)

theorem ne_updatingKey_of_mem {key : String} (member : key ∈ keys) : key ≠ updatingKey := by
  rintro rfl
  exact absurd member (by decide)

/-- Keys are deleted one after the other, whether or not that succeeds. -/
inductive Removes (backend : Backend σ) : List String → σ → List (Exchange σ) → σ → Prop
  | nil {state : σ} : Removes backend [] state [] state
  | cons {key : String} {rest : List String} {state after : σ} {later : List (Exchange σ)}
      (others : Removes backend rest (backend (.delete bucket key) state).2 later after) :
      Removes backend (key :: rest) state (backend.exchange (.delete bucket key) state :: later) after

def Survives (history : List (Exchange σ)) (key : String) : Prop :=
  ∃ exchange ∈ history, exchange.request = .delete bucket key ∧ exchange.succeeded = false

section Removes

variable {storage : Storage σ α} {listed : List String} {state after : σ}
  {history : List (Exchange σ)}

theorem Removes.elsewhere (removes : Removes storage.backend listed state history after)
    {other key : String} (apart : other ≠ bucket ∨ key ∉ listed) :
    (∀ exchange ∈ history,
        storage.objects exchange.after other key = storage.objects state other key) ∧
      storage.objects after other key = storage.objects state other key := by
  induction removes with
  | nil => exact ⟨fun _ member => absurd member List.not_mem_nil, rfl⟩
  | @cons head rest state after later others induction =>
      have kept : storage.objects (storage.backend (.delete bucket head) state).2 other key =
          storage.objects state other key := by
        apply storage.objects_of_untouched
        intro objects
        exact objects.set_of_ne _ (apart.imp_right fun outside => List.ne_of_not_mem_cons outside)
      rcases induction (apart.imp_right List.not_mem_of_not_mem_cons) with ⟨throughout, left⟩
      refine ⟨?_, left.trans kept⟩
      intro exchange member
      rcases List.mem_cons.mp member with rfl | member
      · exact kept
      · exact (throughout exchange member).trans kept

theorem survives_cons_iff {exchange : Exchange σ} {later : List (Exchange σ)} {key : String} :
    Survives (exchange :: later) key ↔
      (exchange.request = .delete bucket key ∧ exchange.succeeded = false) ∨ Survives later key := by
  simp [Survives]

theorem Removes.not_survives {backend : Backend σ}
    (removes : Removes backend listed state history after) {key : String} (outside : key ∉ listed) :
    ¬ Survives history key := by
  induction removes with
  | nil =>
      rintro ⟨exchange, member, _⟩
      cases member
  | @cons head rest state after later others induction =>
      rw [survives_cons_iff]
      rintro (⟨deletes, _⟩ | survives)
      · cases deletes
        exact outside List.mem_cons_self
      · exact induction (List.not_mem_of_not_mem_cons outside) survives

theorem Removes.removed (removes : Removes storage.backend listed state history after)
    (distinct : listed.Nodup) {key : String} (member : key ∈ listed) :
    (Survives history key →
        storage.objects after bucket key = storage.objects state bucket key) ∧
      (¬ Survives history key → storage.objects after bucket key = none) := by
  induction removes with
  | nil => cases member
  | @cons head rest state after later others induction =>
      rcases List.nodup_cons.mp distinct with ⟨once, distinctRest⟩
      rw [survives_cons_iff]
      by_cases same : key = head
      · subst same
        -- The names are distinct, so nothing that follows touches the one deleted first.
        have kept : storage.objects after bucket key =
            storage.objects (storage.backend (.delete bucket key) state).2 bucket key :=
          (others.elsewhere (.inr once)).2
        have notLater := others.not_survives once
        rw [kept]
        cases response : (storage.backend (.delete bucket key) state).1 with
        | error error =>
            have failed : (storage.backend.exchange (.delete bucket key) state).succeeded = false := by
              simp only [Exchange.succeeded, Backend.exchange, response]
            rw [storage.refused response]
            exact ⟨fun _ => rfl, fun survives => absurd (.inl ⟨rfl, failed⟩) survives⟩
        | ok answer =>
            have granted : (storage.backend.exchange (.delete bucket key) state).succeeded = true := by
              simp only [Exchange.succeeded, Backend.exchange, response]
            rw [storage.granted response, granted]
            refine ⟨?_, fun _ => Objects.set_same _ _ _ _⟩
            rintro (⟨_, failed⟩ | survives)
            · cases failed
            · exact absurd survives notLater
      · have inRest : key ∈ rest := (List.mem_cons.mp member).resolve_left same
        have untouched : storage.objects (storage.backend (.delete bucket head) state).2 bucket key =
            storage.objects state bucket key :=
          storage.objects_of_untouched _ _ fun objects => objects.set_of_ne _ (.inr same)
        have another : (storage.backend.exchange (.delete bucket head) state).request ≠
            .delete bucket key := by
          intro deletes
          cases deletes
          exact same rfl
        rw [← untouched, or_iff_right (fun own => another own.1)]
        exact induction distinctRest inRest

end Removes

/-! ## The ways it can go -/

variable (storage : Storage σ α) (state : σ)

inductive Course : Except MigrationError Outcome → List (Exchange σ) → σ → Prop
  | failed {error : MigrationError} {history : List (Exchange σ)} {after : σ}
      (looks : storage.Looks state history after) : Course (.error error) history after
  | versioned {record : VersionRecord} {history : List (Exchange σ)} {after : σ}
      (recorded : storage.entry VersionRecord.ofJson recordKey state = .ok (some record))
      (looks : storage.Looks state history after) : Course (.ok .alreadyVersioned) history after
  | unnumbered {history : List (Exchange σ)} {after : σ}
      (unrecorded : storage.entry VersionRecord.ofJson recordKey state = .ok none)
      (unnumbered : storage.entry Json.decodeInt64 versionKey state = .ok none)
      (looks : storage.Looks state history after) : Course (.ok .noLegacyData) history after
  | notPersisted {record : VersionRecord} {made : List (Exchange σ)} {middle : σ}
      {cause : StoreError}
      (unrecorded : storage.entry VersionRecord.ofJson recordKey state = .ok none)
      (has : storage.HasLegacy state record) (looks : storage.Looks state made middle)
      (unwritten : (storage.backend (recordRequest record) middle).1 = .error cause) :
      Course (.error (.notPersisted recordKey cause))
        (made ++ [storage.backend.exchange (recordRequest record) middle])
        (storage.backend (recordRequest record) middle).2
  | imported {record : VersionRecord} {made later : List (Exchange σ)} {middle after : σ}
      (unrecorded : storage.entry VersionRecord.ofJson recordKey state = .ok none)
      (has : storage.HasLegacy state record) (looks : storage.Looks state made middle)
      (written : (storage.backend (recordRequest record) middle).1 = .ok ())
      (removes : Removes storage.backend keys (storage.backend (recordRequest record) middle).2
        later after) :
      Course (.ok (.imported record))
        (made ++ storage.backend.exchange (recordRequest record) middle :: later) after

variable {storage state} {history : List (Exchange σ)} {after : σ}

theorem removes_of_runs {record : VersionRecord} {outcome : Except MigrationError Outcome}
    (runs : (do
      Action.ignoringError (Action.delete bucket versionKey)
      Action.ignoringError (Action.delete bucket editionKey)
      Action.ignoringError (Action.delete bucket instanceKey)
      return .imported record : Action MigrationError Outcome).Runs storage.backend state outcome
        history after) :
    outcome = .ok (.imported record) ∧ Removes storage.backend keys state history after := by
  have removal : ∀ key reached, (Action.ignoringError (Action.delete bucket key) :
      Action MigrationError Unit).Runs storage.backend reached (.ok ())
        [storage.backend.exchange (.delete bucket key) reached]
        (storage.backend (.delete bucket key) reached).2 :=
    fun key reached => (Action.Runs.request (.delete bucket key) reached).ignoringError
  rcases runs.of_bind_ok (removal versionKey state) with ⟨_, rfl, onceUnnumbered⟩
  rcases onceUnnumbered.of_bind_ok (removal editionKey _) with ⟨_, rfl, onceUnedited⟩
  rcases onceUnedited.of_bind_ok (removal instanceKey _) with ⟨_, rfl, onceRemoved⟩
  rcases onceRemoved.unique (.pure _ _) with ⟨rfl, rfl, rfl⟩
  exact ⟨rfl, .cons (.cons (.cons .nil))⟩

theorem course {outcome : Except MigrationError Outcome}
    (runs : bridge.Runs storage.backend state outcome history after) :
    Course storage state outcome history after := by
  rcases runs.bind_cases with ⟨error, find, rfl⟩ | ⟨found, made, middle, later, find, onceFound, rfl⟩
  · exact .failed (Storage.looks_of_onlyReads (Action.onlyReads_find _ _) find)
  have known := Storage.entry_of_find find
  have looks := Storage.looks_of_onlyReads (Action.onlyReads_find _ _) find
  cases found with
  | some record =>
      rcases onceFound.bind_cases with ⟨error, look, rfl⟩ | ⟨_, calls, reached, _, look, last, rfl⟩
      · exact .failed (looks.append (Storage.looks_of_onlyReads (Action.onlyReads_contains _) look))
      · rcases last.unique (.pure _ _) with ⟨rfl, rfl, rfl⟩
        rw [List.append_nil]
        exact .versioned known
          (looks.append (Storage.looks_of_onlyReads (Action.onlyReads_contains _) look))
  | none =>
      rcases onceFound.bind_cases with ⟨error, look, rfl⟩ |
        ⟨legacy, calls, reached, further, look, onceLooked, rfl⟩
      · exact .failed (looks.append (Storage.looks_of_onlyReads onlyReads_record? look))
      have looksOn := looks.append (Storage.looks_of_onlyReads onlyReads_record? look)
      rw [← List.append_assoc]
      rcases Storage.found_of_legacy look with ⟨rfl, unnumbered⟩ | ⟨record, rfl, has⟩
      · rcases onceLooked.unique (.pure _ _) with ⟨rfl, rfl, rfl⟩
        rw [List.append_nil]
        exact .unnumbered known ((Storage.entry_congr looks.left.symm _ _).trans unnumbered) looksOn
      have hasBefore := has.congr looks.left.symm
      have write := runs_writeRecord storage.backend reached record
      cases written : (storage.backend (recordRequest record) reached).1 with
      | error cause =>
          rw [written] at write
          rcases onceLooked.of_bind_error write with ⟨rfl, rfl, rfl⟩
          exact .notPersisted known hasBefore looksOn written
      | ok answer =>
          rw [written] at write
          rcases onceLooked.of_bind_ok write with ⟨_, rfl, onceWritten⟩
          rcases removes_of_runs onceWritten with ⟨rfl, removes⟩
          exact .imported known hasBefore looksOn written removes

end Legacy

end StoreMigration
